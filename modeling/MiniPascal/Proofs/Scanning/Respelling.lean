/-
This file writes the names and the reserved words of a text anew, and shows that the other text has the
same tokens apart from the spellings.
-/

import Mathlib
import MiniPascal.Proofs.Scanning.Lookahead
import MiniPascal.Proofs.Scanning.Lossless
import MiniPascal.Proofs.Scanning.Runs
import MiniPascal.SymbolTable

namespace MiniPascal

open Lexeme

/-- What is written for a token under other names: an identifier with the new name, a reserved word
with its letters in any case, and otherwise the token itself. -/
inductive Token.Respelt (names : String → String) (token : Token) : String → Prop where
  | identifier {spelling : String} (kind : token.kind = .identifier)
      (name : IsName spelling.toList) (free : nameKind spelling = .identifier)
      (same : SymbolTable.key spelling = names (SymbolTable.key token.text)) :
      Respelt names token spelling
  | keyword {word : Keyword} {spelling : String} (kind : token.kind = .keyword word)
      (recased : spelling.toList.map Char.toLower = word.spelling.toList) :
      Respelt names token spelling
  | other (noName : token.kind ≠ .identifier) (noWord : ∀ word, token.kind ≠ .keyword word) :
      Respelt names token token.text

/-- What is written for the text before a scanner under other names. Everything between the tokens
stays, and so does what is behind the last of them. -/
inductive Scanner.Respelt (names : String → String) : Scanner → List Char → Prop where
  | rest {scanner : Scanner}
      (ends : ∀ token after, scanner.next = (.ok token, after) → token.kind.isEndOfText = true) :
      Respelt names scanner scanner.rest
  | token {scanner after : Scanner} {token : Token} {gap rest : List Char} {spelling : String}
      (step : scanner.next = (.ok token, after)) (inside : token.kind.isEndOfText = false)
      (whole : scanner.rest = gap ++ (token.text.toList ++ after.rest))
      (spelt : token.Respelt names spelling) (others : Respelt names after rest) :
      Respelt names scanner (gap ++ (spelling.toList ++ rest))

/-- Tokens that are equal but for their spellings; the spellings of identifiers belong to the old and
to the new name. -/
structure Token.RenamedBy (names : String → String) (token copy : Token) : Prop where
  kind : copy.kind = token.kind
  line : copy.line = token.line
  name : token.kind = .identifier →
    SymbolTable.key copy.text = names (SymbolTable.key token.text)

/-- The numbers among the tokens stand before marks and reserved words. -/
def NumbersEnd (tokens : List Token) : Prop :=
  ∀ token behind, token :: behind <:+ tokens → token.kind.isNumber = true →
    behind.head?.any (·.kind.endsNumber) = true

variable {names : String → String}

section Words

theorem isLetter_of_ascii {character : Char} (alpha : character.isAlpha = true) :
    character.toNat < 128 ∧ Text.isLetter character = true := by
  have small : character.toNat < 128 := Nat.lt_of_le_of_lt (isAlpha_bounds alpha).2 (by decide)
  exact ⟨small, by rw [Text.isLetter, if_pos small, alpha]⟩

theorem Keyword.letters (word : Keyword) :
    word.spelling.toList.all Char.isLower = true ∧ 2 ≤ word.spelling.toList.length := by
  cases word <;> decide

/-- A reserved word in any case has the form of a name, is read as this word, and starts with two
letters. -/
theorem Keyword.parts_of_recased {word : Keyword} {spelling : String}
    (recased : spelling.toList.map Char.toLower = word.spelling.toList) :
    IsName spelling.toList ∧ nameKind spelling = .keyword word ∧
      ∃ first second rest, spelling.toList = first :: second :: rest ∧
        Text.isLetter first = true ∧ Text.isLetter second = true := by
  obtain ⟨small, long⟩ := word.letters
  have letters : ∀ character ∈ spelling.toList,
      character.toNat < 128 ∧ Text.isLetter character = true := by
    intro character inside
    have member : character.toLower ∈ word.spelling.toList := recased ▸ List.mem_map_of_mem inside
    have alpha := List.all_eq_true.mp small _ member
    rw [Char.isLower_toLower_eq_isAlpha] at alpha
    exact isLetter_of_ascii alpha
  have lowered : Text.lower spelling = word.spelling := by
    rw [Text.lower, Text.lowerAfter_of_ascii fun character inside => (letters character inside).1,
      recased, String.ofList_toList]
  rw [← recased, List.length_map] at long
  obtain ⟨first, second, rest, same⟩ : ∃ first second rest,
      spelling.toList = first :: second :: rest := by
    match characters : spelling.toList, long with
    | first :: second :: rest, _ => exact ⟨first, second, rest, rfl⟩
  have firstLetter := (letters first (by simp [same])).2
  refine ⟨⟨by rw [same]; exact firstLetter, List.all_eq_true.mpr fun character inside =>
    continuesName_of_isLetter (letters character inside).2⟩, ?_, first, second, rest, same,
    firstLetter, (letters second (by simp [same])).2⟩
  rw [nameKind, lowered, Keyword.ofSpelling?_eq_some_iff.mpr rfl]

end Words

section Steps

namespace Token.Respelt

variable {token : Token} {spelling : String} {rest other : List Char}

/-- The front of a text starts as before when its first token is written anew. -/
theorem sameStart (spelt : token.Respelt names spelling)
    (reads : WordBefore token.kind token.text.toList rest) :
    SameStart (token.text.toList ++ rest) (spelling.toList ++ other) := by
  have letters {word copy : List Char} (name : IsName word) (nameCopy : IsName copy) :
      SameStart (word ++ rest) (copy ++ other) := by
    obtain ⟨starts, _⟩ := name
    obtain ⟨startsCopy, _⟩ := nameCopy
    cases word with
    | nil => cases starts
    | cons first word =>
        cases copy with
        | nil => cases startsCopy
        | cons second copy => exact .letters starts startsCopy
  cases spelt with
  | identifier kind name => exact letters (reads.stops (.inl kind)).1 name
  | keyword kind recased =>
      exact letters (reads.stops (.inr ⟨_, kind⟩)).1 (Keyword.parts_of_recased recased).1
  | other =>
      obtain ⟨first, behind, same⟩ := List.exists_cons_of_ne_nil reads.nonempty
      rw [same]
      exact .same rfl

/-- A token that is written anew is read as a token of the same kind. -/
theorem wordBefore (spelt : token.Respelt names spelling)
    (reads : WordBefore token.kind token.text.toList rest) (behind : SameStart rest other)
    (ends : token.kind.isNumber = true → NumberEnds other) :
    WordBefore token.kind spelling.toList other := by
  have named (name : IsName spelling.toList) (kind : nameKind spelling = token.kind)
      (isNamed : token.kind = .identifier ∨ ∃ word, token.kind = .keyword word) :
      WordBefore token.kind spelling.toList other := by
    have found := name.wordBefore (behind.stops (reads.stops isNamed).2)
    rwa [String.ofList_toList, kind] at found
  cases spelt with
  | identifier kind name free => exact named name (free.trans kind.symm) (.inl kind)
  | keyword kind recased =>
      obtain ⟨name, same, _⟩ := Keyword.parts_of_recased recased
      exact named name (same.trans kind.symm) (.inr ⟨_, kind⟩)
  | other => exact reads.of_sameStart behind ends

/-- An identifier is written with its new name. -/
theorem key (spelt : token.Respelt names spelling) (kind : token.kind = .identifier) :
    SymbolTable.key spelling = names (SymbolTable.key token.text) := by
  cases spelt with
  | identifier _ _ _ same => exact same
  | keyword word =>
      rw [kind] at word
      cases word
  | other noName => exact absurd kind noName

/-- A token that ends a number does so in any spelling. -/
theorem numberEnds (spelt : token.Respelt names spelling)
    (reads : WordBefore token.kind token.text.toList rest) (ends : token.kind.endsNumber = true) :
    NumberEnds (spelling.toList ++ other) := by
  cases spelt with
  | identifier kind =>
      rw [kind] at ends
      cases ends
  | keyword kind recased =>
      obtain ⟨_, _, first, second, more, same, letter, letterBehind⟩ :=
        Keyword.parts_of_recased recased
      rw [same]
      exact numberEnds_of_letters letter letterBehind _
  | other noName noWord =>
      cases kind : token.kind with
      | symbol mark =>
          rw [kind] at reads ends
          rw [reads.spelling_of_symbol]
          exact numberEnds_of_symbol (by simpa [Kind.endsNumber] using ends) _
      | keyword word => exact absurd kind (noWord word)
      | _ =>
          rw [kind] at ends
          cases ends

end Token.Respelt

namespace Scanner

variable {scanner after place : Scanner} {token : Token} {other : List Char} {tokens : List Token}

/-- The gap that stays is the one before the token. -/
theorem Reads.gap_eq {gap front word rest : List Char} {kind : Kind}
    (reads : scanner.Reads gap kind word rest) (whole : scanner.rest = front ++ (word ++ rest)) :
    front = gap := List.append_cancel_right (whole.symm.trans reads.whole)

theorem Respelt.sameStart (spelt : scanner.Respelt names other) :
    SameStart scanner.rest other := by
  cases spelt with
  | rest => exact .same rfl
  | token step inside whole spelt =>
      obtain ⟨gap, reads, _⟩ := reads_of_next step inside
      rw [whole]
      exact (spelt.sameStart reads.toWordBefore).append _

/-- What is written before a mark or a reserved word continues no number. -/
theorem Respelt.numberEnds (spelt : scanner.Respelt names other)
    (step : scanner.next = (.ok token, after)) (ends : token.kind.endsNumber = true) :
    NumberEnds other := by
  cases spelt with
  | rest ended =>
      have last := Kind.isEndOfText_iff.mp (ended token after step)
      rw [last] at ends
      cases ends
  | @token _ _ _ front _ _ found inside whole spelt =>
      obtain ⟨gap, reads, _⟩ := reads_of_next found inside
      obtain rfl := reads.gap_eq whole
      rw [found] at step
      cases step
      cases front with
      | nil => exact spelt.numberEnds reads.toWordBefore ends
      | cons first front =>
          refine numberEnds_of_apart fun character head => ?_
          obtain rfl := Option.some.inj head
          exact reads.closed.startsGap

/-- The next token is found in the other text. A number must stand before a mark or a reserved
word. -/
theorem Respelt.next (spelt : scanner.Respelt names place.rest) (line : place.line = scanner.line)
    (step : scanner.next = (.ok token, after)) (inside : token.kind.isEndOfText = false)
    (ends : token.kind.isNumber = true →
      ∃ follower last, after.next = (.ok follower, last) ∧ follower.kind.endsNumber = true) :
    ∃ copy afterCopy, place.next = (.ok copy, afterCopy) ∧ token.RenamedBy names copy ∧
      after.Respelt names afterCopy.rest ∧ afterCopy.line = after.line := by
  generalize text : place.rest = rest at spelt
  cases spelt with
  | rest ended =>
      rw [ended token after step] at inside
      cases inside
  | @token _ _ _ front rest spelling found _ whole spelt others =>
      rw [found] at step
      cases step
      obtain ⟨gap, reads, tokenLine, afterLine⟩ := reads_of_next found inside
      obtain rfl := reads.gap_eq whole
      have readsCopy : place.Reads front token.kind spelling.toList rest :=
        ⟨spelt.wordBefore reads.toWordBefore others.sameStart fun number => by
          obtain ⟨follower, last, next, ends⟩ := ends number
          exact others.numberEnds next ends, reads.closed, text⟩
      obtain ⟨afterCopy, stepCopy, restCopy, lineCopy⟩ := readsCopy.next
      rw [line] at stepCopy lineCopy
      refine ⟨_, afterCopy, stepCopy, ⟨rfl, tokenLine.symm, fun kind => ?_⟩, restCopy ▸ others,
        lineCopy.trans (tokenLine.symm.trans afterLine.symm)⟩
      rw [String.ofList_toList]
      exact spelt.key kind

/-- What the scanner takes, it takes under other names. -/
theorem Takes.respelt (takes : scanner.Takes tokens after) (numbers : NumbersEnd tokens)
    (spelt : scanner.Respelt names place.rest) (line : place.line = scanner.line) :
    ∃ copies last, place.Takes copies last ∧ List.Forall₂ (Token.RenamedBy names) tokens copies := by
  induction takes generalizing place with
  | none => exact ⟨[], place, .none, .nil⟩
  | @next scanner middle after token tokens step inside others inductionHypothesis =>
      have ends (number : token.kind.isNumber = true) :
          ∃ follower last, middle.next = (.ok follower, last) ∧ follower.kind.endsNumber = true := by
        have follows := numbers token tokens (List.suffix_refl _) number
        cases others with
        | none => cases follows
        | next step => exact ⟨_, _, step, follows⟩
      obtain ⟨copy, placeAfter, stepCopy, renamed, spelt, line⟩ := spelt.next line step inside ends
      obtain ⟨copies, last, takes, alike⟩ := inductionHypothesis
        (fun token behind suffix => numbers token behind (suffix.trans (List.suffix_cons _ _)))
        spelt line
      refine ⟨copy :: copies, last, .next stepCopy ?_ takes, .cons renamed alike⟩
      rw [renamed.kind]
      exact inside

end Scanner

end Steps

end MiniPascal
