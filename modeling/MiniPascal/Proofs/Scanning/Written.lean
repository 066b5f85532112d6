/-
This file scans texts that are written token by token: every token is read back before what is
written behind it, with or without a blank between them.
-/

import MiniPascal.Proofs.Scanning.Lookahead
import MiniPascal.Proofs.Scanning.Relayout
import MiniPascal.Proofs.Scanning.Runs

namespace MiniPascal

/-- A name or a literal. -/
def Kind.isAtom : Kind → Bool
  | .identifier | .integer _ | .real _ | .string _ | .character _ => true
  | _ => false

namespace Lexeme

open MiniPascal.Text

/-- What is written behind a name or a literal starts with a blank, a parenthesis or a colon. -/
def Delimited (rest : List Char) : Prop :=
  ∀ first, rest.head? = some first → first ∈ [' ', ')', ':']

variable {kind : Kind} {word rest : List Char}

theorem apart_nil : Apart [] := nofun

theorem apart_blank (rest : List Char) : Apart (' ' :: rest) := by
  intro first head
  cases head
  decide

theorem delimited_nil : Delimited [] := nofun

theorem delimited_cons {first : Char} (member : first ∈ [' ', ')', ':']) (rest : List Char) :
    Delimited (first :: rest) := by
  intro other head
  cases head
  exact member

namespace Delimited

/-- What holds of no delimiter holds of nothing that such a rest starts with. -/
theorem head (ends : Delimited rest) {taken : Char → Bool}
    (none : [' ', ')', ':'].all (fun character => !taken character) = true) :
    ∀ first, rest.head? = some first → taken first = false := fun first starts => by
  simpa using List.all_eq_true.mp none first (ends first starts)

theorem numberEnds (ends : Delimited rest) : NumberEnds rest := by
  cases rest with
  | nil => exact numberEnds_of_apart apart_nil
  | cons first rest =>
      have member := ends first rfl
      simp only [List.mem_cons, List.not_mem_nil, or_false] at member
      rcases member with rfl | rfl | rfl
      · exact numberEnds_of_apart (apart_blank rest)
      · exact @numberEnds_of_symbol .rightParenthesis nofun rest
      · exact @numberEnds_of_symbol .colon nofun rest

theorem endsBefore (ends : Delimited rest) {body : StringBody} (closed : body.closed = true) :
    body.EndsBefore rest := by
  intro first starts
  refine ⟨fun _ => ?_, fun opened => ?_⟩
  · have noQuote : [' ', ')', ':'].all (fun character => !(character == '\'')) = true := rfl
    simpa using ends.head noQuote first starts
  · rw [closed] at opened
    cases opened

end Delimited

/-- A token is read before every gap. -/
theorem Word.before_apart (formed : Word kind word) (closed : kind ≠ .error) (apart : Apart rest) :
    WordBefore kind word rest where
  starts := formed.starts _ apart
  nonempty := formed.nonempty
  piece := formed.again _ apart fun opened => absurd opened.1 closed

/-- The spelling of a token is read as that token at the end of a text. -/
theorem Word.readAs (formed : Word kind word) (closed : kind ≠ .error) :
    Starts word ∧ ReadAs word word.length kind := by
  obtain ⟨starts, nonempty, found⟩ := formed.before_apart closed apart_nil
  rw [List.append_nil] at starts found
  exact ⟨starts, readAs_of_piece nonempty found⟩

/-- A name or a literal is read before every delimiter. -/
theorem Word.before_delimited (formed : Word kind word) (atom : kind.isAtom = true)
    (ends : Delimited rest) : WordBefore kind word rest := by
  have closed : kind ≠ .error := by
    rintro rfl
    cases atom
  obtain ⟨starts, reads⟩ := formed.readAs closed
  obtain ⟨first, behind, rfl⟩ := List.exists_cons_of_ne_nil formed.nonempty
  generalize size : (first :: behind).length = length at reads
  cases reads with
  | symbol | other => cases atom
  | string =>
      have taken : behind.take (StringBody.scan behind).length = behind := by
        rw [← Nat.succ.inj size, List.take_length]
      have shut : (StringBody.scan behind).closed = true :=
        eq_true_of_ne_false fun opened => closed (StringBody.kind_of_open opened)
      have again := StringBody.scan_again (ends.endsBefore shut)
      rw [taken] at again
      refine ⟨⟨rfl, rfl⟩, formed.nonempty, ?_⟩
      rw [List.cons_append, piece_of_quote, again, size]
  | number unmarked digit read =>
      have spelling : (Numeral.scan (first :: behind)).spelling = first :: behind := by
        have front := Numeral.spelling_starts (first :: behind)
        exact front.eq_of_length size.symm
      have again := Numeral.scan_before (Numeral.formed_scan (first :: behind)) ends.numberEnds
      rw [spelling, List.cons_append] at again
      refine ⟨starts.of_head unmarked _, formed.nonempty, ?_⟩
      rw [List.cons_append, piece_of_digit (symbol?_none_of_head unmarked _) digit, again, read,
        size]
  | name unmarked noQuote noDigit letter =>
      have taken : (first :: behind).takeWhile continuesName = first :: behind :=
        (List.takeWhile_prefix _).eq_of_length size.symm
      have name : IsName (first :: behind) := by
        refine ⟨letter, List.all_eq_true.mpr fun character inside => ?_⟩
        rw [← taken] at inside
        exact List.mem_takeWhile_imp inside
      rw [taken]
      exact name.wordBefore (ends.head (by decide))

/-- No name or literal starts with the character of a mark. -/
theorem Word.head_ne (formed : Word kind word) (atom : kind.isAtom = true) {character : Char}
    (marks : symbol? [character] ≠ none) (rest : List Char) :
    (word ++ rest).head? ≠ some character := by
  have closed : kind ≠ .error := by
    rintro rfl
    cases atom
  have reads := (formed.readAs closed).2
  obtain ⟨first, behind, rfl⟩ := List.exists_cons_of_ne_nil formed.nonempty
  intro head
  cases head
  have noMark : symbol? (character :: behind) ≠ none := fun none =>
    marks (symbol?_none_of_head none [])
  generalize (character :: behind).length = length at reads
  cases reads with
  | symbol | other => cases atom
  | string => exact absurd rfl noMark
  | number unmarked | name unmarked => exact noMark unmarked

/-- A mark is read before a rest that does not make another one of it. -/
theorem wordBefore_of_symbol {mark : Symbol}
    (found : symbol? (mark.spelling.toList ++ rest) = some mark)
    (noStar : mark = .leftParenthesis → rest.head? ≠ some '*') :
    WordBefore (.symbol mark) mark.spelling.toList rest where
  starts := by
    cases mark with
    | leftParenthesis =>
        refine ⟨rfl, ?_⟩
        cases rest with
        | nil => rfl
        | cons first rest =>
            have noStar : first ≠ '*' := fun same => noStar rfl (congrArg some same)
            change startsComment ('(' :: first :: rest) = false
            simp [startsComment, noStar]
    | _ => exact ⟨rfl, rfl⟩
  nonempty := by cases mark <;> decide
  piece := by rw [piece_of_symbol found, String.length_toList]

/-- A reserved word in lower case is read back. -/
theorem word_of_keyword (word : Keyword) : Word (.keyword word) word.spelling.toList := by
  have name : IsName word.spelling.toList := by cases word <;> exact ⟨rfl, rfl⟩
  have kind : nameKind (String.ofList word.spelling.toList) = .keyword word := by
    cases word <;> rfl
  have reads : WordBefore _ word.spelling.toList [] := name.wordBefore nofun
  rw [kind] at reads
  exact reads.word

/-- A text is written of tokens with the given contents. -/
inductive Writes : List Char → List (Kind × String) → Prop where
  | done : Writes [] []
  | blank {rest : List Char} {contents : List (Kind × String)} (others : Writes rest contents) :
      Writes (' ' :: rest) contents
  | word {kind : Kind} {spelling : String} {rest : List Char} {contents : List (Kind × String)}
      (reads : WordBefore kind spelling.toList rest) (others : Writes rest contents) :
      Writes (spelling.toList ++ rest) ((kind, spelling) :: contents)

/-- A mark is written before a rest that does not make another one of it. -/
theorem Writes.symbol {contents : List (Kind × String)} (others : Writes rest contents)
    (mark : Symbol) (found : symbol? (mark.spelling.toList ++ rest) = some mark)
    (noStar : mark = .leftParenthesis → rest.head? ≠ some '*') :
    Writes (mark.spelling.toList ++ rest) ((.symbol mark, mark.spelling) :: contents) :=
  .word (wordBefore_of_symbol found noStar) others

/-- A word that comes before a blank is written there. -/
theorem Writes.spaced {spelling : String} {contents : List (Kind × String)}
    (others : Writes rest contents) (formed : Word kind spelling.toList) (closed : kind ≠ .error) :
    Writes (spelling.toList ++ ' ' :: rest) ((kind, spelling) :: contents) :=
  .word (formed.before_apart closed (apart_blank rest)) (.blank others)

end Lexeme

namespace Scanner

open Lexeme

variable {scanner : Scanner}

/-- Every token that the scanner takes has a spelling that is read back. -/
theorem Takes.words {after : Scanner} {tokens : List Token} (takes : scanner.Takes tokens after) :
    ∀ token ∈ tokens, Word token.kind token.text.toList := by
  induction takes with
  | none => exact nofun
  | next step inside _ others =>
      obtain ⟨gap, reads, _⟩ := reads_of_next step inside
      exact List.forall_mem_cons.mpr ⟨reads.word, others⟩

theorem words_of_scan (text : String) :
    ∀ token ∈ (ofText text).scan.tokens, Word token.kind token.text.toList := by
  obtain ⟨after, takes⟩ := takes_of_scanTokens (List.append_nil (ofText text).scan.tokens).symm
  exact takes.words

/-- A written text is scanned to its tokens, up to the end of the text. -/
theorem scanTokens_of_writes {gap text : List Char} {contents : List (Kind × String)}
    (writes : Writes text contents) (closed : ClosedGap gap) (starts : scanner.rest = gap ++ text)
    {count : Nat} (enough : scanner.rest.length < count) :
    (scanner.scanTokens count).tokens.map Token.content = contents ∧
      ∃ line, (scanner.scanTokens count).ending = .endOfText line := by
  -- Blanks that are passed over belong to the gap in front of the next token.
  induction writes generalizing scanner gap count with
  | done =>
      rw [List.append_nil] at starts
      have final : FinalGap scanner.rest := starts ▸ .closed closed
      rw [scanTokens_of_final final (Nat.ne_zero_of_lt enough)]
      exact ⟨rfl, _, rfl⟩
  | blank others inductionHypothesis =>
      have blank : ClosedGap [' '] := .blank rfl .nil
      exact inductionHypothesis (closed.append blank) (by simpa using starts) enough
  | word reads others inductionHypothesis =>
      have word := reads.word
      obtain ⟨count, rfl⟩ := Nat.exists_eq_succ_of_ne_zero (Nat.ne_zero_of_lt enough)
      obtain ⟨after, step, rest, _⟩ := Reads.next ⟨reads, closed, starts⟩
      have less := length_next_lt step word.inside
      have behind : after.rest = [] ++ _ := rest
      have fewer : after.rest.length < count := by omega
      obtain ⟨tokens, ends⟩ := inductionHypothesis .nil behind fewer
      rw [scanTokens, step]
      simp only [word.inside, Bool.false_eq_true, if_false, List.map_cons, Token.content,
        String.ofList_toList]
      exact ⟨congrArg _ tokens, ends⟩

end Scanner

/-- The tokens of a written text are those that it is written of. -/
theorem scan_of_writes {text : String} {contents : List (Kind × String)}
    (writes : Lexeme.Writes text.toList contents) :
    (Scanner.ofText text).scan.tokens.map Token.content = contents ∧
      ∃ line, (Scanner.ofText text).scan.ending = .endOfText line :=
  @Scanner.scanTokens_of_writes (.ofText text) [] _ _ writes .nil rfl _ (Nat.lt_succ_self _)

end MiniPascal
