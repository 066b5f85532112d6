/-
This file shows that the spelling of a token is read back as the same token before every gap.
-/

import MiniPascal.Proofs.Scanning.Numerals

namespace MiniPascal

namespace Lexeme

open MiniPascal.Text

variable {text : List Char}

section Symbols

theorem symbol?_spelling {mark : Symbol} (found : symbol? text = some mark) :
    ∃ rest, text = mark.spelling.toList ++ rest := by
  unfold symbol? at found
  split at found <;> cases found <;> exact ⟨_, rfl⟩

/-- A mark is read back before every gap. -/
theorem symbol?_append (mark : Symbol) {rest : List Char} (apart : Apart rest) :
    symbol? (mark.spelling.toList ++ rest) = some mark := by
  cases rest with
  | nil => cases mark <;> rfl
  | cons first rest =>
      have starts := apart first rfl
      have noEquals : first ≠ '=' := by
        rintro rfl
        revert starts
        decide
      have noGreater : first ≠ '>' := by
        rintro rfl
        revert starts
        decide
      cases mark with
      | colon =>
          change symbol? (':' :: first :: rest) = _
          simp [symbol?, noEquals]
      | lessThan =>
          change symbol? ('<' :: first :: rest) = _
          simp [symbol?, noEquals, noGreater]
      | greaterThan =>
          change symbol? ('>' :: first :: rest) = _
          simp [symbol?, noEquals]
      | _ => rfl

end Symbols

section Strings

/-- The rest behind a string literal: no quote behind a closed one, a line end behind an open one. -/
def StringBody.EndsBefore (body : StringBody) (rest : List Char) : Prop :=
  ∀ first, rest.head? = some first →
    (body.closed = true → first ≠ '\'') ∧ (body.closed = false → first = '\n')

theorem StringBody.scan_open {rest : List Char}
    (lineEnd : ∀ first, rest.head? = some first → first = '\n') :
    StringBody.scan rest = ⟨0, [], false⟩ := by
  cases rest with
  | nil => rfl
  | cons first rest =>
      obtain rfl := lineEnd first rfl
      rfl

/-- The body of a string literal is read back. -/
theorem StringBody.scan_again {rest : List Char} (ends : (StringBody.scan text).EndsBefore rest) :
    StringBody.scan (text.take (StringBody.scan text).length ++ rest) = StringBody.scan text := by
  fun_induction StringBody.scan text with
  | case1 => exact scan_open fun first head => (ends first head).2 rfl
  | case2 behind body inductionHypothesis =>
      have others := inductionHypothesis ends
      simp only [List.take_succ_cons, List.cons_append]
      rw [StringBody.scan, others]
  | case3 behind lone =>
      simp only [List.take_succ_cons, List.take_zero, List.cons_append, List.nil_append]
      cases rest with
      | nil => rfl
      | cons first rest => exact scan_quote ((ends first rfl).1 rfl)
  | case4 behind => exact scan_open fun first head => (ends first head).2 rfl
  | case5 character behind _ noQuote noLine body inductionHypothesis =>
      have others := inductionHypothesis ends
      simp only [List.take_succ_cons, List.cons_append]
      rw [scan_other noQuote noLine, others]

theorem StringBody.length_scan_le (text : List Char) :
    (StringBody.scan text).length ≤ text.length := by
  fun_induction StringBody.scan text with
  | case1 | case4 => exact Nat.zero_le _
  | case2 | case5 => simpa using by assumption
  | case3 => exact Nat.succ_le_succ (Nat.zero_le _)

/-- A string literal stays on its line. -/
theorem StringBody.oneLine (text : List Char) :
    '\n' ∉ text.take (StringBody.scan text).length := by
  fun_induction StringBody.scan text with
  | case1 | case3 | case4 => simp
  | case2 behind body inductionHypothesis =>
      simp only [List.take_succ_cons, List.mem_cons, not_or]
      exact ⟨by decide, by decide, inductionHypothesis⟩
  | case5 character behind _ noQuote noLine body inductionHypothesis =>
      simp only [List.take_succ_cons, List.mem_cons, not_or]
      exact ⟨Ne.symm noLine, inductionHypothesis⟩

end Strings

/-- A text at which neither a blank nor a comment starts. -/
structure Starts (text : List Char) : Prop where
  noBlank : text.head?.any isBlank = false
  noComment : startsComment text = false

/-- A string literal that its line leaves open. -/
def OpenString (kind : Kind) (word : List Char) : Prop := kind = .error ∧ word.head? = some '\''

/-- The spelling of a token of the given kind, which is read back before every gap. Behind an open
string literal the gap has to start with a line end. -/
structure Word (kind : Kind) (word : List Char) : Prop where
  inside : kind.isEndOfText = false
  nonempty : word ≠ []
  oneLine : '\n' ∉ word
  starts : ∀ rest, Apart rest → Starts (word ++ rest)
  again : ∀ rest, Apart rest →
    (OpenString kind word → ∀ first, rest.head? = some first → first = '\n') →
      piece (word ++ rest) = (word.length, .ok kind)

section Pieces

variable {first : Char} {behind rest : List Char}

theorem symbol?_eq_none_iff :
    symbol? (first :: behind) = none ↔
      first ∉ ['+', '-', '*', '/', '(', ')', '.', ',', ';', ':', '=', '<', '>'] := by
  unfold symbol?
  split <;> simp_all

/-- Whether a mark starts at a text is decided by the first character. -/
theorem symbol?_none_of_head (unmarked : symbol? (first :: behind) = none) (more : List Char) :
    symbol? (first :: more) = none := symbol?_eq_none_iff.mpr (symbol?_eq_none_iff.mp unmarked)

theorem Starts.of_head (starts : Starts (first :: behind))
    (unmarked : symbol? (first :: behind) = none) (more : List Char) : Starts (first :: more) := by
  have noParenthesis : first ≠ '(' := by
    rintro rfl
    cases unmarked
  have noBrace : first ≠ '\x7b' := by
    rintro rfl
    cases starts.noComment
  refine ⟨starts.noBlank, ?_⟩
  unfold startsComment
  split
  case h_1 same => exact absurd (List.cons.inj same).1 noBrace
  case h_2 same => exact absurd (List.cons.inj same).1 noParenthesis
  case h_3 => rfl

theorem piece_of_symbol {mark : Symbol} (found : symbol? text = some mark) :
    piece text = (mark.spelling.length, .ok (.symbol mark)) := by
  cases text with
  | nil => cases found
  | cons first behind => rw [piece, found]

theorem word_of_symbol (mark : Symbol) : Word (.symbol mark) mark.spelling.toList where
  inside := rfl
  nonempty := by cases mark <;> decide
  oneLine := by cases mark <;> decide
  starts := by
    intro rest apart
    cases mark with
    | leftParenthesis =>
        refine ⟨rfl, ?_⟩
        cases rest with
        | nil => rfl
        | cons first rest =>
            have noStar : first ≠ '*' := by
              rintro rfl
              exact absurd (apart _ rfl) (by decide)
            change startsComment ('(' :: first :: rest) = false
            simp [startsComment, noStar]
    | _ => exact ⟨rfl, rfl⟩
  again := by
    intro rest apart _
    rw [piece_of_symbol (symbol?_append mark apart), String.length_toList]

theorem piece_of_quote (behind : List Char) :
    piece ('\'' :: behind) =
      ((StringBody.scan behind).length + 1, .ok (StringBody.scan behind).kind) := rfl

theorem StringBody.kind_of_open {body : StringBody} (opened : body.closed = false) :
    body.kind = .error := by
  rw [StringBody.kind, opened]
  rfl

theorem StringBody.inside (body : StringBody) : body.kind.isEndOfText = false := by
  unfold StringBody.kind
  split
  · split <;> rfl
  · rfl

theorem word_of_string (behind : List Char) :
    Word (StringBody.scan behind).kind
      ('\'' :: behind.take (StringBody.scan behind).length) where
  inside := StringBody.inside _
  nonempty := List.cons_ne_nil _ _
  oneLine := by
    simp only [List.mem_cons, not_or]
    exact ⟨by decide, StringBody.oneLine behind⟩
  starts rest _ := ⟨rfl, rfl⟩
  again := by
    intro rest apart lineEnd
    have ends : (StringBody.scan behind).EndsBefore rest := by
      intro first head
      refine ⟨fun _ => ?_, fun opened => ?_⟩
      · rintro rfl
        exact absurd (apart _ head) (by decide)
      · exact lineEnd ⟨StringBody.kind_of_open opened, rfl⟩ first head
    rw [List.cons_append, piece_of_quote, StringBody.scan_again ends, List.length_cons,
      List.length_take, Nat.min_eq_left (StringBody.length_scan_le behind)]

theorem noQuote_of_isDigit (digit : isDigit first = true) : first ≠ '\'' := by
  rintro rfl
  cases digit

theorem piece_of_digit (unmarked : symbol? (first :: behind) = none) (digit : isDigit first = true) :
    piece (first :: behind) =
      ((Numeral.scan (first :: behind)).length, (Numeral.scan (first :: behind)).kind) := by
  rw [piece, unmarked]
  dsimp only
  rw [if_neg (noQuote_of_isDigit digit), if_pos digit]

theorem word_of_number {kind : Kind} (starts : Starts (first :: behind))
    (unmarked : symbol? (first :: behind) = none) (digit : isDigit first = true)
    (read : (Numeral.scan (first :: behind)).kind = .ok kind) :
    Word kind (Numeral.scan (first :: behind)).spelling := by
  have formed := Numeral.formed_scan (first :: behind)
  have head : ∃ more, (Numeral.scan (first :: behind)).spelling = first :: more := by
    obtain ⟨rest, same⟩ := Numeral.spelling_starts (first :: behind)
    have pos := Numeral.length_takeWhile_le (first :: behind)
    rw [List.takeWhile_cons_of_pos digit, List.length_cons, Numeral.length] at pos
    cases spelling : (Numeral.scan (first :: behind)).spelling with
    | nil =>
        rw [spelling] at pos
        cases pos
    | cons character more =>
        rw [spelling] at same
        exact ⟨more, by rw [(List.cons.inj same).1]⟩
  obtain ⟨more, spelling⟩ := head
  refine ⟨Numeral.inside_of_kind read, by simp [spelling], Numeral.oneLine formed,
    fun rest _ => ?_, fun rest apart _ => ?_⟩
  · rw [spelling]
    exact starts.of_head unmarked _
  · have same := Numeral.scan_before formed (numberEnds_of_apart apart)
    rw [spelling, List.cons_append] at same ⊢
    rw [piece_of_digit (symbol?_none_of_head unmarked _) digit, same, read, Numeral.length, spelling]

theorem take_nameLength (text : List Char) :
    text.take (nameLength text) = text.takeWhile continuesName :=
  (List.prefix_iff_eq_take.mp (List.takeWhile_prefix continuesName)).symm

theorem piece_of_letter (unmarked : symbol? (first :: behind) = none) (noQuote : first ≠ '\'')
    (noDigit : isDigit first = false) (letter : isLetter first = true) :
    piece (first :: behind) =
      (nameLength (first :: behind),
        .ok (nameKind (String.ofList ((first :: behind).takeWhile continuesName)))) := by
  rw [piece, unmarked]
  dsimp only
  rw [if_neg noQuote, noDigit, if_neg Bool.false_ne_true, if_pos letter, take_nameLength]

theorem nameKind_inside (spelling : String) : (nameKind spelling).isEndOfText = false := by
  unfold nameKind
  split <;> rfl

theorem word_of_name (starts : Starts (first :: behind))
    (unmarked : symbol? (first :: behind) = none) (noQuote : first ≠ '\'')
    (noDigit : isDigit first = false) (letter : isLetter first = true) :
    Word (nameKind (String.ofList ((first :: behind).takeWhile continuesName)))
      ((first :: behind).takeWhile continuesName) := by
  have continues : continuesName first = true := by
    simp [continuesName, isAlphanumeric_of_isLetter letter]
  have head := List.takeWhile_cons_of_pos (l := behind) continues
  refine ⟨nameKind_inside _, by simp [head], ?_, fun rest _ => ?_, fun rest apart _ => ?_⟩
  · intro inside
    exact absurd (List.mem_takeWhile_imp inside) (by decide)
  · rw [head]
    exact starts.of_head unmarked _
  · have all : ∀ character ∈ (first :: behind).takeWhile continuesName,
        continuesName character = true := fun _ => List.mem_takeWhile_imp
    have same := (takeWhile_stops all (apart.head fun _ => continuesName_of_startsGap)).1
    rw [head, List.cons_append] at same ⊢
    rw [piece_of_letter (symbol?_none_of_head unmarked _) noQuote noDigit letter, nameLength, same]

theorem piece_of_other (unmarked : symbol? (first :: behind) = none) (noQuote : first ≠ '\'')
    (noDigit : isDigit first = false) (noLetter : isLetter first = false) :
    piece (first :: behind) = (1, .ok .error) := by
  rw [piece, unmarked]
  dsimp only
  rw [if_neg noQuote, noDigit, if_neg Bool.false_ne_true, noLetter, if_neg Bool.false_ne_true]

theorem word_of_other (starts : Starts (first :: behind))
    (unmarked : symbol? (first :: behind) = none) (noQuote : first ≠ '\'')
    (noDigit : isDigit first = false) (noLetter : isLetter first = false) :
    Word .error [first] := by
  refine ⟨rfl, List.cons_ne_nil _ _, ?_, fun rest _ => starts.of_head unmarked _, fun rest _ _ => ?_⟩
  · intro inside
    rw [← List.mem_singleton.mp inside] at starts
    cases starts.noBlank
  · exact piece_of_other (symbol?_none_of_head unmarked _) noQuote noDigit noLetter

/-- The ways in which the token at the start of a text is read. -/
inductive ReadAs : List Char → Nat → Kind → Prop where
  | symbol {text : List Char} {mark : Symbol} (found : symbol? text = some mark) :
      ReadAs text mark.spelling.length (.symbol mark)
  | string (behind : List Char) :
      ReadAs ('\'' :: behind) ((StringBody.scan behind).length + 1) (StringBody.scan behind).kind
  | number {first : Char} {behind : List Char} {kind : Kind}
      (unmarked : symbol? (first :: behind) = none) (digit : isDigit first = true)
      (read : (Numeral.scan (first :: behind)).kind = .ok kind) :
      ReadAs (first :: behind) (Numeral.scan (first :: behind)).length kind
  | name {first : Char} {behind : List Char} (unmarked : symbol? (first :: behind) = none)
      (noQuote : first ≠ '\'') (noDigit : isDigit first = false) (letter : isLetter first = true) :
      ReadAs (first :: behind) (nameLength (first :: behind))
        (nameKind (String.ofList ((first :: behind).takeWhile continuesName)))
  | other {first : Char} {behind : List Char} (unmarked : symbol? (first :: behind) = none)
      (noQuote : first ≠ '\'') (noDigit : isDigit first = false)
      (noLetter : isLetter first = false) : ReadAs (first :: behind) 1 .error

theorem readAs_of_piece {length : Nat} {kind : Kind} (nonempty : text ≠ [])
    (found : piece text = (length, .ok kind)) : ReadAs text length kind := by
  cases symbol : symbol? text with
  | some mark =>
      rw [piece_of_symbol symbol] at found
      cases found
      exact .symbol symbol
  | none =>
      obtain ⟨first, behind, rfl⟩ := List.exists_cons_of_ne_nil nonempty
      by_cases quote : first = '\''
      · subst quote
        rw [piece_of_quote] at found
        cases found
        exact .string behind
      · cases digit : isDigit first with
        | true =>
            rw [piece_of_digit symbol digit] at found
            obtain ⟨rfl, read⟩ := Prod.mk.inj found
            exact .number symbol digit read
        | false =>
            cases letter : isLetter first with
            | true =>
                rw [piece_of_letter symbol quote digit letter] at found
                cases found
                exact .name symbol quote digit letter
            | false =>
                rw [piece_of_other symbol quote digit letter] at found
                cases found
                exact .other symbol quote digit letter

/-- The token at the start of a text has a spelling that is read back. -/
theorem word_of_piece {length : Nat} {kind : Kind} (starts : Starts text) (nonempty : text ≠ [])
    (found : piece text = (length, .ok kind)) :
    length ≤ text.length ∧ Word kind (text.take length) := by
  cases readAs_of_piece nonempty found with
  | @symbol _ mark symbol =>
      obtain ⟨rest, same⟩ := symbol?_spelling symbol
      rw [same, ← String.length_toList, List.take_left, List.length_append]
      exact ⟨Nat.le_add_right _ _, word_of_symbol mark⟩
  | string behind =>
      exact ⟨Nat.succ_le_succ (StringBody.length_scan_le behind), word_of_string behind⟩
  | @number first behind _ unmarked digit read =>
      have spelling := Numeral.spelling_starts (first :: behind)
      rw [Numeral.length, ← List.prefix_iff_eq_take.mp spelling]
      exact ⟨spelling.length_le, word_of_number starts unmarked digit read⟩
  | name unmarked noQuote noDigit letter =>
      rw [take_nameLength]
      exact ⟨(List.takeWhile_prefix _).length_le,
        word_of_name starts unmarked noQuote noDigit letter⟩
  | other unmarked noQuote noDigit noLetter =>
      exact ⟨Nat.succ_le_succ (Nat.zero_le _),
        word_of_other starts unmarked noQuote noDigit noLetter⟩

/-- A spelling that is read as a token of the given kind before the rest. -/
structure WordBefore (kind : Kind) (word rest : List Char) : Prop where
  starts : Starts (word ++ rest)
  nonempty : word ≠ []
  piece : Lexeme.piece (word ++ rest) = (word.length, .ok kind)

/-- What is read before one rest is read before every gap. -/
theorem WordBefore.word {kind : Kind} {word rest : List Char} (reads : WordBefore kind word rest) :
    Word kind word := by
  have formed := (word_of_piece reads.starts
    (List.append_ne_nil_of_left_ne_nil reads.nonempty _) reads.piece).2
  rwa [List.take_left] at formed

end Pieces

end Lexeme

end MiniPascal
