/-
This file shows that a token is told from what comes behind it by the next character alone, and that
all letters are alike there. A number looks further ahead.
-/

import MiniPascal.Proofs.Scanning.Words

namespace MiniPascal

/-- A mark or a reserved word ends a number before it, but a point may continue it. -/
def Kind.endsNumber : Kind → Bool
  | .symbol mark => mark != .period
  | .keyword _ => true
  | _ => false

namespace Lexeme

open MiniPascal.Text

/-- Two rests of a text start with the same character, or both with a letter. -/
inductive SameStart : List Char → List Char → Prop where
  | same {rest other : List Char} (head : other.head? = rest.head?) : SameStart rest other
  | letters {first second : Char} {rest other : List Char} (letter : isLetter first = true)
      (letterCopy : isLetter second = true) : SameStart (first :: rest) (second :: other)

variable {rest other word : List Char} {first : Char}

theorem SameStart.head_iff (starts : SameStart rest other) {character : Char}
    (noLetter : isLetter character = false) :
    other.head? = some character ↔ rest.head? = some character := by
  cases starts with
  | same head => rw [head]
  | letters letter letterCopy =>
      constructor <;>
      · intro same
        cases same
        simp_all

/-- Rests that start in the same way do so behind the same characters. -/
theorem SameStart.append (starts : SameStart rest other) (front : List Char) :
    SameStart (front ++ rest) (front ++ other) := by
  cases front with
  | nil => exact starts
  | cons first front => exact .same rfl

/-- What holds of the next character in one rest and of no letter holds of it in the other. -/
theorem SameStart.imp (starts : SameStart rest other) {allowed : Char → Prop}
    (noLetter : ∀ character, isLetter character = true → ¬allowed character)
    (all : ∀ character, rest.head? = some character → allowed character) :
    ∀ character, other.head? = some character → allowed character := by
  cases starts with
  | same head => exact head ▸ all
  | letters letter _ => exact absurd (all _ rfl) (noLetter _ letter)

theorem continuesName_of_isLetter {character : Char} (letter : isLetter character = true) :
    continuesName character = true := by
  rw [continuesName, isAlphanumeric_of_isLetter letter, Bool.true_or]

section Symbols

/-- Only the characters that close a mark of two characters matter behind the first one. -/
theorem symbol?_alone (noEquals : rest.head? ≠ some '=') (noGreater : rest.head? ≠ some '>') :
    symbol? (first :: rest) = symbol? [first] := by
  cases rest with
  | nil => rfl
  | cons second rest =>
      have noEquals : second ≠ '=' := fun same => noEquals (congrArg some same)
      have noGreater : second ≠ '>' := fun same => noGreater (congrArg some same)
      unfold symbol?
      split <;> simp_all

theorem symbol?_of_sameStart (starts : SameStart rest other) :
    symbol? (first :: other) = symbol? (first :: rest) := by
  -- Behind a character that both rests start with, the mark is read off two characters.
  have two {second : Char} (head : rest.head? = some second) (headCopy : other.head? = some second) :
      symbol? (first :: other) = symbol? (first :: rest) := by
    obtain ⟨more, rfl⟩ := List.head?_eq_some_iff.mp head
    obtain ⟨moreCopy, rfl⟩ := List.head?_eq_some_iff.mp headCopy
    have front (tail : List Char) : symbol? ([first, second] ++ tail) = symbol? [first, second] :=
      symbol?_front (Nat.le_refl _)
    exact (front moreCopy).trans (front more).symm
  have equals := starts.head_iff (show isLetter '=' = false by decide)
  have greater := starts.head_iff (show isLetter '>' = false by decide)
  by_cases equal : rest.head? = some '='
  · exact two equal (equals.mpr equal)
  · by_cases more : rest.head? = some '>'
    · exact two more (greater.mpr more)
    · rw [symbol?_alone equal more, symbol?_alone (mt equals.mp equal) (mt greater.mp more)]

theorem startsComment_of_sameStart (starts : SameStart rest other)
    (none : startsComment (first :: rest) = false) : startsComment (first :: other) = false := by
  have star := starts.head_iff (show isLetter '*' = false by decide)
  unfold startsComment at none ⊢
  split
  case h_1 same =>
    cases same
    cases none
  case h_2 behind same =>
    cases same
    obtain ⟨more, rfl⟩ := List.head?_eq_some_iff.mp (star.mp rfl)
    cases none
  case h_3 => rfl

end Symbols

section Strings

theorem StringBody.kind_cases (body : StringBody) :
    body.kind = .error ∨ (∃ content, body.kind = .character content) ∨
      ∃ content, body.kind = .string content := by
  unfold StringBody.kind
  split
  · split
    · exact .inr (.inl ⟨_, rfl⟩)
    · exact .inr (.inr ⟨_, rfl⟩)
  · exact .inl rfl

/-- A string literal ends before its rest. -/
theorem StringBody.endsBefore_drop (text : List Char) :
    (StringBody.scan text).EndsBefore (text.drop (StringBody.scan text).length) := by
  fun_induction StringBody.scan text with
  | case1 =>
      intro first head
      cases head
  | case2 behind body inductionHypothesis => exact inductionHypothesis
  | case3 behind lone =>
      intro first head
      refine ⟨fun _ quote => ?_, fun opened => absurd opened.symm Bool.false_ne_true⟩
      obtain ⟨more, rfl⟩ := List.head?_eq_some_iff.mp head
      exact lone more (by rw [quote])
  | case4 behind =>
      intro first head
      cases head
      exact ⟨fun closed => absurd closed Bool.false_ne_true, fun _ => rfl⟩
  | case5 character behind _ noQuote noLine body inductionHypothesis => exact inductionHypothesis

theorem StringBody.EndsBefore.of_sameStart {body : StringBody} (ends : body.EndsBefore rest)
    (starts : SameStart rest other) : body.EndsBefore other := by
  have quote := starts.head_iff (show isLetter '\'' = false by decide)
  intro first head
  refine ⟨fun closed same => ?_, fun opened => ?_⟩
  · subst same
    exact (ends _ (quote.mp head)).1 closed rfl
  · have noLetter : ∀ character, isLetter character = true → ¬character = '\n' := by
      rintro character letter rfl
      revert letter
      decide
    exact starts.imp noLetter (fun character known => (ends character known).2 opened) first head

end Strings

section Names

/-- A name starts with a letter and goes on with letters, numerals and underscores. -/
structure IsName (word : List Char) : Prop where
  starts : word.head?.any isLetter = true
  continues : word.all continuesName = true

theorem ne_of_continuesName {character : Char} (continues : continuesName first = true)
    (noName : continuesName character = false) : first ≠ character := by
  rintro rfl
  rw [continues] at noName
  cases noName

theorem isAlpha_bounds {character : Char} (alpha : character.isAlpha = true) :
    65 ≤ character.toNat ∧ character.toNat ≤ 122 := by
  obtain upper | lower := Bool.or_eq_true_iff.mp alpha
  · obtain ⟨above, below⟩ : 65 ≤ character.toNat ∧ character.toNat ≤ 90 :=
      of_decide_eq_true upper
    omega
  · obtain ⟨above, below⟩ := Bool.and_eq_true_iff.mp
      (show (decide (97 ≤ character.val) && decide (character.val ≤ 122)) = true from lower)
    have above : 97 ≤ character.toNat := of_decide_eq_true above
    have below : character.toNat ≤ 122 := of_decide_eq_true below
    omega

theorem isDigit_of_isLetter {character : Char} (letter : isLetter character = true) :
    isDigit character = false := by
  rw [Bool.eq_false_iff]
  intro digit
  obtain ⟨-, upper⟩ := Bool.and_eq_true_iff.mp
    (show (decide (48 ≤ character.val) && decide (character.val ≤ 57)) = true from digit)
  have upper : character.toNat ≤ 57 := of_decide_eq_true upper
  rw [isLetter, if_pos (by omega)] at letter
  obtain ⟨above, -⟩ := isAlpha_bounds letter
  omega

/-- A character of a name starts no gap, no mark and no string literal. -/
theorem starts_of_continuesName (continues : continuesName first = true) (rest : List Char) :
    Starts (first :: rest) ∧ symbol? (first :: rest) = none ∧ first ≠ '\'' := by
  have noMark : symbol? (first :: rest) = none := by
    rw [symbol?_eq_none_iff]
    intro inside
    have noNames : ['+', '-', '*', '/', '(', ')', '.', ',', ';', ':', '=', '<', '>'].any
        continuesName = false := by decide
    exact List.any_eq_false.mp noNames first inside continues
  have noBlank : isBlank first = false := by
    rw [Bool.eq_false_iff]
    intro blank
    exact ne_of_continuesName continues (continuesName_of_isBlank blank) rfl
  refine ⟨⟨noBlank, ?_⟩, noMark, ne_of_continuesName continues (by decide)⟩
  unfold startsComment
  split
  case h_1 same =>
    exact absurd (List.cons.inj same).1 (ne_of_continuesName continues (by decide))
  case h_2 same =>
    exact absurd (List.cons.inj same).1 (ne_of_continuesName continues (by decide))
  case h_3 => rfl

/-- A name is read before what does not continue it. -/
theorem IsName.wordBefore (name : IsName word)
    (stops : ∀ character, rest.head? = some character → continuesName character = false) :
    WordBefore (nameKind (String.ofList word)) word rest := by
  obtain ⟨starts, continues⟩ := name
  cases word with
  | nil => cases starts
  | cons first behind =>
      obtain ⟨settled, unmarked, noQuote⟩ :=
        starts_of_continuesName (continuesName_of_isLetter starts) (behind ++ rest)
      have noDigit := isDigit_of_isLetter starts
      have taken := (takeWhile_stops (List.all_eq_true.mp continues) stops).1
      rw [List.cons_append] at taken
      refine ⟨settled, List.cons_ne_nil _ _, ?_⟩
      rw [List.cons_append, piece_of_letter unmarked noQuote noDigit starts, nameLength, taken]

/-- A run of characters that is the front of a text ends there. -/
theorem parts_of_takeWhile {taken : Char → Bool} {front back : List Char}
    (found : (front ++ back).takeWhile taken = front) :
    (∀ character ∈ front, taken character = true) ∧
      ∀ first, back.head? = some first → taken first = false := by
  have all : ∀ character ∈ front, taken character = true := by
    intro character inside
    rw [← found] at inside
    exact List.mem_takeWhile_imp inside
  refine ⟨all, fun first head => Bool.eq_false_iff.mpr fun more => ?_⟩
  rw [List.takeWhile_append_of_pos all, List.append_right_eq_self] at found
  obtain ⟨others, rfl⟩ := List.head?_eq_some_iff.mp head
  rw [List.takeWhile_cons_of_pos more] at found
  cases found

theorem takeWhile_of_nameLength (size : nameLength (word ++ rest) = word.length) :
    (word ++ rest).takeWhile continuesName = word := by
  rw [← take_nameLength, size, List.take_left]

/-- What does not continue a name starts like what does not. -/
theorem SameStart.stops (starts : SameStart rest other)
    (stops : ∀ character, rest.head? = some character → continuesName character = false) :
    ∀ character, other.head? = some character → continuesName character = false := by
  refine starts.imp (fun character letter noName => ?_) stops
  rw [continuesName_of_isLetter letter] at noName
  cases noName

/-- What is read as a name or as a reserved word has the form of a name, and nothing behind it
continues it. -/
theorem WordBefore.stops {kind : Kind} (reads : WordBefore kind word rest)
    (named : kind = .identifier ∨ ∃ reserved, kind = .keyword reserved) :
    IsName word ∧
      ∀ character, rest.head? = some character → continuesName character = false := by
  have readAs := readAs_of_piece (List.append_ne_nil_of_left_ne_nil reads.nonempty _) reads.piece
  generalize text : word ++ rest = whole at readAs
  generalize size : word.length = length at readAs
  cases readAs with
  | @name first behind unmarked noQuote noDigit letter =>
      have front := takeWhile_of_nameLength ((congrArg nameLength text).trans size.symm)
      obtain ⟨all, stops⟩ := parts_of_takeWhile front
      have head : word.head? = some first := by
        rw [← front, text, List.takeWhile_cons_of_pos (continuesName_of_isLetter letter)]
        rfl
      exact ⟨⟨by rw [head]; exact letter, List.all_eq_true.mpr all⟩, stops⟩
  | symbol | other => rcases named with same | ⟨_, same⟩ <;> cases same
  | number _ _ read =>
      have number := Numeral.isNumber_of_kind read
      rcases named with rfl | ⟨_, rfl⟩ <;> cases number
  | string behind =>
      obtain same | ⟨_, same⟩ | ⟨_, same⟩ := StringBody.kind_cases (StringBody.scan behind) <;>
        simp [same] at named

end Names

section Numbers

theorem WordBefore.spelling_of_symbol {mark : Symbol} (reads : WordBefore (.symbol mark) word rest) :
    word = mark.spelling.toList := by
  have readAs := readAs_of_piece (List.append_ne_nil_of_left_ne_nil reads.nonempty _) reads.piece
  generalize text : word ++ rest = whole at readAs
  generalize size : word.length = length at readAs
  generalize kind : Kind.symbol mark = read at readAs
  cases readAs with
  | symbol found =>
      cases kind
      obtain ⟨more, same⟩ := symbol?_spelling found
      exact (List.append_inj (text.trans same) (size.trans String.length_toList.symm)).1
  | string behind =>
      obtain same | ⟨_, same⟩ | ⟨_, same⟩ := StringBody.kind_cases (StringBody.scan behind) <;>
        simp [same] at kind
  | number _ _ number => exact absurd kind.symm (Numeral.kind_ne_symbol number mark)
  | name =>
      unfold nameKind at kind
      split at kind <;> cases kind
  | other => cases kind

theorem numberEnds_of_symbol {mark : Symbol} (noPeriod : mark ≠ .period) (rest : List Char) :
    NumberEnds (mark.spelling.toList ++ rest) := by
  have ends {first : Char} (noDigit : isDigit first = false) (noPoint : first ≠ '.')
      (noLetter : first ≠ 'e' ∧ first ≠ 'E') (more : List Char) : NumberEnds (first :: more) := by
    refine ⟨⟨fun _ head => Option.some.inj head ▸ noDigit,
      fun _ head => Option.some.inj head ▸ noPoint⟩, ?_⟩
    have none : exponentMark (first :: more) = [] := by
      rw [exponentMark_cons, if_neg (by simpa using noLetter)]
    rw [exponentDigits, none]
    rfl
  cases mark with
  | period => exact absurd rfl noPeriod
  | _ => exact ends (by decide) (by decide) (by decide) _

theorem numberEnds_of_letters {second : Char} (letter : isLetter first = true)
    (letterBehind : isLetter second = true) (rest : List Char) :
    NumberEnds (first :: second :: rest) where
  noDigit _ head := Option.some.inj head ▸ isDigit_of_isLetter letter
  noPoint _ head := by
    cases head
    exact ne_of_continuesName (continuesName_of_isLetter letter) (by decide)
  noExponent := by
    have continues := continuesName_of_isLetter letterBehind
    have noSign : second ≠ '+' ∧ second ≠ '-' :=
      ⟨ne_of_continuesName continues (by decide), ne_of_continuesName continues (by decide)⟩
    rw [exponentDigits, exponentMark_cons]
    split
    · simp [noSign, isDigit_of_isLetter letterBehind]
    · rfl

end Numbers

/-- A token is read in the same way before a rest that starts in the same way. A number must not be
continued by the other rest. -/
theorem WordBefore.of_sameStart {kind : Kind} (reads : WordBefore kind word rest)
    (starts : SameStart rest other) (ends : kind.isNumber = true → NumberEnds other) :
    WordBefore kind word other := by
  obtain ⟨settled, nonempty, found⟩ := reads
  obtain ⟨first, behind, rfl⟩ := List.exists_cons_of_ne_nil nonempty
  have reads := readAs_of_piece (List.append_ne_nil_of_left_ne_nil nonempty _) found
  have symbols : symbol? (first :: (behind ++ other)) = symbol? (first :: (behind ++ rest)) :=
    symbol?_of_sameStart (starts.append behind)
  refine ⟨⟨settled.noBlank, startsComment_of_sameStart (starts.append behind) settled.noComment⟩,
    nonempty, ?_⟩
  rw [List.cons_append] at reads ⊢
  generalize size : (first :: behind).length = length at reads ⊢
  cases reads with
  | symbol mark => rw [piece_of_symbol (symbols.trans mark)]
  | string =>
      have taken : (behind ++ rest).take (StringBody.scan (behind ++ rest)).length = behind := by
        rw [← Nat.succ.inj size, List.take_left]
      have ends := StringBody.endsBefore_drop (behind ++ rest)
      rw [← Nat.succ.inj size, List.drop_left] at ends
      have again := StringBody.scan_again (ends.of_sameStart starts)
      rw [taken] at again
      rw [piece_of_quote, again]
  | number unmarked digit read =>
      have spelling : (Numeral.scan (first :: (behind ++ rest))).spelling = first :: behind := by
        have front := Numeral.spelling_starts (first :: (behind ++ rest))
        rw [List.prefix_iff_eq_take.mp front]
        change (first :: (behind ++ rest)).take (Numeral.scan (first :: (behind ++ rest))).length = _
        rw [← size]
        exact List.take_left
      have again := Numeral.scan_before (Numeral.formed_scan (first :: (behind ++ rest)))
        (ends (Numeral.isNumber_of_kind read))
      rw [spelling, List.cons_append] at again
      rw [piece_of_digit (symbols.trans unmarked) digit, again, read]
  | name unmarked noQuote noDigit letter =>
      have front : (first :: behind ++ rest).takeWhile continuesName = first :: behind :=
        takeWhile_of_nameLength size.symm
      obtain ⟨all, stops⟩ := parts_of_takeWhile front
      have again := (takeWhile_stops all (starts.stops stops)).1
      rw [List.cons_append] at again front
      rw [piece_of_letter (symbols.trans unmarked) noQuote noDigit letter, nameLength, again, front,
        size]
  | other unmarked noQuote noDigit noLetter =>
      exact piece_of_other (symbols.trans unmarked) noQuote noDigit noLetter

end Lexeme

end MiniPascal
