/-
This file shows that the spelling of a number is read back as the same number before every gap, and
before all else that does not continue it.
-/

import MiniPascal.Proofs.Scanning.Gaps

namespace MiniPascal

namespace Lexeme

open MiniPascal.Text

/-- The mark of an exponent is a letter that a sign may follow. -/
inductive Numeral.Mark : List Char → Prop where
  | plain {letter : Char} (known : letter = 'e' ∨ letter = 'E') : Mark [letter]
  | plus {letter : Char} (known : letter = 'e' ∨ letter = 'E') : Mark [letter, '+']
  | minus {letter : Char} (known : letter = 'e' ∨ letter = 'E') : Mark [letter, '-']

/-- A number has digits in its parts, and a mark when it has an exponent. -/
structure Numeral.Formed (numeral : Numeral) : Prop where
  whole : ∀ digit ∈ numeral.whole, isDigit digit = true
  fraction : ∀ digit ∈ numeral.fraction, isDigit digit = true
  exponent : ∀ digit ∈ numeral.exponent, isDigit digit = true
  mark : (numeral.mark = [] ∧ numeral.exponent = []) ∨
    (numeral.exponent ≠ [] ∧ Numeral.Mark numeral.mark)

theorem Numeral.Formed.mark_eq_nil {numeral : Numeral} (formed : numeral.Formed)
    (none : numeral.exponent = []) : numeral.mark = [] :=
  (formed.mark.resolve_right fun some => some.1 none).1

theorem exponentMark_cons (letter : Char) (rest : List Char) :
    exponentMark (letter :: rest) =
      if letter = 'e' || letter = 'E' then
        match rest with
        | '+' :: _ => [letter, '+']
        | '-' :: _ => [letter, '-']
        | _ => [letter]
      else [] := rfl

theorem exponentMark_cases (text : List Char) :
    exponentMark text = [] ∨ Numeral.Mark (exponentMark text) := by
  cases text with
  | nil => exact .inl rfl
  | cons letter rest =>
      rw [exponentMark_cons]
      split
      case isTrue isLetter =>
        have letters : letter = 'e' ∨ letter = 'E' := by simpa using isLetter
        split
        · exact .inr (.plus letters)
        · exact .inr (.minus letters)
        · exact .inr (.plain letters)
      case isFalse => exact .inl rfl

theorem exponentMark_starts (text : List Char) : exponentMark text <+: text := by
  cases text with
  | nil => exact List.prefix_refl _
  | cons letter rest =>
      rw [exponentMark_cons]
      split
      · split
        · exact ⟨_, rfl⟩
        · exact ⟨_, rfl⟩
        · exact ⟨rest, rfl⟩
      · exact List.nil_prefix

theorem exponentDigits_all (text : List Char) :
    ∀ digit ∈ exponentDigits text, isDigit digit = true := by
  intro digit inside
  unfold exponentDigits at inside
  split at inside
  · cases inside
  · exact List.mem_takeWhile_imp inside

theorem fractionDigits_all (text : List Char) :
    ∀ digit ∈ fractionDigits text, isDigit digit = true := by
  intro digit inside
  unfold fractionDigits at inside
  split at inside
  · exact List.mem_takeWhile_imp inside
  · cases inside

theorem Numeral.formed_scan (text : List Char) : (Numeral.scan text).Formed := by
  rw [Numeral.scan_eq]
  split
  case isTrue =>
    exact ⟨fun _ => List.mem_takeWhile_imp, fractionDigits_all _, nofun, .inl ⟨rfl, rfl⟩⟩
  case isFalse some =>
    refine ⟨fun _ => List.mem_takeWhile_imp, fractionDigits_all _, exponentDigits_all _, .inr ?_⟩
    refine ⟨by simpa using some, (exponentMark_cases _).resolve_left fun none => some ?_⟩
    simp [exponentDigits, none]

/-- A fraction stands behind its point; an absent one has none. -/
def fractionText (digits : List Char) : List Char :=
  if digits.isEmpty then [] else '.' :: digits

theorem Numeral.spelling_eq (numeral : Numeral) :
    numeral.spelling =
      numeral.whole ++ (fractionText numeral.fraction ++ (numeral.mark ++ numeral.exponent)) := by
  simp [spelling, fractionText]

theorem Numeral.spelling_append (numeral : Numeral) (rest : List Char) :
    numeral.spelling ++ rest = numeral.whole ++ (fractionText numeral.fraction ++
      (numeral.mark ++ (numeral.exponent ++ rest))) := by
  rw [spelling_eq]
  simp only [List.append_assoc]

/-- A number with a whole part starts with a digit. -/
theorem Numeral.Formed.head {numeral : Numeral} (formed : numeral.Formed)
    (some : numeral.whole ≠ []) :
    ∃ first behind, numeral.spelling = first :: behind ∧ isDigit first = true := by
  obtain ⟨first, others, whole⟩ := List.exists_cons_of_ne_nil some
  have spelling := numeral.spelling_eq
  rw [whole, List.cons_append] at spelling
  exact ⟨first, _, spelling, formed.whole first (whole ▸ List.mem_cons_self)⟩

/-- The fraction stands before what is behind it. -/
theorem fraction_append_behind (text : List Char) :
    fractionText (fractionDigits text) ++ behindFraction text = text := by
  unfold fractionText behindFraction
  split
  case isTrue => rfl
  case isFalse some =>
    unfold fractionDigits at some ⊢
    split at some
    case h_1 rest =>
      exact congrArg _ (List.prefix_iff_eq_append.mp (List.takeWhile_prefix isDigit))
    case h_2 => exact absurd rfl some

/-- An exponent stands at the front of its text. -/
theorem exponent_starts (text : List Char) :
    exponentMark text ++ exponentDigits text <+: text := by
  have front := List.prefix_iff_eq_append.mp (exponentMark_starts text)
  unfold exponentDigits
  split
  · rw [List.append_nil]
    exact exponentMark_starts text
  · conv => rhs; rw [← front]
    exact (List.prefix_append_right_inj _).mpr (List.takeWhile_prefix _)

/-- The spelling of a number is the front of the text. -/
theorem Numeral.spelling_starts (text : List Char) : (Numeral.scan text).spelling <+: text := by
  have whole : text.takeWhile isDigit ++ text.dropWhile isDigit = text :=
    List.takeWhile_append_dropWhile
  have fraction := fraction_append_behind (text.dropWhile isDigit)
  rw [Numeral.scan_eq]
  conv => rhs; rw [← whole, ← fraction]
  split
  · rw [spelling_eq]
    refine (List.prefix_append_right_inj _).mpr ((List.prefix_append_right_inj _).mpr ?_)
    exact List.nil_prefix
  · rw [spelling_eq]
    refine (List.prefix_append_right_inj _).mpr ((List.prefix_append_right_inj _).mpr ?_)
    exact exponent_starts _

/-- An exponent with digits is read back before what is no digit. -/
theorem exponent_again {mark exponent rest : List Char} (known : Numeral.Mark mark)
    (nonempty : exponent ≠ []) (digits : ∀ digit ∈ exponent, isDigit digit = true)
    (stops : ∀ first, rest.head? = some first → isDigit first = false) :
    exponentMark (mark ++ (exponent ++ rest)) = mark ∧
      exponentDigits (mark ++ (exponent ++ rest)) = exponent := by
  obtain ⟨first, behind, rfl⟩ := List.exists_cons_of_ne_nil nonempty
  have digit := digits first List.mem_cons_self
  have noSign : first ≠ '+' ∧ first ≠ '-' := by
    constructor <;>
    · rintro rfl
      revert digit
      decide
  have marks : exponentMark (mark ++ (first :: behind ++ rest)) = mark := by
    cases known with
    | plain known => rcases known with rfl | rfl <;> simp [exponentMark, noSign]
    | plus known | minus known => rcases known with rfl | rfl <;> rfl
  refine ⟨marks, ?_⟩
  have present : mark.isEmpty = false := by cases known <;> rfl
  rw [exponentDigits, marks, present, if_neg Bool.false_ne_true, List.drop_left]
  exact (takeWhile_stops digits stops).1

/-- What may stand behind the fraction of a number: an exponent, or a rest that continues no
number. -/
structure NumberTail (tail : List Char) : Prop where
  noDigit : ∀ first, tail.head? = some first → isDigit first = false
  noPoint : ∀ first, tail.head? = some first → first ≠ '.'

theorem numberTail_of_apart {rest : List Char} (apart : Apart rest) : NumberTail rest where
  noDigit := apart.head fun _ => isDigit_of_startsGap
  noPoint first head := by
    rintro rfl
    exact absurd (apart _ head) (by decide)

theorem numberTail_of_mark {mark : List Char} (known : Numeral.Mark mark) (rest : List Char) :
    NumberTail (mark ++ rest) := by
  have letters {letter : Char} (known : letter = 'e' ∨ letter = 'E') (more : List Char) :
      NumberTail (letter :: more) := by
    constructor <;>
    · intro first head
      cases head
      rcases known with rfl | rfl <;> decide
  cases known with
  | plain known | plus known | minus known => exact letters known _

/-- A fraction is read back before such a tail. -/
theorem fraction_again {fraction tail : List Char} (follows : NumberTail tail)
    (digits : ∀ digit ∈ fraction, isDigit digit = true) :
    fractionDigits (fractionText fraction ++ tail) = fraction ∧
      behindFraction (fractionText fraction ++ tail) = tail := by
  cases fraction with
  | nil =>
      have none : fractionDigits tail = [] := by
        cases tail with
        | nil => rfl
        | cons first tail =>
            have noPoint := follows.noPoint first rfl
            simp [fractionDigits, noPoint]
      refine ⟨none, ?_⟩
      change behindFraction tail = tail
      rw [behindFraction, none]
      rfl
  | cons digit fraction =>
      have taken : fractionDigits ('.' :: ((digit :: fraction) ++ tail)) = digit :: fraction :=
        (takeWhile_stops digits follows.noDigit).1
      refine ⟨taken, ?_⟩
      change behindFraction ('.' :: ((digit :: fraction) ++ tail)) = tail
      rw [behindFraction, taken, if_neg (by simp), List.drop_succ_cons, List.drop_left]

/-- The digits before a fraction end there. -/
theorem NumberTail.fraction {tail : List Char} (follows : NumberTail tail) (fraction : List Char) :
    ∀ first, (fractionText fraction ++ tail).head? = some first → isDigit first = false := by
  cases fraction with
  | nil => exact follows.noDigit
  | cons digit fraction =>
      intro first head
      cases head
      rfl

/-- No exponent starts where a gap does. -/
theorem exponentMark_of_apart {rest : List Char} (apart : Apart rest) : exponentMark rest = [] := by
  cases rest with
  | nil => rfl
  | cons first rest =>
      have starts := apart first rfl
      rw [exponentMark_cons, if_neg]
      simp only [Bool.or_eq_true, decide_eq_true_eq]
      rintro (rfl | rfl)
      · exact absurd starts (by decide)
      · exact absurd starts (by decide)

/-- What comes behind a number does not continue it. -/
structure NumberEnds (rest : List Char) : Prop extends NumberTail rest where
  noExponent : exponentDigits rest = []

theorem numberEnds_of_apart {rest : List Char} (apart : Apart rest) : NumberEnds rest where
  toNumberTail := numberTail_of_apart apart
  noExponent := by
    rw [exponentDigits, exponentMark_of_apart apart]
    rfl

/-- A number with an exponent is read back before what is no digit. -/
theorem Numeral.scan_exponent {numeral : Numeral} (formed : numeral.Formed)
    (present : numeral.exponent ≠ []) {rest : List Char}
    (stops : ∀ first, rest.head? = some first → isDigit first = false) :
    Numeral.scan (numeral.spelling ++ rest) = numeral := by
  obtain ⟨_, known⟩ := formed.mark.resolve_left fun none => present none.2
  have follows : NumberTail (numeral.mark ++ (numeral.exponent ++ rest)) :=
    numberTail_of_mark known _
  obtain ⟨sameFraction, behind⟩ := fraction_again follows formed.fraction
  obtain ⟨sameWhole, afterWhole⟩ :=
    takeWhile_stops formed.whole (follows.fraction numeral.fraction)
  obtain ⟨sameMark, sameExponent⟩ := exponent_again known present formed.exponent stops
  rw [spelling_append, scan_eq, sameWhole, afterWhole, sameFraction, behind, sameMark,
    sameExponent, if_neg (by simpa using present)]

/-- A number is read back before what does not continue it. -/
theorem Numeral.scan_before {numeral : Numeral} (formed : numeral.Formed) {rest : List Char}
    (ends : NumberEnds rest) : Numeral.scan (numeral.spelling ++ rest) = numeral := by
  by_cases absent : numeral.exponent = []
  · obtain ⟨sameFraction, behind⟩ := fraction_again ends.toNumberTail formed.fraction
    obtain ⟨sameWhole, afterWhole⟩ :=
      takeWhile_stops formed.whole (ends.fraction numeral.fraction)
    have mark := formed.mark_eq_nil absent
    have parts : ⟨numeral.whole, numeral.fraction, numeral.mark, numeral.exponent⟩ = numeral := rfl
    rw [mark, absent] at parts
    rw [spelling_append, mark, absent, List.nil_append, List.nil_append, scan_eq, sameWhole,
      afterWhole, sameFraction, behind, ends.noExponent, List.isEmpty_nil, if_pos rfl, parts]
  · exact scan_exponent formed absent ends.noDigit

theorem Numeral.oneLine {numeral : Numeral} (formed : numeral.Formed) :
    '\n' ∉ numeral.spelling := by
  have noDigit {digits : List Char} (all : ∀ digit ∈ digits, isDigit digit = true) :
      '\n' ∉ digits := fun inside => absurd (all _ inside) (by decide)
  have noMark : '\n' ∉ numeral.mark := by
    obtain ⟨none, _⟩ | ⟨_, known⟩ := formed.mark
    · simp [none]
    · generalize numeral.mark = mark at known
      cases known with
      | plain known | plus known | minus known => rcases known with rfl | rfl <;> decide
  have noFraction : '\n' ∉ fractionText numeral.fraction := by
    unfold fractionText
    split
    · simp
    · simpa using noDigit formed.fraction
  rw [spelling_eq]
  simp only [List.mem_append, not_or]
  exact ⟨noDigit formed.whole, noFraction, noMark, noDigit formed.exponent⟩

theorem Numeral.inside_of_kind {numeral : Numeral} {kind : Kind} (read : numeral.kind = .ok kind) :
    kind.isEndOfText = false := by
  have number := isNumber_of_kind read
  cases kind <;> first | rfl | cases number

/-- The ways in which a number is faulty. -/
inductive Numeral.Faulty (numeral : Numeral) : Fault → Prop where
  | unreadable (real : numeral.isReal = true) (noDigit : numeral.whole = []) :
      Faulty numeral (.unreadableNumber (String.ofList numeral.spelling))
  | withoutDigits (integer : numeral.isReal = false) (noDigit : numeral.whole = []) :
      Faulty numeral .integerWithoutDigits
  | tooLong (integer : numeral.isReal = false) (long : integerDigitLimit < numeral.whole.length) :
      Faulty numeral (.integerTooLong numeral.whole.length)

theorem Numeral.faulty_of_kind {numeral : Numeral} {fault : Fault}
    (fails : numeral.kind = .error fault) : numeral.Faulty fault := by
  unfold Numeral.kind at fails
  split at fails
  case isTrue real =>
    split at fails
    case isTrue empty =>
      cases fails
      exact .unreadable real (List.isEmpty_iff.mp (Bool.and_eq_true_iff.mp empty).1)
    case isFalse => cases fails
  case isFalse integer =>
    rw [Bool.not_eq_true] at integer
    split at fails
    case isTrue empty =>
      cases fails
      exact .withoutDigits integer (List.isEmpty_iff.mp empty)
    case isFalse =>
      split at fails
      case isTrue long =>
        cases fails
        exact .tooLong integer long
      case isFalse => cases fails

/-- An integer is spelled by its digits alone. -/
theorem Numeral.spelling_of_integer {numeral : Numeral} (formed : numeral.Formed)
    (integer : numeral.isReal = false) : numeral.spelling = numeral.whole := by
  obtain ⟨noFraction, noExponent⟩ : numeral.fraction = [] ∧ numeral.exponent = [] := by
    simpa [Numeral.isReal] using integer
  simp [Numeral.spelling, noFraction, noExponent, formed.mark_eq_nil noExponent]

end Lexeme

end MiniPascal
