/-
This file shows that a scanner meets no fault but an integer literal with too many digits.
-/

import MiniPascal.Proofs.Scanning.Lookahead
import MiniPascal.Proofs.Scanning.Runs

namespace MiniPascal

namespace Lexeme

open MiniPascal.Text

theorem Numeral.whole_scan (text : List Char) :
    (Numeral.scan text).whole = text.takeWhile isDigit := by
  rw [Numeral.scan_eq]
  split <;> rfl

/-- A number that starts with a digit is faulty only when it is an integer with too many digits. -/
theorem Numeral.kind_error {numeral : Numeral} {fault : Fault} (some : numeral.whole ≠ [])
    (fails : numeral.kind = .error fault) :
    fault = .integerTooLong numeral.whole.length ∧ numeral.isReal = false ∧
      integerDigitLimit < numeral.whole.length := by
  cases faulty_of_kind fails with
  | unreadable _ noDigit => exact absurd noDigit some
  | withoutDigits _ noDigit => exact absurd noDigit some
  | tooLong integer long => exact ⟨rfl, integer, long⟩

/-- Of all tokens only a number may be faulty. -/
theorem piece_error {text : List Char} {length : Nat} {fault : Fault}
    (found : piece text = (length, .error fault)) :
    fault = .integerTooLong (Numeral.scan text).whole.length ∧
      (Numeral.scan text).isReal = false ∧
      integerDigitLimit < (Numeral.scan text).whole.length := by
  cases text with
  | nil => cases found
  | cons first behind =>
      rw [piece] at found
      split at found
      case h_1 => cases found
      case h_2 =>
        split at found
        case isTrue => cases found
        case isFalse =>
          split at found
          case isTrue digit =>
            refine Numeral.kind_error ?_ (congrArg Prod.snd found)
            rw [Numeral.whole_scan, List.takeWhile_cons_of_pos digit]
            exact List.cons_ne_nil _ _
          case isFalse => split at found <;> cases found

end Lexeme

namespace Scanner

open Lexeme

variable {scanner after : Scanner} {fault : Fault}

/-- Wherever the scanner comes to an integer literal, this has no more digits than the limit. -/
def IntegersFit (scanner : Scanner) : Prop :=
  ∀ tokens place, scanner.Takes tokens place →
    (Numeral.scan place.skipGap.rest).isReal = false →
      (Numeral.scan place.skipGap.rest).whole.length ≤ integerDigitLimit

/-- A faulty step meets an integer literal with too many digits. -/
theorem next_error (step : scanner.next = (.error fault, after)) :
    fault = .integerTooLong (Numeral.scan scanner.skipGap.rest).whole.length ∧
      (Numeral.scan scanner.skipGap.rest).isReal = false ∧
      integerDigitLimit < (Numeral.scan scanner.skipGap.rest).whole.length := by
  rw [next] at step
  by_cases empty : scanner.skipGap.rest = []
  · simp only [Scanner.token, empty] at step
    cases step
  · rw [token_eq_take empty] at step
    have kind : (piece scanner.skipGap.rest).2 = .error fault := by
      cases found : (piece scanner.skipGap.rest).2 with
      | ok kind =>
          rw [found] at step
          cases congrArg Prod.fst step
      | error other =>
          rw [found] at step
          exact congrArg _ (Except.error.inj (congrArg Prod.fst step))
    exact piece_error (Prod.ext rfl kind)

/-- A scan ends with a fault only when it takes tokens up to one. -/
theorem takes_to_fault {count : Nat} (ends : (scanner.scanTokens count).ending = .fault fault) :
    ∃ tokens place after, scanner.Takes tokens place ∧ place.next = (.error fault, after) := by
  induction count generalizing scanner with
  | zero => cases ends
  | succ count inductionHypothesis =>
      rw [scanTokens] at ends
      split at ends
      case h_1 found after step =>
        cases ends
        exact ⟨[], scanner, after, .none, step⟩
      case h_2 token middle step =>
        split at ends
        case isTrue => cases ends
        case isFalse inside =>
          obtain ⟨tokens, place, after, takes, faulty⟩ := inductionHypothesis ends
          exact ⟨token :: tokens, place, after, .next step (by simpa using inside) takes, faulty⟩

/-- A scan that does not come to the end of its text stops at an integer literal with too many
digits. -/
theorem fault_of_scan (ends : scanner.scan.ending = .fault fault) :
    ¬scanner.IntegersFit ∧ ∃ digits, integerDigitLimit < digits ∧ fault = .integerTooLong digits := by
  obtain ⟨tokens, place, after, takes, step⟩ := takes_to_fault ends
  obtain ⟨same, integer, long⟩ := next_error step
  refine ⟨fun fits => ?_, _, long, same⟩
  exact absurd (fits tokens place takes integer) (Nat.not_le_of_lt long)

/-- No literal is longer than its text. -/
theorem IntegersFit.of_length (short : scanner.rest.length ≤ integerDigitLimit) :
    scanner.IntegersFit := by
  intro tokens place takes _
  rw [Numeral.whole_scan]
  calc (place.skipGap.rest.takeWhile Text.isDigit).length
      ≤ place.skipGap.rest.length := (List.takeWhile_prefix _).length_le
    _ ≤ place.rest.length := length_skipGaps_le _ _
    _ ≤ scanner.rest.length := takes.suffix.length_le
    _ ≤ integerDigitLimit := short

end Scanner

end MiniPascal
