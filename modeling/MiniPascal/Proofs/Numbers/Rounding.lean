/-
This file shows from which whole numbers on their doubles pass the limits of the layout.
-/

import MiniPascal.Layout
import MiniPascal.Machine
import MiniPascal.Proofs.Numbers.Patterns

namespace MiniPascal

namespace Binary64

/-- Rounding to a whole number keeps the order. -/
theorem roundHalfEven_mono {less greater denominator : Nat} (order : less ≤ greater)
    (positive : 0 < denominator) :
    roundHalfEven less denominator ≤ roundHalfEven greater denominator := by
  by_contra above
  have lower := (roundHalfEven_bounds less positive).1
  have upper := (roundHalfEven_bounds greater positive).2
  have next : denominator * (roundHalfEven greater denominator + 1) ≤
      denominator * roundHalfEven less denominator :=
    Nat.mul_le_mul_left _ (Nat.lt_of_not_le above)
  rw [Nat.mul_add, Nat.mul_one] at next
  have same : less = greater := by omega
  rw [same] at above
  exact above (Nat.le_refl _)

/-- A multiple of the denominator is rounded to its factor. -/
theorem roundHalfEven_mul (factor : Nat) {denominator : Nat} (positive : 0 < denominator) :
    roundHalfEven (factor * denominator) denominator = factor := by
  rw [roundHalfEven, Nat.mul_mod_left, Nat.mul_div_cancel _ positive]
  exact if_pos positive

section Significands

/-- The power of two by which a quotient of units is divided to leave a significand. -/
def shiftOf (numerator denominator : Nat) : Nat := (numerator / denominator).log2 - 52

def significandOf (numerator denominator : Nat) : Nat :=
  roundHalfEven numerator (denominator * 2 ^ shiftOf numerator denominator)

/-- The pattern of a quotient of units, without the limit of the range. -/
def widePattern (numerator denominator : Nat) : Nat :=
  shiftOf numerator denominator * 2 ^ 52 + significandOf numerator denominator

theorem unitsPattern_eq (numerator denominator : Nat) :
    unitsPattern numerator denominator = min infinityPattern (widePattern numerator denominator) :=
  rfl

variable {numerator denominator : Nat}

theorem scaled_pos (positive : 0 < denominator) :
    0 < denominator * 2 ^ shiftOf numerator denominator :=
  Nat.mul_pos positive (Nat.two_pow_pos _)

theorem le_scaled_hidden (positive : 0 < denominator) :
    numerator ≤ 2 ^ 53 * (denominator * 2 ^ shiftOf numerator denominator) := by
  have below : numerator / denominator < 2 ^ (53 + shiftOf numerator denominator) :=
    Nat.lt_of_lt_of_le Nat.lt_log2_self (Nat.pow_le_pow_right (by decide) (by rw [shiftOf]; omega))
  calc numerator ≤ 2 ^ (53 + shiftOf numerator denominator) * denominator :=
        ((Nat.div_lt_iff_lt_mul positive).mp below).le
    _ = 2 ^ 53 * (denominator * 2 ^ shiftOf numerator denominator) := by
        rw [Nat.pow_add, Nat.mul_assoc, Nat.mul_comm (2 ^ _) denominator]

theorem scaled_hidden_le (positive : 0 < denominator) (normal : shiftOf numerator denominator ≠ 0) :
    2 ^ 52 * (denominator * 2 ^ shiftOf numerator denominator) ≤ numerator := by
  have above : 2 ^ (52 + shiftOf numerator denominator) ≤ numerator / denominator := by
    rw [shiftOf] at normal ⊢
    rw [Nat.add_sub_cancel' (by omega)]
    refine Nat.log2_self_le fun none => ?_
    rw [none] at normal
    contradiction
  calc 2 ^ 52 * (denominator * 2 ^ shiftOf numerator denominator)
      = 2 ^ (52 + shiftOf numerator denominator) * denominator := by
        rw [Nat.pow_add, Nat.mul_assoc, Nat.mul_comm denominator]
    _ ≤ numerator := (Nat.le_div_iff_mul_le positive).mp above

theorem significandOf_le (positive : 0 < denominator) :
    significandOf numerator denominator ≤ 2 ^ 53 :=
  (roundHalfEven_mono (le_scaled_hidden positive) (scaled_pos positive)).trans_eq
    (roundHalfEven_mul _ (scaled_pos positive))

theorem le_significandOf (positive : 0 < denominator) (normal : shiftOf numerator denominator ≠ 0) :
    2 ^ 52 ≤ significandOf numerator denominator :=
  (roundHalfEven_mul _ (scaled_pos positive)).symm.trans_le
    (roundHalfEven_mono (scaled_hidden_le positive normal) (scaled_pos positive))

end Significands

theorem log2_mono {less greater : Nat} (order : less ≤ greater) : less.log2 ≤ greater.log2 := by
  rcases Nat.eq_zero_or_pos less with rfl | positive
  · exact Nat.zero_le _
  · have nonzero : greater ≠ 0 := by omega
    exact (Nat.le_log2 nonzero).mpr ((Nat.log2_self_le (Nat.ne_of_gt positive)).trans order)

theorem widePattern_mono {less greater denominator : Nat} (order : less ≤ greater)
    (positive : 0 < denominator) : widePattern less denominator ≤ widePattern greater denominator := by
  have shifts : shiftOf less denominator ≤ shiftOf greater denominator :=
    Nat.sub_le_sub_right (log2_mono (Nat.div_le_div_right order)) _
  rw [widePattern, widePattern]
  rcases Nat.lt_or_eq_of_le shifts with smaller | same
  · have upper : significandOf less denominator ≤ 2 ^ 53 := significandOf_le positive
    have lower : 2 ^ 52 ≤ significandOf greater denominator := le_significandOf positive (by omega)
    omega
  · rw [significandOf, significandOf, same]
    exact Nat.add_le_add_left (roundHalfEven_mono order (scaled_pos positive)) _

theorem nearestPattern_mono {less greater : Nat} (order : less ≤ greater) :
    nearestPattern less 1 ≤ nearestPattern greater 1 := by
  rw [nearestPattern, nearestPattern, unitsPattern_eq, unitsPattern_eq]
  exact min_le_min_left _ (widePattern_mono (Nat.mul_le_mul_right unitsPerOne order) Nat.one_pos)

section Patterns

/-- A significand of full length, or any one below the least exponent, is scaled by its exponent. One
that has grown by a bit is the pattern with the next exponent. -/
theorem patternUnits_of_significand {shift significand : Nat} (inside : significand ≤ 2 ^ 53)
    (normal : shift ≠ 0 → 2 ^ 52 ≤ significand) :
    patternUnits (shift * 2 ^ 52 + significand) = significand * 2 ^ shift := by
  rw [patternUnits]
  split
  next small =>
    have none : shift = 0 := by omega
    rw [none, Nat.zero_mul, Nat.zero_add, Nat.pow_zero, Nat.mul_one]
  next large =>
    rcases Nat.lt_or_eq_of_le inside with full | grown
    · have exponent : (shift * 2 ^ 52 + significand) / 2 ^ 52 - 1 = shift := by omega
      have mantissa : 2 ^ 52 + (shift * 2 ^ 52 + significand) % 2 ^ 52 = significand := by omega
      rw [exponent, mantissa]
    · have exponent : (shift * 2 ^ 52 + significand) / 2 ^ 52 - 1 = shift + 1 := by omega
      have mantissa : 2 ^ 52 + (shift * 2 ^ 52 + significand) % 2 ^ 52 = 2 ^ 52 := by omega
      rw [exponent, mantissa, grown, ← Nat.pow_add, ← Nat.pow_add]
      congr 1
      omega

/-- The distance from a pattern to the next one, in units. -/
def gap (pattern : Nat) : Nat := 2 ^ (pattern / 2 ^ 52 - 1)

theorem gap_pos (pattern : Nat) : 0 < gap pattern := Nat.two_pow_pos _

/-- A pattern and the next one are multiples of the distance between them. -/
theorem exists_significand (pattern : Nat) : ∃ significand < 2 ^ 53,
    patternUnits pattern = significand * gap pattern ∧
      patternUnits (pattern + 1) = (significand + 1) * gap pattern := by
  obtain ⟨shift, significand, inside, normal, whole, exponent⟩ : ∃ shift significand,
      significand < 2 ^ 53 ∧ (shift ≠ 0 → 2 ^ 52 ≤ significand) ∧
        pattern = shift * 2 ^ 52 + significand ∧ pattern / 2 ^ 52 - 1 = shift := by
    refine ⟨pattern / 2 ^ 52 - 1, pattern - (pattern / 2 ^ 52 - 1) * 2 ^ 52, ?_⟩
    omega
  refine ⟨significand, inside, ?_⟩
  rw [gap, exponent, whole, Nat.add_assoc, patternUnits_of_significand inside (by omega),
    patternUnits_of_significand inside.le normal]
  exact ⟨rfl, rfl⟩

theorem patternUnits_succ (pattern : Nat) :
    patternUnits (pattern + 1) = patternUnits pattern + gap pattern := by
  obtain ⟨significand, _, units, next⟩ := exists_significand pattern
  rw [units, next, Nat.succ_mul]

theorem patternUnits_succ_le (pattern : Nat) : patternUnits (pattern + 1) ≤ 2 ^ 53 * gap pattern := by
  obtain ⟨significand, inside, _, next⟩ := exists_significand pattern
  rw [next]
  exact Nat.mul_le_mul_right _ inside

theorem gap_mono {less greater : Nat} (order : less ≤ greater) : gap less ≤ gap greater :=
  Nat.pow_le_pow_right (by decide) (Nat.sub_le_sub_right (Nat.div_le_div_right order) _)

/-- The units of a pattern grow with the pattern. -/
theorem patternUnits_strictMono : StrictMono patternUnits :=
  strictMono_nat_of_lt_succ fun pattern => by
    rw [patternUnits_succ]
    exact Nat.lt_add_of_pos_right (gap_pos pattern)

theorem patternUnits_mono {less greater : Nat} (order : less ≤ greater) :
    patternUnits less ≤ patternUnits greater :=
  patternUnits_strictMono.monotone order

end Patterns

/-- The whole number that is left of a whole number when it is rounded to a double. -/
def roundedWhole (number : Nat) : Nat := patternUnits (nearestPattern number 1) / unitsPerOne

theorem roundedWhole_mono {less greater : Nat} (order : less ≤ greater) :
    roundedWhole less ≤ roundedWhole greater :=
  Nat.div_le_div_right (patternUnits_mono (nearestPattern_mono order))

/-- A limit is passed from the first number on whose image passes it. -/
theorem lt_image_iff {image : Nat → Nat}
    (mono : ∀ {less greater : Nat}, less ≤ greater → image less ≤ image greater)
    {limit start : Nat} (kept : image start ≤ limit) (passed : limit < image (start + 1))
    (number : Nat) : limit < image number ↔ start < number := by
  constructor
  · intro above
    by_contra before
    exact Nat.not_lt_of_le ((mono (Nat.le_of_not_lt before)).trans kept) above
  · exact fun after => Nat.lt_of_lt_of_le passed (mono after)

/-- The greatest whole number that is rounded to a finite double lies just below the middle
between the greatest double and the next power of two. -/
def greatestFinite : Nat := 2 ^ 1024 - 2 ^ 970 - 1

theorem nearestPattern_le_infinity (number : Nat) :
    nearestPattern number 1 ≤ infinityPattern := by
  rw [nearestPattern, unitsPattern_eq]
  exact min_le_left _ _

theorem nearestPattern_eq_infinity_iff (number : Nat) :
    nearestPattern number 1 = infinityPattern ↔ greatestFinite < number := by
  have limited := nearestPattern_le_infinity number
  have kept : nearestPattern greatestFinite 1 ≤ infinityPattern - 1 := by decide +kernel
  have passed : infinityPattern - 1 < nearestPattern (greatestFinite + 1) 1 := by decide +kernel
  rw [← lt_image_iff nearestPattern_mono kept passed]
  rw [infinityPattern] at *
  omega

/-- The greatest whole number whose double is at most the limit of widths. -/
def greatestWidth : Nat := 2 ^ 63 - 513

theorem widthLimit_lt_roundedWhole_iff (number : Nat) :
    Layout.widthLimit < roundedWhole number ↔ greatestWidth < number :=
  lt_image_iff roundedWhole_mono (by decide +kernel) (by decide +kernel) number

theorem placesLimit_lt_roundedWhole_iff (number : Nat) :
    Layout.placesLimit < roundedWhole number ↔ Layout.placesLimit < number :=
  lt_image_iff roundedWhole_mono (by decide +kernel) (by decide +kernel) number

/-- A literal is read as the nearest double, which is not negative. -/
theorem ofInteger_eq_ofPattern (number : Nat) :
    ofInteger number = ofPattern false (nearestPattern number 1) := by
  rw [ofInteger, Int.natAbs_natCast]
  split
  next infinite => rw [infinite, positiveInfinity]
  next =>
    rw [decide_eq_false]
    omega

theorem pattern_ofInteger (number : Nat) :
    pattern (ofInteger number) = nearestPattern number 1 := by
  rw [ofInteger_eq_ofPattern, pattern_ofPattern _ (nearestPattern_le_infinity number)]

theorem truncate_ofInteger (number : Nat) : truncate (ofInteger number) = roundedWhole number := by
  have positive : isNegative (ofInteger number) = false := by
    rw [ofInteger_eq_ofPattern, isNegative_ofPattern _ (nearestPattern_le_infinity number)]
  rw [truncate, positive, units, pattern_ofInteger]
  rfl

end Binary64

open Binary64

/-- The whole part of a literal that lays out the output. -/
theorem wholePart_ofInteger (number : Nat) :
    wholePart (ofInteger number) =
      if greatestFinite < number then .error .infinityToInteger
      else .ok (roundedWhole number) := by
  have noName : isNaN (ofInteger number) = false := by
    rw [isNaN, pattern_ofInteger]
    exact decide_eq_false (Nat.not_lt_of_le (nearestPattern_le_infinity number))
  have infinite : isInfinite (ofInteger number) = true ↔ greatestFinite < number := by
    rw [isInfinite, pattern_ofInteger, beq_iff_eq, nearestPattern_eq_infinity_iff]
  rw [wholePart, noName, if_neg Bool.false_ne_true, truncate_ofInteger]
  exact ite_congr (propext infinite) (fun _ => rfl) fun _ => rfl

end MiniPascal
