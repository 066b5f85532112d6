/-
This file shows that quotients and decimal numerals are rounded to the nearest double, where a number
in the middle of two doubles goes to the even one.
-/

import MiniPascal.Binary64.Decimal
import MiniPascal.Proofs.Numbers.FixedPoint
import MiniPascal.Proofs.Numbers.Rounding

namespace MiniPascal.Binary64

section Middles

/-- Twice the middle between the doubles of a pattern and of the next one, in units. -/
def middleUnits (pattern : Nat) : Nat := patternUnits pattern + patternUnits (pattern + 1)

theorem middleUnits_strictMono : StrictMono middleUnits := fun _ _ order =>
  Nat.add_lt_add (patternUnits_strictMono order)
    (patternUnits_strictMono (Nat.add_lt_add_right order 1))

/-- The middle between the doubles of a pattern and of the next one. -/
def middle (pattern : Nat) : ℚ := middleUnits pattern / 2 / unitsPerOne

theorem cast_unitsPerOne_pos : (0 : ℚ) < unitsPerOne := Nat.cast_pos.mpr unitsPerOne_pos

theorem middle_strictMono : StrictMono middle := fun _ _ order =>
  div_lt_div_of_pos_right
    (div_lt_div_of_pos_right (Nat.cast_lt.mpr (middleUnits_strictMono order)) two_pos)
    cast_unitsPerOne_pos

/-- A number that is not negative is rounded to a pattern between whose two middles it lies; a number
in a middle goes to the even pattern. -/
structure RoundsTo (value : ℚ) (pattern : Nat) : Prop where
  inside : pattern ≤ infinityPattern
  above : ∀ less, less + 1 = pattern → middle less ≤ value
  below : pattern < infinityPattern → value ≤ middle pattern
  even : ∀ tied, tied = pattern ∨ tied + 1 = pattern → value = middle tied → pattern % 2 = 0

/-- A number is rounded to one pattern only. -/
theorem RoundsTo.unique {value : ℚ} {pattern other : Nat} (rounds : RoundsTo value pattern)
    (again : RoundsTo value other) : pattern = other := by
  -- Two patterns have a middle between them, which can only be theirs, and they differ in parity.
  have noLess {less greater : Nat} (first : RoundsTo value less) (second : RoundsTo value greater) :
      greater ≤ less := by
    by_contra order
    have upper := first.below (Nat.lt_of_lt_of_le (Nat.lt_of_not_le order) second.inside)
    obtain ⟨before, rfl⟩ : ∃ before, greater = before + 1 := ⟨greater - 1, by omega⟩
    have lower := second.above before rfl
    have same : before = less := by
      by_contra apart
      have further := middle_strictMono (a := less) (b := before) (by omega)
      linarith
    subst same
    have tied := le_antisymm upper lower
    have evenFirst := first.even before (.inl rfl) tied
    have evenSecond := second.even before (.inr rfl) tied
    omega
  exact le_antisymm (noLess again rounds) (noLess rounds again)

/-- What lies below the first middle is rounded to zero. -/
theorem RoundsTo.zero {value : ℚ} (small : value < middle 0) : RoundsTo value 0 where
  inside := Nat.zero_le _
  above := nofun
  below := fun _ => small.le
  even := fun _ _ _ => rfl

end Middles

section Quotients

variable {numerator denominator : Nat}

/-- The number that a quotient of units stands for. -/
def quotient (numerator denominator : Nat) : ℚ := numerator / denominator / unitsPerOne

theorem middle_le_quotient_iff (positive : 0 < denominator) (pattern : Nat) :
    middle pattern ≤ quotient numerator denominator ↔
      denominator * middleUnits pattern ≤ 2 * numerator := by
  rw [middle, quotient, div_le_div_iff_of_pos_right cast_unitsPerOne_pos,
    div_le_div_iff₀ two_pos (Nat.cast_pos.mpr positive), mul_comm, mul_comm (numerator : ℚ)]
  norm_cast

theorem quotient_le_middle_iff (positive : 0 < denominator) (pattern : Nat) :
    quotient numerator denominator ≤ middle pattern ↔
      2 * numerator ≤ denominator * middleUnits pattern := by
  rw [middle, quotient, div_le_div_iff_of_pos_right cast_unitsPerOne_pos,
    div_le_div_iff₀ (Nat.cast_pos.mpr positive) two_pos, mul_comm, mul_comm (middleUnits _ : ℚ)]
  norm_cast

/-- The multiple of a denominator between two others goes to the even one. -/
theorem roundHalfEven_of_middle (positive : 0 < denominator) (floor : Nat)
    (middle : 2 * numerator = denominator * (2 * floor + 1)) :
    roundHalfEven numerator denominator % 2 = 0 := by
  have even : Even denominator := by
    have whole : Even (denominator * (2 * floor + 1)) := ⟨numerator, by omega⟩
    exact (Nat.even_mul.mp whole).resolve_right (by simp)
  obtain ⟨half, rfl⟩ := even
  have split : numerator = half + (half + half) * floor := by linarith
  apply roundHalfEven_even_of_tie
  rw [split, Nat.add_mul_mod_self_left, Nat.mod_eq_of_lt (by omega)]
  omega

theorem patternUnits_widePattern (numerator : Nat) (positive : 0 < denominator) :
    patternUnits (widePattern numerator denominator) =
      significandOf numerator denominator * 2 ^ shiftOf numerator denominator :=
  patternUnits_of_significand (significandOf_le positive) (le_significandOf positive)

theorem widePattern_mod_two : widePattern numerator denominator % 2 =
    significandOf numerator denominator % 2 := by
  rw [widePattern]
  omega

/-- A quotient is not beyond the middle above its pattern, and in it only for an even one. -/
theorem below_middle (numerator : Nat) (positive : 0 < denominator) :
    2 * numerator ≤ denominator * middleUnits (widePattern numerator denominator) ∧
      (2 * numerator = denominator * middleUnits (widePattern numerator denominator) →
        widePattern numerator denominator % 2 = 0) := by
  have scale : 0 < denominator * 2 ^ shiftOf numerator denominator := scaled_pos positive
  have near := (roundHalfEven_bounds numerator scale).2
  have hidden : shiftOf numerator denominator ≠ 0 → 2 ^ 52 ≤ significandOf numerator denominator :=
    le_significandOf positive
  have units : denominator * middleUnits (widePattern numerator denominator) =
      2 * (denominator * 2 ^ shiftOf numerator denominator * significandOf numerator denominator) +
        denominator * gap (widePattern numerator denominator) := by
    rw [middleUnits, patternUnits_succ, patternUnits_widePattern numerator positive]
    ring
  have wide : denominator * 2 ^ shiftOf numerator denominator ≤
      denominator * gap (widePattern numerator denominator) := by
    rw [gap, widePattern]
    exact Nat.mul_le_mul_left _ (Nat.pow_le_pow_right (by decide) (by omega))
  rw [← significandOf] at near
  refine ⟨by omega, fun tied => ?_⟩
  rw [widePattern_mod_two]
  refine roundHalfEven_of_middle scale (significandOf numerator denominator) ?_
  rw [Nat.mul_succ, Nat.mul_left_comm]
  omega

/-- A quotient is not before the middle below its pattern, and in it only for an even one. -/
theorem above_middle (positive : 0 < denominator) {less : Nat}
    (next : less + 1 = widePattern numerator denominator) :
    denominator * middleUnits less ≤ 2 * numerator ∧
      (2 * numerator = denominator * middleUnits less →
        widePattern numerator denominator % 2 = 0) := by
  have scale : 0 < denominator * 2 ^ shiftOf numerator denominator := scaled_pos positive
  have near := (roundHalfEven_bounds numerator scale).1
  have units : denominator * middleUnits less + denominator * gap less =
      2 * (denominator * 2 ^ shiftOf numerator denominator *
        significandOf numerator denominator) := by
    have whole := patternUnits_widePattern numerator positive
    rw [← next] at whole
    have split := whole
    rw [patternUnits_succ] at split
    rw [middleUnits, whole, ← Nat.mul_add, Nat.add_right_comm, split]
    ring
  rw [← significandOf] at near
  rcases Nat.lt_or_ge (gap less) (2 ^ shiftOf numerator denominator) with narrow | wide
  · -- Below a power of two the patterns stand closer, and the quotient is not below that power.
    have exponent : less / 2 ^ 52 - 1 < shiftOf numerator denominator :=
      (Nat.pow_lt_pow_iff_right Nat.one_lt_two).mp narrow
    have hidden : 2 ^ 52 ≤ significandOf numerator denominator := le_significandOf positive (by omega)
    have power : significandOf numerator denominator = 2 ^ 52 := by
      rw [widePattern] at next
      omega
    have above : 2 ^ 52 * (denominator * 2 ^ shiftOf numerator denominator) ≤ numerator :=
      scaled_hidden_le positive (by omega)
    have apart := Nat.mul_pos positive (gap_pos less)
    rw [power, Nat.mul_comm _ (2 ^ 52)] at units
    omega
  · have wide := Nat.mul_le_mul_left denominator wide
    refine ⟨by omega, fun tied => ?_⟩
    rw [widePattern_mod_two]
    obtain ⟨before, some⟩ : ∃ before, significandOf numerator denominator = before + 1 := by
      refine Nat.exists_eq_succ_of_ne_zero fun none => ?_
      rw [none, Nat.mul_zero] at units
      omega
    refine roundHalfEven_of_middle scale before ?_
    rw [some] at near units
    rw [Nat.mul_succ] at near units ⊢
    rw [Nat.mul_left_comm]
    omega

/-- A quotient of units is rounded to its pattern. -/
theorem roundsTo_unitsPattern (numerator : Nat) (positive : 0 < denominator) :
    RoundsTo (quotient numerator denominator) (unitsPattern numerator denominator) := by
  have below := below_middle numerator positive
  have atMiddle {tied : Nat} (same : quotient numerator denominator = middle tied) :
      2 * numerator = denominator * middleUnits tied :=
    le_antisymm ((quotient_le_middle_iff positive tied).mp same.le)
      ((middle_le_quotient_iff positive tied).mp same.ge)
  rw [unitsPattern_eq]
  rcases Nat.lt_or_ge (widePattern numerator denominator) infinityPattern with finite | infinite
  · rw [min_eq_right finite.le]
    refine ⟨finite.le, fun less next => ?_, fun _ => ?_, fun tied place same => ?_⟩
    · exact (middle_le_quotient_iff positive less).mpr (above_middle positive next).1
    · exact (quotient_le_middle_iff positive _).mpr below.1
    · rcases place with rfl | next
      · exact below.2 (atMiddle same)
      · exact (above_middle positive next).2 (atMiddle same)
  · rw [min_eq_left infinite]
    refine ⟨le_rfl, fun less next => ?_, fun finite => absurd finite (lt_irrefl _), fun _ _ _ => rfl⟩
    obtain ⟨before, last⟩ : ∃ before, before + 1 = widePattern numerator denominator :=
      ⟨widePattern numerator denominator - 1, by omega⟩
    have closer : middle less ≤ middle before := middle_strictMono.monotone (by omega)
    exact closer.trans ((middle_le_quotient_iff positive before).mpr (above_middle positive last).1)

/-- A quotient is rounded to its pattern. -/
theorem roundsTo_nearestPattern (numerator : Nat) (positive : 0 < denominator) :
    RoundsTo (numerator / denominator) (nearestPattern numerator denominator) := by
  have value : (numerator / denominator : ℚ) = quotient (numerator * unitsPerOne) denominator := by
    rw [quotient, Nat.cast_mul, div_right_comm, mul_div_cancel_right₀ _ cast_unitsPerOne_pos.ne']
  rw [value, nearestPattern]
  exact roundsTo_unitsPattern _ positive

end Quotients

section Decimals

/-- A numeral with few digits for its power of ten is smaller than half the least double. -/
theorem small_decimal {digits power : Nat} (small : digits.log2 + 1100 < 3 * power) :
    (digits / 10 ^ power : ℚ) < middle 0 := by
  obtain ⟨least, unit, same⟩ : ∃ least, unitsPerOne = 2 ^ least ∧ least = 1074 := ⟨_, rfl, rfl⟩
  have bound : digits * (2 * unitsPerOne) < 10 ^ power :=
    calc digits * (2 * unitsPerOne) ≤ 2 ^ (digits.log2 + 1) * (2 * unitsPerOne) :=
          Nat.mul_le_mul_right _ Nat.lt_log2_self.le
      _ = 2 ^ (digits.log2 + 1 + (least + 1)) := by
          rw [unit, ← Nat.pow_add_one', ← Nat.pow_add]
      _ < 2 ^ (3 * power) := Nat.pow_lt_pow_right (by decide) (by omega)
      _ = 8 ^ power := by rw [Nat.pow_mul]
      _ ≤ 10 ^ power := Nat.pow_le_pow_left (by decide) _
  have first : middle 0 = 1 / (2 * unitsPerOne) := by
    rw [middle, div_div]
    rfl
  rw [first, div_lt_div_iff₀ (by positivity) (mul_pos two_pos cast_unitsPerOne_pos), one_mul]
  exact_mod_cast bound

/-- Every power of ten beyond those of doubles is rounded to the infinity. -/
theorem nearestPattern_of_large {digits power : Nat} (some : digits ≠ 0) (large : 400 < power) :
    nearestPattern (digits * 10 ^ power) 1 = infinityPattern := by
  refine (nearestPattern_eq_infinity_iff _).mpr ?_
  calc greatestFinite < 10 ^ 400 := by decide +kernel
    _ ≤ 10 ^ power := Nat.pow_le_pow_right (by decide) large.le
    _ ≤ digits * 10 ^ power := Nat.le_mul_of_pos_left _ (Nat.pos_of_ne_zero some)

/-- A decimal numeral is rounded to its pattern. -/
theorem roundsTo_decimalPattern (digits : Nat) (exponent : ℤ) :
    RoundsTo (digits * 10 ^ exponent) (decimalPattern digits exponent) := by
  cases exponent with
  | ofNat power =>
      have value : (digits * 10 ^ Int.ofNat power : ℚ) = (digits * 10 ^ power : Nat) / (1 : Nat) := by
        rw [Int.ofNat_eq_natCast, zpow_natCast]
        push_cast
        rw [div_one]
      have nonneg : 0 ≤ Int.ofNat power := Int.natCast_nonneg power
      have whole :
          decimalPattern digits (Int.ofNat power) = nearestPattern (digits * 10 ^ power) 1 := by
        rw [decimalPattern, if_pos nonneg]
        split
        next none =>
          rw [none, Nat.zero_mul]
          decide +kernel
        next some =>
          split
          next large => exact (nearestPattern_of_large some (Int.ofNat_lt.mp large)).symm
          next => rfl
      rw [value, whole]
      exact roundsTo_nearestPattern _ Nat.one_pos
  | negSucc power =>
      have value : (digits * 10 ^ Int.negSucc power : ℚ) = digits / (10 ^ (power + 1) : Nat) := by
        rw [zpow_negSucc, ← div_eq_mul_inv]
        push_cast
        rfl
      have notWhole : ¬0 ≤ Int.negSucc power := Int.not_le.mpr (Int.negSucc_lt_zero power)
      rw [value, decimalPattern, if_neg notWhole, Int.natAbs_negSucc]
      split
      next small =>
        refine .zero ?_
        push_cast
        exact small_decimal small
      next => exact roundsTo_nearestPattern _ (Nat.pow_pos (by decide))

end Decimals

section Doubles

/-- The number that the double of a pattern stands for. -/
def patternValue (pattern : Nat) : ℚ := patternUnits pattern / unitsPerOne

theorem patternValue_strictMono : StrictMono patternValue := fun _ _ order =>
  div_lt_div_of_pos_right (Nat.cast_lt.mpr (patternUnits_strictMono order)) cast_unitsPerOne_pos

theorem patternValue_nonneg (pattern : Nat) : 0 ≤ patternValue pattern :=
  div_nonneg (Nat.cast_nonneg _) (Nat.cast_nonneg _)

theorem patternValue_zero : patternValue 0 = 0 := zero_div _

theorem two_mul_middle (pattern : Nat) :
    2 * middle pattern = patternValue pattern + patternValue (pattern + 1) := by
  rw [middle, middleUnits, patternValue, patternValue, Nat.cast_add, div_right_comm,
    mul_div_cancel₀ _ two_ne_zero, add_div]

theorem cast_two_pow_sub {less greater : Nat} (order : less ≤ greater) :
    ((2 ^ greater - 2 ^ less : Nat) : ℚ) = 2 ^ greater - 2 ^ less := by
  rw [Nat.cast_sub (Nat.pow_le_pow_right (by decide) order), Nat.cast_pow, Nat.cast_pow,
    Nat.cast_ofNat]

/-- The infinity is taken from the middle between the greatest double and the next power of two on. -/
theorem middle_greatest : middle (infinityPattern - 1) = 2 ^ 1024 - 2 ^ 970 := by
  have units : middleUnits (infinityPattern - 1) = (greatestFinite + 1) * 2 * unitsPerOne := by
    decide +kernel
  have beyond : greatestFinite + 1 = 2 ^ 1024 - 2 ^ 970 := by decide +kernel
  rw [middle, units, Nat.cast_mul, div_right_comm, mul_div_cancel_right₀ _ cast_unitsPerOne_pos.ne',
    Nat.cast_mul, Nat.cast_ofNat, mul_div_cancel_right₀ _ two_ne_zero]
  exact (congrArg Nat.cast beyond).trans (@cast_two_pow_sub 970 1024 (by decide))

theorem abs_exact {number : Float} (finite : isFinite number = true) :
    |exact number| = patternValue (pattern number) := by
  rw [exact_eq finite, abs_div, abs_signedUnits, abs_of_pos cast_unitsPerOne_pos]
  rfl

theorem isFinite_ofPattern {magnitude : Nat} (finite : magnitude < infinityPattern) :
    isFinite (ofPattern false magnitude) = true := by
  rw [isFinite, pattern_ofPattern false finite.le]
  exact decide_eq_true finite

theorem exact_ofPattern {magnitude : Nat} (finite : magnitude < infinityPattern) :
    exact (ofPattern false magnitude) = patternValue magnitude := by
  have isFinite := isFinite_ofPattern finite
  have positive := exact_nonneg isFinite (isNegative_ofPattern false finite.le)
  rw [← abs_of_nonneg positive, abs_exact isFinite, pattern_ofPattern false finite.le]

/-- A double is nearest to a number that is not negative: no finite double is closer, of two equally
close ones it is that with the even pattern, and it is the infinity from the middle between the
greatest double and `2 ^ 1024` on. -/
structure Nearest (value : ℚ) (number : Float) : Prop where
  positive : isNegative number = false
  named : isNaN number = false
  infinite : isInfinite number = true ↔ 2 ^ 1024 - 2 ^ 970 ≤ value
  closest : isFinite number = true → ∀ other, isFinite other = true →
    |value - exact number| ≤ |value - exact other|
  even : isFinite number = true → ∀ other, isFinite other = true → exact other ≠ exact number →
    |value - exact other| = |value - exact number| → pattern number % 2 = 0

/-- Of two numbers that one is closer which lies on the same side of their middle. -/
theorem closer_below {value near far : ℚ} (order : near < far) (below : 2 * value < near + far) :
    |value - near| < |value - far| := by
  rw [abs_of_neg (by linarith : value - far < 0), abs_lt]
  constructor <;> linarith

theorem closer_above {value near far : ℚ} (order : far < near) (above : far + near < 2 * value) :
    |value - near| < |value - far| := by
  rw [abs_of_pos (by linarith : 0 < value - far), abs_lt]
  constructor <;> linarith

theorem equally_close {value near far : ℚ} (middle : 2 * value = near + far) :
    |value - near| = |value - far| := by
  have opposite : value - near = -(value - far) := by linarith
  rw [opposite, abs_neg]

variable {value : ℚ} {pattern : Nat}

/-- No pattern is closer than the rounded one, and as close only to an even one. -/
theorem RoundsTo.closest (rounds : RoundsTo value pattern) (finite : pattern < infinityPattern)
    {other : Nat} (apart : other ≠ pattern) :
    |value - patternValue pattern| < |value - patternValue other| ∨
      |value - patternValue pattern| = |value - patternValue other| ∧ pattern % 2 = 0 := by
  rcases Nat.lt_or_gt_of_ne apart with lower | higher
  · obtain ⟨less, rfl⟩ : ∃ less, pattern = less + 1 := ⟨pattern - 1, by omega⟩
    have above := rounds.above less rfl
    have middle := two_mul_middle less
    have further : patternValue other ≤ patternValue less :=
      patternValue_strictMono.monotone (by omega)
    rcases lt_or_ge (patternValue other + patternValue (less + 1)) (2 * value) with inside | tied
    · exact .inl (closer_above (patternValue_strictMono lower) inside)
    · exact .inr ⟨equally_close (by linarith), rounds.even less (.inr rfl) (by linarith)⟩
  · have below := rounds.below finite
    have middle := two_mul_middle pattern
    have further : patternValue (pattern + 1) ≤ patternValue other :=
      patternValue_strictMono.monotone higher
    rcases lt_or_ge (2 * value) (patternValue pattern + patternValue other) with inside | tied
    · exact .inl (closer_below (patternValue_strictMono higher) inside)
    · exact .inr ⟨equally_close (by linarith), rounds.even pattern (.inl rfl) (by linarith)⟩

theorem RoundsTo.infinite_iff (rounds : RoundsTo value pattern) :
    pattern = infinityPattern ↔ middle (infinityPattern - 1) ≤ value := by
  constructor
  · rintro rfl
    exact rounds.above _ rfl
  · intro beyond
    by_contra notInfinite
    have finite := Nat.lt_of_le_of_ne rounds.inside notInfinite
    have below := rounds.below finite
    have same : pattern = infinityPattern - 1 := by
      by_contra less
      have order : pattern < infinityPattern - 1 := by omega
      linarith [middle_strictMono order]
    have odd := rounds.even pattern (.inl rfl) (le_antisymm below (same ▸ beyond))
    rw [same] at odd
    contradiction

/-- The negative of the rounded pattern is not as close. -/
theorem RoundsTo.closer_than_negative (rounds : RoundsTo value pattern)
    (some : -patternValue pattern ≠ patternValue pattern) :
    |value - -patternValue pattern| ≠ |value - patternValue pattern| := by
  have positive := (patternValue_nonneg pattern).lt_of_ne fun zero => some (by linarith)
  intro same
  rcases abs_eq_abs.mp same with equal | opposite
  · linarith
  · obtain ⟨less, rfl⟩ : ∃ less, pattern = less + 1 := by
      refine Nat.exists_eq_succ_of_ne_zero fun none => ?_
      rw [none, patternValue_zero] at positive
      exact positive.false
    have above := rounds.above less rfl
    linarith [two_mul_middle less, patternValue_nonneg less]

/-- The double of the rounded pattern is nearest. -/
theorem RoundsTo.nearest (rounds : RoundsTo value pattern) (nonneg : 0 ≤ value) :
    Nearest value (ofPattern false pattern) := by
  have samePattern := pattern_ofPattern false rounds.inside
  have magnitude {other : Float} (finite : isFinite other = true) :
      |value - patternValue (Binary64.pattern other)| ≤ |value - exact other| := by
    have closer := abs_abs_sub_abs_le value (exact other)
    rwa [abs_of_nonneg nonneg, abs_exact finite] at closer
  have inside : isFinite (ofPattern false pattern) = true → pattern < infinityPattern := by
    rw [isFinite, samePattern]
    exact of_decide_eq_true
  refine ⟨isNegative_ofPattern false rounds.inside, ?_, ?_, fun finite other isOther => ?_,
    fun finite other isOther apart same => ?_⟩
  · rw [isNaN, samePattern]
    exact decide_eq_false (Nat.not_lt.mpr rounds.inside)
  · rw [isInfinite, samePattern, beq_iff_eq, ← middle_greatest]
    exact rounds.infinite_iff
  · have bounded := inside finite
    rw [exact_ofPattern bounded]
    refine le_trans ?_ (magnitude isOther)
    by_cases samePlace : Binary64.pattern other = pattern
    · rw [samePlace]
    · exact (rounds.closest bounded samePlace).elim le_of_lt fun equal => equal.1.le
  · have bounded := inside finite
    have closer := magnitude isOther
    rw [exact_ofPattern bounded] at same apart
    rw [samePattern]
    rw [same] at closer
    by_cases samePlace : Binary64.pattern other = pattern
    · have opposite : exact other = -patternValue pattern :=
        (eq_or_eq_neg_of_abs_eq (samePlace ▸ abs_exact isOther)).resolve_left apart
      rw [opposite] at apart same
      exact absurd same (rounds.closer_than_negative apart)
    · exact (rounds.closest bounded samePlace).elim (fun nearer => absurd closer nearer.not_ge) And.right

end Doubles

end MiniPascal.Binary64
