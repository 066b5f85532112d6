/-
This file shows that the shortest text of a finite double is read back as the double.
-/

import MiniPascal.Proofs.Numbers.Nearest
import MiniPascal.Proofs.Scanning.Numerals

namespace MiniPascal.Binary64

section Grids

variable {pattern candidate grid : Nat}

/-- The units of a multiple of a grid, scaled as the grid is. -/
def gridUnits (candidate grid : Nat) : Nat := candidate * grid * unitsPerOne

/-- The number of a multiple of a grid. -/
def gridValue (candidate grid : Nat) : ℚ := candidate * grid / 10 ^ gridShift

theorem gridValue_eq (candidate grid : Nat) :
    gridValue candidate grid = quotient (gridUnits candidate grid) (10 ^ gridShift) := by
  rw [gridValue, quotient, gridUnits, Nat.cast_mul, div_right_comm,
    mul_div_cancel_right₀ _ cast_unitsPerOne_pos.ne', Nat.cast_mul, Nat.cast_pow, Nat.cast_ofNat]

theorem readsBack_iff {less : Nat} : readsBack (less + 1) candidate grid = true ↔
    10 ^ gridShift * middleUnits less ≤ 2 * gridUnits candidate grid ∧
      2 * gridUnits candidate grid ≤ 10 ^ gridShift * middleUnits (less + 1) ∧
      (10 ^ gridShift * middleUnits less = 2 * gridUnits candidate grid ∨
        2 * gridUnits candidate grid = 10 ^ gridShift * middleUnits (less + 1) →
          (less + 1) % 2 = 0) := by
  have doubled : 2 * candidate * grid * unitsPerOne = 2 * gridUnits candidate grid := by
    rw [gridUnits, Nat.mul_assoc 2, Nat.mul_assoc 2]
  rw [readsBack, Nat.add_sub_cancel, doubled, ← middleUnits, ← middleUnits,
    Nat.mul_comm (middleUnits less), Nat.mul_comm (middleUnits (less + 1))]
  generalize 10 ^ gridShift * middleUnits less = lower
  generalize 10 ^ gridShift * middleUnits (less + 1) = upper
  split
  next even => simp [even]
  next odd =>
    simp only [Bool.and_eq_true, decide_eq_true_eq]
    omega

/-- A multiple of a grid that reads back is rounded to the pattern. -/
theorem roundsTo_of_readsBack (some : pattern ≠ 0) (finite : pattern < infinityPattern)
    (reads : readsBack pattern candidate grid = true) :
    RoundsTo (gridValue candidate grid) pattern := by
  obtain ⟨less, rfl⟩ := Nat.exists_eq_add_one_of_ne_zero some
  have scale : 0 < 10 ^ gridShift := Nat.pow_pos (by decide)
  obtain ⟨above, below, even⟩ := readsBack_iff.mp reads
  rw [gridValue_eq]
  refine ⟨finite.le, fun other next => ?_, fun _ => ?_, fun tied place same => even ?_⟩
  · cases next
    exact (middle_le_quotient_iff scale _).mpr above
  · exact (quotient_le_middle_iff scale _).mpr below
  · have equal := le_antisymm ((quotient_le_middle_iff scale _).mp same.le)
      ((middle_le_quotient_iff scale _).mp same.ge)
    rcases place with rfl | next
    · exact .inr equal
    · cases next
      exact .inl equal.symm

/-- On a grid that is finer than the patterns the nearest multiple reads back. -/
theorem readsBack_nearest {less : Nat} (positive : 0 < grid)
    (fine : grid * unitsPerOne < 10 ^ gridShift * gap less) :
    readsBack (less + 1) (roundHalfEven (patternUnits (less + 1) * 10 ^ gridShift)
      (grid * unitsPerOne)) grid = true := by
  obtain ⟨lower, upper⟩ := roundHalfEven_bounds (patternUnits (less + 1) * 10 ^ gridShift)
    (Nat.mul_pos positive unitsPerOne_pos)
  generalize roundHalfEven _ _ = nearest at lower upper ⊢
  have doubled : 2 * (grid * unitsPerOne * nearest) = 2 * gridUnits nearest grid := by
    rw [gridUnits]
    ring
  have below : 10 ^ gridShift * middleUnits less + 10 ^ gridShift * gap less =
      2 * (patternUnits (less + 1) * 10 ^ gridShift) := by
    rw [middleUnits, patternUnits_succ]
    ring
  have above : 2 * (patternUnits (less + 1) * 10 ^ gridShift) + 10 ^ gridShift * gap (less + 1) =
      10 ^ gridShift * middleUnits (less + 1) := by
    rw [middleUnits, patternUnits_succ (less + 1)]
    ring
  have wider := Nat.mul_le_mul_left (10 ^ gridShift) (gap_mono (Nat.le_add_right less 1))
  refine readsBack_iff.mpr ⟨?_, ?_, ?_⟩ <;> omega

/-- Seventeen digits are finer than the patterns. -/
theorem fine_of_leading {less leading : Nat} (some : 16 ≤ leading)
    (size : 10 ^ leading * unitsPerOne ≤ patternUnits (less + 1) * 10 ^ gridShift) :
    10 ^ (leading + 1 - 17) * unitsPerOne < 10 ^ gridShift * gap less := by
  obtain ⟨fine, rfl⟩ : ∃ fine, leading = fine + 16 := ⟨leading - 16, by omega⟩
  have positive : 0 < 10 ^ gridShift * gap less := Nat.mul_pos (Nat.pow_pos (by decide)) (gap_pos less)
  have units := Nat.mul_le_mul_right (10 ^ gridShift) (patternUnits_succ_le less)
  have whole : 10 ^ 16 * (10 ^ fine * unitsPerOne) ≤ 2 ^ 53 * (10 ^ gridShift * gap less) :=
    calc 10 ^ 16 * (10 ^ fine * unitsPerOne) = 10 ^ (fine + 16) * unitsPerOne := by
          rw [Nat.pow_add _ fine, Nat.mul_assoc, Nat.mul_left_comm]
      _ ≤ 2 ^ 53 * gap less * 10 ^ gridShift := size.trans units
      _ = 2 ^ 53 * (10 ^ gridShift * gap less) := by
          rw [Nat.mul_assoc, Nat.mul_comm (gap less)]
  have count : fine + 16 + 1 - 17 = fine := by omega
  rw [count]
  omega

end Grids

section Decimals

/-- The number that a decimal writes. -/
def Decimal.value (decimal : Decimal) : ℚ :=
  Text.digitsValue decimal.digits * 10 ^ (decimal.power + 1 - decimal.digits.length)

/-- A decimal has digits, the first of which is no zero. -/
structure Decimal.Formed (decimal : Decimal) : Prop where
  digits : ∀ digit ∈ decimal.digits, Text.isDigit digit = true
  leads : ∃ first others, decimal.digits = first :: others ∧ first ≠ '0'

/-- Zeros behind digits multiply by a power of ten. -/
theorem digitsValue_append_zeros (digits : List Char) (count : Nat) :
    Text.digitsValue (digits ++ List.replicate count '0') = 10 ^ count * Text.digitsValue digits :=
  (Nat.ofDigitChars_append 0).trans Nat.ofDigitChars_replicate_zero

/-- Zeros in front of digits do not count. -/
theorem digitsValue_zeros_append (count : Nat) (digits : List Char) :
    Text.digitsValue (List.replicate count '0' ++ digits) = Text.digitsValue digits := by
  refine (Nat.ofDigitChars_append 0).trans ?_
  rw [Nat.ofDigitChars_replicate_zero, Nat.mul_zero]
  rfl

/-- Only zeros at the end are dropped. -/
theorem Decimal.exists_zeros (decimal : Decimal) :
    ∃ count, decimal.digits = decimal.normalize.digits ++ List.replicate count '0' := by
  have zeros : ∀ digit ∈ decimal.digits.reverse.takeWhile (· == '0'), digit = '0' :=
    fun digit inside => by simpa using List.mem_takeWhile_imp inside
  refine ⟨(decimal.digits.reverse.takeWhile (· == '0')).length, ?_⟩
  rw [normalize, ← List.reverse_replicate, ← List.eq_replicate_of_mem zeros, ← List.reverse_append,
    List.takeWhile_append_dropWhile, List.reverse_reverse]

theorem Decimal.value_normalize (decimal : Decimal) : decimal.normalize.value = decimal.value := by
  obtain ⟨count, digits⟩ := decimal.exists_zeros
  have power : decimal.power + 1 - decimal.normalize.digits.length =
      count + (decimal.power + 1 - decimal.digits.length) := by
    rw [digits, List.length_append, List.length_replicate]
    omega
  have same : decimal.normalize.power = decimal.power := rfl
  rw [value, value, same, power, zpow_add₀ (by norm_num), zpow_natCast, ← mul_assoc]
  congr 1
  rw [digits, digitsValue_append_zeros, Nat.cast_mul, Nat.cast_pow, Nat.cast_ofNat, mul_comm]

theorem Decimal.Formed.normalize {decimal : Decimal} (formed : decimal.Formed) :
    decimal.normalize.Formed := by
  obtain ⟨count, digits⟩ := decimal.exists_zeros
  obtain ⟨first, others, leads, nonzero⟩ := formed.leads
  refine ⟨fun digit inside => formed.digits digit (digits ▸ List.mem_append_left _ inside), ?_⟩
  rw [leads] at digits
  cases front : decimal.normalize.digits with
  | nil =>
      rw [front, List.nil_append] at digits
      exact absurd (List.eq_of_mem_replicate (digits ▸ List.mem_cons_self)) nonzero
  | cons digit behind =>
      rw [front] at digits
      exact ⟨digit, behind, rfl, (List.cons.inj digits).1 ▸ nonzero⟩

end Decimals

section Shortest

variable {pattern leading count : Nat} {decimal : Decimal}

/-- A number is written with a first digit unless it is zero. -/
theorem exists_toDigits {number : Nat} (nonzero : number ≠ 0) :
    ∃ first others, Nat.toDigits 10 number = first :: others ∧ first ≠ '0' := by
  obtain ⟨first, others, same⟩ := List.exists_cons_of_ne_nil (Nat.toDigits_ne_nil (b := 10) (n := number))
  refine ⟨first, others, same, ?_⟩
  rintro rfl
  exact nonzero (head?_toDigits (same ▸ rfl))

/-- The digits of a multiple of a grid, and the power of ten of the first of them. -/
def gridDecimal (candidate exponent : Nat) : Decimal :=
  ⟨Nat.toDigits 10 candidate,
    Int.ofNat (exponent + (Nat.toDigits 10 candidate).length - 1) - Int.ofNat gridShift⟩

theorem value_gridDecimal (candidate exponent : Nat) :
    (gridDecimal candidate exponent).value = gridValue candidate (10 ^ exponent) := by
  have length : 0 < (Nat.toDigits 10 candidate).length := Nat.length_toDigits_pos
  have power : (gridDecimal candidate exponent).power + 1 -
      ((gridDecimal candidate exponent).digits.length : ℤ) = (exponent : ℤ) - (gridShift : ℤ) := by
    simp only [gridDecimal, Int.ofNat_eq_natCast]
    omega
  have digits : Text.digitsValue (gridDecimal candidate exponent).digits = candidate :=
    Nat.ofDigitChars_ten_toDigits
  rw [Decimal.value, power, digits, zpow_sub₀ (by norm_num), zpow_natCast, zpow_natCast, gridValue,
    mul_div_assoc, Nat.cast_pow, Nat.cast_ofNat]

theorem formed_gridDecimal {candidate : Nat} (nonzero : candidate ≠ 0) (exponent : Nat) :
    (gridDecimal candidate exponent).Formed :=
  ⟨fun _ => Nat.isDigit_of_mem_toDigits (by decide) (by decide), exists_toDigits nonzero⟩

/-- Zero reads back as no other pattern. -/
theorem nonzero_of_readsBack {candidate grid : Nat} (nonzero : pattern ≠ 0)
    (reads : readsBack pattern candidate grid = true) : candidate ≠ 0 := by
  rintro rfl
  obtain ⟨less, rfl⟩ := Nat.exists_eq_add_one_of_ne_zero nonzero
  have above := (readsBack_iff.mp reads).1
  have positive : 0 < 10 ^ gridShift * middleUnits less := by
    refine Nat.mul_pos (Nat.pow_pos (by decide)) ?_
    rw [middleUnits, patternUnits_succ]
    have apart := gap_pos less
    omega
  rw [gridUnits, Nat.zero_mul, Nat.zero_mul, Nat.mul_zero] at above
  omega

/-- What is found on a grid is rounded to the pattern. -/
theorem onGrid?_rounds (nonzero : pattern ≠ 0) (finite : pattern < infinityPattern)
    (found : onGrid? pattern leading count = some decimal) :
    decimal.Formed ∧ RoundsTo decimal.value pattern := by
  rw [onGrid?] at found
  obtain ⟨candidate, first, rfl⟩ := Option.map_eq_some_iff.mp found
  have reads := List.find?_some first
  beta_reduce at reads
  change (gridDecimal candidate _).normalize.Formed ∧
    RoundsTo (gridDecimal candidate _).normalize.value pattern
  rw [Decimal.value_normalize, value_gridDecimal]
  exact ⟨(formed_gridDecimal (nonzero_of_readsBack nonzero reads) _).normalize,
    roundsTo_of_readsBack nonzero finite reads⟩

/-- The nearest multiple of a grid is tried first. -/
theorem neighbours_eq (pattern grid : Nat) : ∃ other, neighbours pattern grid =
    [roundHalfEven (patternUnits pattern * 10 ^ gridShift) (grid * unitsPerOne), other] := by
  rw [neighbours]
  generalize patternUnits pattern * 10 ^ gridShift = scaled
  generalize grid * unitsPerOne = step
  have cases : roundHalfEven scaled step = scaled / step ∨
      roundHalfEven scaled step = scaled / step + 1 := by
    rw [roundHalfEven]
    split_ifs <;> omega
  rcases cases with same | next
  · exact ⟨_, by rw [same, if_pos rfl]⟩
  · exact ⟨_, by rw [next, if_neg (Nat.succ_ne_self _)]⟩

/-- Digits write a number below the power of ten of their count. -/
theorem digitsValue_lt {digits : List Char} (all : ∀ digit ∈ digits, Text.isDigit digit = true) :
    Text.digitsValue digits < 10 ^ digits.length := by
  induction digits using List.reverseRecOn with
  | nil => exact Nat.one_pos
  | append_singleton digits digit inductionHypothesis =>
      obtain ⟨others, last⟩ := List.forall_mem_append.mp all
      have bounds := Char.isDigit_iff_toNat.mp (last digit (List.mem_singleton_self _))
      have smaller := inductionHypothesis others
      change 48 ≤ digit.toNat ∧ digit.toNat ≤ 57 at bounds
      rw [Text.digitsValue_append, List.length_append, List.length_singleton, Nat.pow_succ]
      change 10 * Text.digitsValue digits + (digit.toNat - 48) < _
      omega

/-- A scaled number has one digit more than the power of its first digit. -/
theorem scaled_lt_pow_leadingPower (units : Nat) :
    units * 10 ^ gridShift / unitsPerOne < 10 ^ (leadingPower units + 1) := by
  rw [leadingPower]
  generalize units * 10 ^ gridShift / unitsPerOne = scaled
  have length : 0 < (Nat.toDigits 10 scaled).length := Nat.length_toDigits_pos
  rw [Nat.sub_add_cancel length]
  have value : Text.digitsValue (Nat.toDigits 10 scaled) = scaled := Nat.ofDigitChars_ten_toDigits
  conv => lhs; rw [← value]
  exact digitsValue_lt fun _ => Nat.isDigit_of_mem_toDigits (by decide) (by decide)

/-- The power of the first digit is that of the scaled number. -/
theorem pow_leadingPower_le {units : Nat} (large : unitsPerOne ≤ units * 10 ^ gridShift) :
    10 ^ leadingPower units * unitsPerOne ≤ units * 10 ^ gridShift := by
  rw [← Nat.le_div_iff_mul_le unitsPerOne_pos, leadingPower]
  generalize whole : units * 10 ^ gridShift / unitsPerOne = scaled
  have positive : 0 < scaled := whole ▸ Nat.div_pos large unitsPerOne_pos
  by_contra small
  have length : 0 < (Nat.toDigits 10 scaled).length := Nat.length_toDigits_pos
  have power : 0 < (Nat.toDigits 10 scaled).length - 1 := by
    refine Nat.pos_of_ne_zero fun none => ?_
    rw [none, Nat.pow_zero] at small
    omega
  have shorter := Nat.toDigits_length 10 scaled _ power (Nat.lt_of_not_le small)
  omega

/-- Seventeen digits always read back. -/
theorem exists_onGrid? (nonzero : pattern ≠ 0) :
    ∃ decimal, onGrid? pattern (leadingPower (patternUnits pattern)) 17 = some decimal := by
  obtain ⟨less, rfl⟩ := Nat.exists_eq_add_one_of_ne_zero nonzero
  have positive : 0 < patternUnits (less + 1) := by
    rw [patternUnits_succ]
    exact Nat.add_pos_right _ (gap_pos less)
  have headroom : 10 ^ 16 * unitsPerOne ≤ patternUnits (less + 1) * 10 ^ gridShift :=
    calc 10 ^ 16 * unitsPerOne ≤ 10 ^ gridShift := by decide +kernel
      _ ≤ patternUnits (less + 1) * 10 ^ gridShift := Nat.le_mul_of_pos_left _ positive
  have size := pow_leadingPower_le ((Nat.le_mul_of_pos_left _ (by decide)).trans headroom)
  have many : 16 ≤ leadingPower (patternUnits (less + 1)) := by
    have scaled := (Nat.le_div_iff_mul_le unitsPerOne_pos).mpr headroom
    have power := (Nat.pow_lt_pow_iff_right (by decide)).mp
      (Nat.lt_of_le_of_lt scaled (scaled_lt_pow_leadingPower _))
    omega
  have reads := readsBack_nearest (Nat.pow_pos (by decide)) (fine_of_leading many size)
  obtain ⟨other, tried⟩ := neighbours_eq (less + 1)
    (10 ^ (leadingPower (patternUnits (less + 1)) + 1 - 17))
  rw [onGrid?, tried, List.find?_cons, reads]
  exact ⟨_, rfl⟩

/-- The shortest decimal is rounded to the pattern. -/
theorem shortest_rounds (nonzero : pattern ≠ 0) (finite : pattern < infinityPattern) :
    (shortest pattern).Formed ∧ RoundsTo (shortest pattern).value pattern := by
  obtain ⟨seventeen, last⟩ := exists_onGrid? nonzero
  rw [shortest]
  cases found : (List.range 17).findSome? fun count =>
      onGrid? pattern (leadingPower (patternUnits pattern)) (count + 1) with
  | none =>
      have absent := List.findSome?_eq_none_iff.mp found 16 (by decide)
      rw [last] at absent
      cases absent
  | some decimal =>
      obtain ⟨count, _, onGrid⟩ := List.exists_of_findSome?_eq_some found
      exact onGrid?_rounds nonzero finite onGrid

end Shortest

section Texts

open Lexeme (Numeral)

/-- The number that a numeral writes. -/
def numeralValue (numeral : Numeral) : ℚ :=
  Text.digitsValue (numeral.whole ++ numeral.fraction) * 10 ^ (numeral.power - numeral.fraction.length)

/-- A numeral with a point or an exponent, and without a superfluous zero in front, writes a decimal. -/
structure Decimal.Writes (decimal : Decimal) (numeral : Numeral) : Prop where
  formed : numeral.Formed
  written : numeral.whole ≠ []
  plain : numeral.whole.head? = some '0' → numeral.whole = ['0']
  real : numeral.isReal = true
  value : numeralValue numeral = decimal.value

variable {decimal : Decimal}

/-- One digit before the point, and the power as an exponent. -/
def Decimal.scientific (decimal : Decimal) : Numeral :=
  ⟨decimal.digits.take 1, decimal.digits.drop 1, ['e', if decimal.power < 0 then '-' else '+'],
    List.replicate (2 - (Nat.toDigits 10 decimal.power.natAbs).length) '0' ++
      Nat.toDigits 10 decimal.power.natAbs⟩

theorem Decimal.power_scientific (decimal : Decimal) :
    decimal.scientific.power = decimal.power := by
  have magnitude : Text.digitsValue decimal.scientific.exponent = decimal.power.natAbs :=
    (digitsValue_zeros_append _ _).trans Nat.ofDigitChars_ten_toDigits
  rw [Numeral.power, magnitude, scientific]
  by_cases negative : decimal.power < 0
  · rw [if_pos negative]
    change -(decimal.power.natAbs : ℤ) = _
    omega
  · rw [if_neg negative]
    change (decimal.power.natAbs : ℤ) = _
    omega

theorem isDigit_of_mem_zeros {count : Nat} {digit : Char}
    (inside : digit ∈ List.replicate count '0') : Text.isDigit digit = true := by
  rw [List.eq_of_mem_replicate inside]
  rfl

theorem Decimal.Formed.scientific (formed : decimal.Formed) : decimal.Writes decimal.scientific := by
  obtain ⟨first, others, leads, nonzero⟩ := formed.leads
  have whole : decimal.scientific.whole = [first] := by rw [Decimal.scientific, leads]; rfl
  have fraction : decimal.scientific.fraction = others := by rw [Decimal.scientific, leads]; rfl
  have digits := formed.digits
  have some : decimal.scientific.exponent ≠ [] :=
    List.append_ne_nil_of_right_ne_nil _ Nat.toDigits_ne_nil
  rw [leads] at digits
  refine ⟨⟨?_, ?_, ?_, .inr ⟨some, ?_⟩⟩, ?_, ?_, ?_, ?_⟩
  · rw [whole]
    exact List.forall_mem_singleton.mpr (digits first List.mem_cons_self)
  · rw [fraction]
    exact fun digit inside => digits digit (List.mem_cons_of_mem _ inside)
  · exact List.forall_mem_append.mpr ⟨fun _ => isDigit_of_mem_zeros,
      fun _ => Nat.isDigit_of_mem_toDigits (by decide) (by decide)⟩
  · rw [Decimal.scientific]
    split
    · exact .minus (.inl rfl)
    · exact .plus (.inl rfl)
  · rw [whole]
    exact List.cons_ne_nil _ _
  · rw [whole]
    exact fun zero => absurd (Option.some.inj zero) nonzero
  · simp [Numeral.isReal, some]
  · rw [numeralValue, whole, fraction, decimal.power_scientific, Decimal.value, leads,
      List.singleton_append, List.length_cons]
    congr 2
    push_cast
    ring

/-- Zeros between the point and the digits. -/
def Decimal.fractional (decimal : Decimal) : Numeral :=
  ⟨['0'], List.replicate (decimal.power.natAbs - 1) '0' ++ decimal.digits, [], []⟩

theorem Decimal.Formed.fractional (formed : decimal.Formed) (negative : decimal.power < 0) :
    decimal.Writes decimal.fractional := by
  obtain ⟨first, others, leads, nonzero⟩ := formed.leads
  have some : decimal.fractional.fraction ≠ [] := by
    refine List.append_ne_nil_of_right_ne_nil _ ?_
    rw [leads]
    exact List.cons_ne_nil _ _
  refine ⟨⟨?_, ?_, nofun, .inl ⟨rfl, rfl⟩⟩, List.cons_ne_nil _ _, fun _ => rfl, ?_, ?_⟩
  · exact List.forall_mem_singleton.mpr rfl
  · exact List.forall_mem_append.mpr ⟨fun _ => isDigit_of_mem_zeros, formed.digits⟩
  · simp [Numeral.isReal, some]
  · have digits : Text.digitsValue (decimal.fractional.whole ++ decimal.fractional.fraction) =
        Text.digitsValue decimal.digits := by
      rw [Decimal.fractional, List.singleton_append, ← List.cons_append, ← List.replicate_succ,
        digitsValue_zeros_append]
    have power : decimal.fractional.power - (decimal.fractional.fraction.length : ℤ) =
        decimal.power + 1 - decimal.digits.length := by
      change 0 - ((List.replicate (decimal.power.natAbs - 1) '0' ++ decimal.digits).length : ℤ) = _
      rw [List.length_append, List.length_replicate]
      omega
    rw [numeralValue, digits, power, Decimal.value]

/-- The point behind or between the digits. -/
def Decimal.positional (decimal : Decimal) : Numeral :=
  ⟨decimal.digits.take (decimal.power.toNat + 1) ++
      List.replicate (decimal.power.toNat + 1 - decimal.digits.length) '0',
    if (decimal.digits.drop (decimal.power.toNat + 1)).isEmpty then ['0']
      else decimal.digits.drop (decimal.power.toNat + 1), [], []⟩

theorem Decimal.value_positional (nonneg : 0 ≤ decimal.power) :
    numeralValue decimal.positional = decimal.value := by
  obtain ⟨power, same⟩ := Int.eq_ofNat_of_zero_le nonneg
  rw [numeralValue, Decimal.value, positional, same, Int.toNat_natCast]
  rcases Nat.lt_or_ge (power + 1) decimal.digits.length with inside | beyond
  · have some : (decimal.digits.drop (power + 1)).isEmpty = false := by
      simpa using inside
    rw [some, if_neg Bool.false_ne_true, Nat.sub_eq_zero_of_le inside.le, List.replicate_zero,
      List.append_nil, List.take_append_drop, List.length_drop]
    congr 2
    change (0 : ℤ) - ((decimal.digits.length - (power + 1) : Nat) : ℤ) = _
    omega
  · have none : decimal.digits.drop (power + 1) = [] := List.drop_eq_nil_of_le beyond
    have zeros : List.replicate (power + 1 - decimal.digits.length) '0' ++ ['0'] =
        List.replicate (power + 1 - decimal.digits.length + 1) '0' := List.replicate_succ'.symm
    have scale : (power : ℤ) + 1 - decimal.digits.length =
        (power + 1 - decimal.digits.length + 1 : Nat) + (-1) := by
      omega
    rw [none, List.isEmpty_nil, if_pos rfl, List.take_of_length_le beyond, List.append_assoc, zeros,
      digitsValue_append_zeros, scale, zpow_add₀ (by norm_num), zpow_natCast, Nat.cast_mul,
      Nat.cast_pow, Nat.cast_ofNat, mul_comm (10 ^ _ : ℚ), mul_assoc]
    rfl

theorem Decimal.Formed.positional (formed : decimal.Formed) (nonneg : 0 ≤ decimal.power) :
    decimal.Writes decimal.positional := by
  obtain ⟨first, others, leads, nonzero⟩ := formed.leads
  have whole : ∃ behind, decimal.positional.whole = first :: behind := by
    rw [Decimal.positional, leads]
    exact ⟨_, rfl⟩
  obtain ⟨behind, whole⟩ := whole
  have some : decimal.positional.fraction ≠ [] := by
    rw [Decimal.positional]
    split
    · exact List.cons_ne_nil _ _
    next some => simpa using some
  refine ⟨⟨?_, ?_, nofun, .inl ⟨rfl, rfl⟩⟩, ?_, ?_, ?_, ?_⟩
  · exact List.forall_mem_append.mpr
      ⟨fun digit inside => formed.digits digit (List.mem_of_mem_take inside),
        fun _ => isDigit_of_mem_zeros⟩
  · rw [Decimal.positional]
    split
    · exact List.forall_mem_singleton.mpr rfl
    · exact fun digit inside => formed.digits digit (List.mem_of_mem_drop inside)
  · rw [whole]
    exact List.cons_ne_nil _ _
  · rw [whole]
    exact fun zero => absurd (Option.some.inj zero) nonzero
  · simp [Numeral.isReal, some]
  · exact Decimal.value_positional nonneg

/-- The text of a decimal is a numeral that writes it. -/
theorem Decimal.Formed.exists_numeral (formed : decimal.Formed) :
    ∃ numeral, decimal.Writes numeral ∧ decimal.text = numeral.spelling := by
  rw [Decimal.text]
  split
  next outside =>
    refine ⟨_, formed.scientific, ?_⟩
    have behind : (decimal.digits.drop 1).isEmpty = decide (decimal.digits.length ≤ 1) := by
      rw [Bool.eq_iff_iff, List.isEmpty_iff, List.drop_eq_nil_iff, decide_eq_true_iff]
    rw [Numeral.spelling_eq, Lexeme.fractionText, Decimal.scientific, exponentText, behind]
    simp only [decide_eq_true_eq, List.append_assoc, List.cons_append, List.nil_append]
  next inside =>
    split
    next negative =>
      refine ⟨_, formed.fractional negative, ?_⟩
      have some : decimal.fractional.fraction.isEmpty = false := by
        obtain ⟨first, others, leads, _⟩ := formed.leads
        simp [Decimal.fractional, leads]
      rw [Numeral.spelling_eq, Lexeme.fractionText, some, if_neg Bool.false_ne_true]
      simp [Decimal.fractional]
    next positive =>
      refine ⟨_, formed.positional (Int.not_lt.mp positive), ?_⟩
      have some : decimal.positional.fraction.isEmpty = false := by
        rw [Decimal.positional]
        split
        · rfl
        next some => exact Bool.eq_false_of_not_eq_true some
      rw [Numeral.spelling_eq, Lexeme.fractionText, some, if_neg Bool.false_ne_true]
      simp [Decimal.positional]

end Texts

/-- A double is that of its sign and its pattern. -/
theorem ofPattern_pattern (number : Float) :
    ofPattern (isNegative number) (pattern number) = number := by
  have size := number.toBits.toNat_lt
  have whole : (if isNegative number then signPattern + pattern number else pattern number) =
      number.toBits.toNat := by
    rw [isNegative, pattern, signPattern]
    split
    next negative =>
      have large := of_decide_eq_true negative
      omega
    next positive =>
      have small := of_decide_eq_false (Bool.eq_false_of_not_eq_true positive)
      omega
  rw [ofPattern, whole, UInt64.ofNat_toNat, Float.ofBits_toBits]

/-- The shortest text of a finite double is a numeral with its sign that is read back as the double. -/
theorem exists_numeral_of_isFinite {number : Float} (finite : isFinite number = true)
    (names : SpecialNames) : ∃ numeral : Lexeme.Numeral, numeral.Formed ∧ numeral.whole ≠ [] ∧
      (numeral.whole.head? = some '0' → numeral.whole = ['0']) ∧ numeral.isReal = true ∧
      (shortestText names number).toList =
        (if isNegative number then ['-'] else []) ++ numeral.spelling ∧
      ofDecimal (isNegative number) numeral.whole numeral.fraction numeral.power = number := by
  have bounded : pattern number < infinityPattern := of_decide_eq_true finite
  have named : isNaN number = false := decide_eq_false (Nat.not_lt.mpr bounded.le)
  have infinite : isInfinite number = false := beq_eq_false_iff_ne.mpr bounded.ne
  have signed (magnitude : List Char) :
      (String.ofList (if isNegative number then '-' :: magnitude else magnitude)).toList =
        (if isNegative number then ['-'] else []) ++ magnitude := by
    rw [String.toList_ofList]
    cases isNegative number <;> rfl
  rw [shortestText, named, infinite, if_neg Bool.false_ne_true, signed, if_neg Bool.false_ne_true]
  by_cases zero : pattern number = 0
  · have digit : ∀ digit ∈ ['0'], Text.isDigit digit = true := List.forall_mem_singleton.mpr rfl
    have none : decimalPattern (Text.digitsValue (['0'] ++ ['0'])) (0 - (['0'].length : ℤ)) = 0 := by
      decide +kernel
    refine ⟨⟨['0'], ['0'], [], []⟩, ⟨digit, digit, nofun, .inl ⟨rfl, rfl⟩⟩, List.cons_ne_nil _ _,
      fun _ => rfl, rfl, ?_, ?_⟩
    · rw [if_pos zero]
      rfl
    · have power : (⟨['0'], ['0'], [], []⟩ : Lexeme.Numeral).power = 0 := rfl
      rw [ofDecimal, power, none, ← zero, ofPattern_pattern]
  · obtain ⟨formed, rounds⟩ := shortest_rounds zero bounded
    obtain ⟨numeral, writes, text⟩ := formed.exists_numeral
    have decimal := roundsTo_decimalPattern (Text.digitsValue (numeral.whole ++ numeral.fraction))
      (numeral.power - numeral.fraction.length)
    rw [← numeralValue, writes.value] at decimal
    refine ⟨numeral, writes.formed, writes.written, writes.plain, writes.real, ?_, ?_⟩
    · rw [if_neg zero, text]
    · rw [ofDecimal, decimal.unique rounds, ofPattern_pattern]

end MiniPascal.Binary64
