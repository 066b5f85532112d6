/-
This file says which rational number a finite double stands for, and that the order of doubles is
the order of these numbers.
-/

import MiniPascal.Proofs.Numbers.Patterns

namespace MiniPascal.Binary64

open Float.Model (Format UnpackedFloat)
open Float.Model.UnpackedFloat

/-- The number that a sign, a mantissa and a power of two make together. -/
def unpackedValue : UnpackedFloat → ℚ
  | .finite sign mantissa exponent _ => sign.apply mantissa * 2 ^ exponent
  | _ => 0

/-- The number for which a finite double stands exactly. -/
def exact (number : Float) : ℚ := unpackedValue number.toModel.unpack

def signOf (negative : Bool) : Sign := if negative then .negative else .positive

/-- A finite double is a zero, or it has a mantissa of at most 53 bits, and of exactly 53 bits above
the least exponent. -/
inductive Canonical (negative : Bool) (units : Nat) : UnpackedFloat → Prop where
  | zero (none : units = 0) : Canonical negative units (.zero (signOf negative))
  | finite {mantissa exponent : Nat} (positive : 0 < mantissa) (small : mantissa < 2 ^ 53)
      (normal : exponent ≠ 0 → 2 ^ 52 ≤ mantissa) (whole : units = mantissa * 2 ^ exponent) :
      Canonical negative units
        (.finite (signOf negative) mantissa ((exponent : Int) - 1074) positive)

theorem toNat_unpackSign (bits : Bits) : (unpackSign bits).toNat = bits.toNat / 2 ^ 63 % 2 := by
  simp [unpackSign, Nat.shiftRight_eq_div_pow]

/-- The sign bit tells the sign. -/
theorem ofBitVec_unpackSign (bits : Bits) :
    Sign.ofBitVec (unpackSign bits) = signOf (decide (signPattern ≤ bits.toNat)) := by
  have value := toNat_unpackSign bits
  have size : bits.toNat < 2 ^ 64 := bits.isLt
  rw [signPattern, Sign.ofBitVec, signOf]
  by_cases set : 2 ^ 63 ≤ bits.toNat
  · have one : unpackSign bits ≠ 0#1 := by
      intro none
      rw [none] at value
      change 0 = _ at value
      omega
    rw [if_neg one, decide_eq_true set, if_pos rfl]
  · have none : unpackSign bits = 0#1 := by
      apply BitVec.eq_of_toNat_eq
      change _ = 0
      omega
    rw [if_pos none, decide_eq_false set]
    rfl

section Unpacking

variable {bits : Bits}

/-- Without an exponent the mantissa counts units, and may be zero. -/
theorem unpack_canonical_of_bottom (bottom : unpackExponent bits = 0#11) :
    Canonical (decide (signPattern ≤ bits.toNat)) (patternUnits (bits.toNat % signPattern))
      (unpack Format.binary64 bits) := by
  have exponentValue := toNat_unpackExponent bits
  have mantissaValue := toNat_unpackMantissa bits
  have mantissaSize := (unpackMantissa bits).isLt
  change _ < 2 ^ 52 at mantissaSize
  have sign := ofBitVec_unpackSign bits
  have noTop : (0#11 : BitVec 11) ≠ -1#11 := by decide
  have value : (unpackExponent bits).toNat = 0 := congrArg BitVec.toNat bottom
  have units : patternUnits (bits.toNat % signPattern) = (unpackMantissa bits).toNat := by
    rw [patternUnits, signPattern, if_pos (by omega)]
    omega
  rw [units]
  by_cases none : unpackMantissa bits = 0#52
  · have same : unpack Format.binary64 bits = .zero (Sign.ofBitVec (unpackSign bits)) := by
      rw [unpack, if_neg (bottom ▸ noTop), if_pos bottom, dif_pos none]
    rw [same, sign]
    exact .zero (congrArg BitVec.toNat none)
  · have positive : 0 < (unpackMantissa bits).toNat :=
      Nat.pos_of_ne_zero fun zero => none (BitVec.eq_of_toNat_eq zero)
    have same : unpack Format.binary64 bits =
        .finite (Sign.ofBitVec (unpackSign bits)) (unpackMantissa bits).toNat
          (((0 : Nat) : Int) - 1074) positive := by
      rw [unpack, if_neg (bottom ▸ noTop), if_pos bottom, dif_neg none]
      congr 1
      rw [value]
      decide
    rw [same, sign]
    exact .finite positive (by omega) (absurd rfl) (Nat.mul_one _).symm

/-- An exponent adds the highest bit to the mantissa. -/
theorem unpack_canonical_of_exponent (top : unpackExponent bits ≠ -1#11)
    (noBottom : unpackExponent bits ≠ 0#11) :
    Canonical (decide (signPattern ≤ bits.toNat)) (patternUnits (bits.toNat % signPattern))
      (unpack Format.binary64 bits) := by
  have exponentValue := toNat_unpackExponent bits
  have mantissaValue := toNat_unpackMantissa bits
  have mantissaSize := (unpackMantissa bits).isLt
  change _ < 2 ^ 52 at mantissaSize
  have some : (unpackExponent bits).toNat ≠ 0 := fun value =>
    noBottom (BitVec.eq_of_toNat_eq value)
  have units : patternUnits (bits.toNat % signPattern) =
      (2 ^ 52 + (unpackMantissa bits).toNat) * 2 ^ ((unpackExponent bits).toNat - 1) := by
    rw [patternUnits, signPattern, if_neg (by omega)]
    congr 2
    · omega
    · congr 1
      omega
  have same : unpack Format.binary64 bits =
      .finite (Sign.ofBitVec (unpackSign bits)) (2 ^ 52 + (unpackMantissa bits).toNat)
        ((((unpackExponent bits).toNat - 1 : Nat) : Int) - 1074)
        (Nat.add_pos_left (by decide) _) := by
    rw [unpack, if_neg top, if_neg noBottom]
    congr 1
    · rw [BitVec.toNat_append, ← Nat.shiftLeft_add_eq_or_of_lt (unpackMantissa bits).isLt]
      rfl
    · change ((unpackExponent bits).toNat : Int) - 1075 = _
      omega
  rw [units, same, ofBitVec_unpackSign]
  exact .finite _ (by omega) (fun _ => Nat.le_add_right _ _) rfl

theorem unpack_canonical (finite : bits.toNat % signPattern < infinityPattern) :
    Canonical (decide (signPattern ≤ bits.toNat)) (patternUnits (bits.toNat % signPattern))
      (unpack Format.binary64 bits) := by
  have exponentValue := toNat_unpackExponent bits
  simp only [signPattern, infinityPattern] at finite
  have top : unpackExponent bits ≠ -1#11 := by
    intro top
    have value : (unpackExponent bits).toNat = 2047 := congrArg BitVec.toNat top
    omega
  by_cases bottom : unpackExponent bits = 0#11
  · exact unpack_canonical_of_bottom bottom
  · exact unpack_canonical_of_exponent top bottom

end Unpacking

theorem canonical {number : Float} (finite : isFinite number = true) :
    Canonical (isNegative number) (units number) number.toModel.unpack :=
  @unpack_canonical number.toBits.toBitVec (of_decide_eq_true finite)

section Values

/-- The units of a finite double with its sign. -/
def signedUnits (number : Float) : Int := (signOf (isNegative number)).apply (units number)

theorem apply_mul (sign : Sign) (mantissa factor : Nat) :
    sign.apply (mantissa * factor : Nat) = sign.apply mantissa * factor := by
  cases sign with
  | negative => exact (congrArg Neg.neg (Int.natCast_mul _ _)).trans (Int.neg_mul _ _).symm
  | positive => exact Int.natCast_mul _ _

theorem unitsPerOne_pos : 0 < unitsPerOne := by
  unfold unitsPerOne
  positivity

theorem cast_unitsPerOne : (unitsPerOne : ℚ) = 2 ^ (1074 : ℤ) := by
  simp only [unitsPerOne, Nat.cast_pow, Nat.cast_ofNat]
  exact (zpow_natCast _ _).symm

theorem Canonical.value {negative : Bool} {units : Nat} {unpacked : UnpackedFloat}
    (shape : Canonical negative units unpacked) :
    unpackedValue unpacked = ((signOf negative).apply units : ℚ) / unitsPerOne := by
  cases shape with
  | zero none =>
      rw [none]
      cases negative <;> exact (zero_div _).symm
  | @finite mantissa exponent positive small normal whole =>
      have split : (2 : ℚ) ^ ((exponent : Int) - 1074) = 2 ^ exponent / unitsPerOne := by
        rw [zpow_sub₀ two_ne_zero, zpow_natCast, cast_unitsPerOne]
      rw [unpackedValue, split, whole, apply_mul, Int.cast_mul, Int.cast_natCast, Nat.cast_pow,
        Nat.cast_ofNat, mul_div_assoc]

/-- A finite double stands for its units. -/
theorem exact_eq {number : Float} (finite : isFinite number = true) :
    exact number = (signedUnits number : ℚ) / unitsPerOne :=
  (canonical finite).value

end Values

section Order

/-- Mantissas of full length are ordered like their exponents. -/
theorem scaled_le_scaled {mantissa other exponent further : Nat} (small : mantissa < 2 ^ 53)
    (normal : further ≠ 0 → 2 ^ 52 ≤ other)
    (order : exponent < further ∨ exponent = further ∧ mantissa ≤ other) :
    mantissa * 2 ^ exponent ≤ other * 2 ^ further := by
  obtain less | ⟨rfl, below⟩ := order
  · calc mantissa * 2 ^ exponent ≤ 2 ^ 53 * 2 ^ exponent :=
          Nat.mul_le_mul_right _ (Nat.le_of_lt small)
      _ = 2 ^ 52 * 2 ^ (exponent + 1) := by
          rw [← Nat.pow_add, ← Nat.pow_add]
          congr 1
          omega
      _ ≤ 2 ^ 52 * 2 ^ further := Nat.mul_le_mul_left _ (Nat.pow_le_pow_right (by decide) less)
      _ ≤ other * 2 ^ further := Nat.mul_le_mul_right _ (normal (by omega))
  · exact Nat.mul_le_mul_right _ below

theorem isLE_compare_iff {mantissa other exponent further : Nat} :
    ((compare ((exponent : Int) - 1074) ((further : Int) - 1074)).then
        (compare mantissa other)).isLE = true ↔
      exponent < further ∨ exponent = further ∧ mantissa ≤ other := by
  rw [Ordering.isLE_then_iff_or, compare_lt_iff_lt, compare_eq_iff_eq, Nat.isLE_compare]
  omega

/-- The order of doubles is that of their units. -/
theorem Canonical.le {negative sign : Bool} {units others : Nat} {first second : UnpackedFloat}
    (shape : Canonical negative units first) (other : Canonical sign others second)
    (order : first.le second = true) :
    (signOf negative).apply units ≤ (signOf sign).apply others := by
  cases shape with
  | zero none =>
      cases other with
      | zero others =>
          rw [none, others]
          cases negative <;> cases sign <;> exact Int.le_refl _
      | finite =>
          rw [none]
          cases sign with
          | true => cases order
          | false => cases negative <;> exact Int.natCast_nonneg _
  | finite positive small normal whole =>
      cases other with
      | zero others =>
          rw [others]
          cases negative with
          | true => cases sign <;> exact Int.neg_nonpos_of_nonneg (Int.natCast_nonneg _)
          | false => cases order
      | finite _ otherSmall otherNormal others =>
          rw [whole, others]
          cases negative with
          | true =>
              cases sign with
              | true =>
                  refine Int.neg_le_neg (Int.ofNat_le.mpr ?_)
                  change Ordering.isLE (Ordering.swap _) = true at order
                  rw [Ordering.swap_then, Int.compare_swap, Nat.compare_swap] at order
                  exact scaled_le_scaled otherSmall normal (isLE_compare_iff.mp order)
              | false =>
                  exact (Int.neg_nonpos_of_nonneg (Int.natCast_nonneg _)).trans
                    (Int.natCast_nonneg _)
          | false =>
              cases sign with
              | true => cases order
              | false =>
                  exact Int.ofNat_le.mpr
                    (scaled_le_scaled small otherNormal (isLE_compare_iff.mp order))

end Order

end MiniPascal.Binary64
