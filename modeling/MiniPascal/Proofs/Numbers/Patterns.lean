/-
This file shows that doubles keep the patterns from which they are made.
-/

import MiniPascal.Binary64.Basic
import Mathlib

namespace MiniPascal.Binary64

open Float.Model (Format)
open Float.Model.UnpackedFloat

/-- The bits of a double. -/
abbrev Bits := BitVec Format.binary64.numBits

section Fields

variable {sign : Sign} {exponent : BitVec 11} {mantissa : BitVec 52}

theorem pack_subnormal (positive : 0 < mantissa.toNat) :
    pack Format.binary64 (.finite sign mantissa.toNat (-1074) positive) =
      packComponents Format.binary64 sign 0#11 mantissa := by
  have small : ¬mantissa.toNat.log2 + 1 = Format.binary64.mantissaBits := by
    have below := (Nat.log2_lt (Nat.ne_of_gt positive)).mpr mantissa.isLt
    change ¬mantissa.toNat.log2 + 1 = 53
    omega
  rw [pack, if_neg (by decide), if_neg small, BitVec.ofNat_toNat, BitVec.setWidth_eq]

theorem pack_normal (below : exponent.toNat < 2047) (positive : 0 < 2 ^ 52 + mantissa.toNat) :
    pack Format.binary64 (.finite sign (2 ^ 52 + mantissa.toNat) (exponent.toNat - 1075) positive) =
      packComponents Format.binary64 sign exponent mantissa := by
  have size := mantissa.isLt
  have hidden : (2 ^ 52 + mantissa.toNat).log2 + 1 = Format.binary64.mantissaBits := by
    rw [(Nat.log2_eq_iff (by omega)).mpr ⟨Nat.le_add_right _ _, by omega⟩]
    rfl
  have biased : ((exponent.toNat : Int) - 1075 + (Format.binary64.exponentBias : Nat) +
      (52 : Nat)).toNat = exponent.toNat := by
    change ((exponent.toNat : Int) - 1075 + (1023 : Nat) + (52 : Nat)).toNat = _
    omega
  rw [pack]
  dsimp only
  rw [biased, if_neg (by omega), if_pos hidden]
  congr 1
  · rw [BitVec.ofNat_toNat, BitVec.setWidth_eq]
  · apply BitVec.eq_of_toNat_eq
    rw [BitVec.toNat_ofNat, Nat.add_mod_left, Nat.mod_eq_of_lt size]

end Fields

theorem packComponents_fields (bits : Bits) :
    packComponents Format.binary64 (Sign.ofBitVec (unpackSign bits)) (unpackExponent bits)
      (unpackMantissa bits) = bits := by
  have sameSign : ∀ bit : BitVec 1, (Sign.ofBitVec bit).toBitVec = bit := by decide
  rw [packComponents, sameSign]
  ext place inside
  simp only [unpackSign, unpackExponent, unpackMantissa, BitVec.getElem_append,
    BitVec.getElem_cast, BitVec.extractLsb, BitVec.getElem_extractLsb']
  grind

theorem toNat_unpackExponent (bits : Bits) :
    (unpackExponent bits).toNat = bits.toNat / 2 ^ 52 % 2 ^ 11 := by
  simp [unpackExponent, Nat.shiftRight_eq_div_pow]

theorem toNat_unpackMantissa (bits : Bits) :
    (unpackMantissa bits).toNat = bits.toNat % 2 ^ 52 := by
  simp [unpackMantissa]

/-- A pattern that stands for a number is packed from what it unpacks to. -/
theorem pack_unpack {bits : Bits} (number : bits.toNat % signPattern ≤ infinityPattern) :
    pack Format.binary64 (unpack Format.binary64 bits) = bits := by
  have whole := packComponents_fields bits
  have exponentValue := toNat_unpackExponent bits
  have mantissaValue := toNat_unpackMantissa bits
  simp only [signPattern, infinityPattern] at number
  by_cases top : unpackExponent bits = -1#11
  · have value : (unpackExponent bits).toNat = 2047 := congrArg BitVec.toNat top
    have none : unpackMantissa bits = 0#52 := by
      apply BitVec.eq_of_toNat_eq
      change _ = 0
      omega
    have same : unpack Format.binary64 bits = .infinity (Sign.ofBitVec (unpackSign bits)) := by
      rw [unpack, if_pos top, if_pos none]
    rw [same]
    rw [top, none] at whole
    exact whole
  by_cases bottom : unpackExponent bits = 0#11
  · have value : (unpackExponent bits).toNat = 0 := congrArg BitVec.toNat bottom
    by_cases none : unpackMantissa bits = 0#52
    · have same : unpack Format.binary64 bits = .zero (Sign.ofBitVec (unpackSign bits)) := by
        rw [unpack, if_neg top, if_pos bottom, dif_pos none]
      rw [same]
      rw [bottom, none] at whole
      exact whole
    · have positive : 0 < (unpackMantissa bits).toNat :=
        Nat.pos_of_ne_zero fun zero => none (BitVec.eq_of_toNat_eq zero)
      have same : unpack Format.binary64 bits =
          .finite (Sign.ofBitVec (unpackSign bits)) (unpackMantissa bits).toNat (-1074) positive := by
        rw [unpack, if_neg top, if_pos bottom, dif_neg none]
        congr 1
        rw [value]
        decide
      rw [same]
      rw [bottom] at whole
      exact (pack_subnormal positive).trans whole
  · have below : (unpackExponent bits).toNat < 2047 := by
      have size := (unpackExponent bits).isLt
      have notTop : (unpackExponent bits).toNat ≠ 2047 := fun value =>
        top (BitVec.eq_of_toNat_eq value)
      change _ < 2048 at size
      omega
    have same : unpack Format.binary64 bits =
        .finite (Sign.ofBitVec (unpackSign bits)) (2 ^ 52 + (unpackMantissa bits).toNat)
          ((unpackExponent bits).toNat - 1075) (Nat.add_pos_left (by decide) _) := by
      rw [unpack, if_neg top, if_neg bottom]
      congr 1
      rw [BitVec.toNat_append, ← Nat.shiftLeft_add_eq_or_of_lt (unpackMantissa bits).isLt]
      rfl
    rw [same]
    exact (pack_normal below _).trans whole

/-- Reading the pattern of a number gives the pattern back. -/
theorem toBits_ofBits {bits : UInt64} (number : bits.toNat % signPattern ≤ infinityPattern) :
    (Float.ofBits bits).toBits = bits :=
  UInt64.toBitVec_inj.mp (pack_unpack number)

/-- The pattern with its sign stands for a number. -/
theorem toBits_ofPattern (negative : Bool) {magnitude : Nat} (number : magnitude ≤ infinityPattern) :
    (ofPattern negative magnitude).toBits.toNat =
      if negative then signPattern + magnitude else magnitude := by
  have small : magnitude < signPattern := Nat.lt_of_le_of_lt number (by decide)
  have whole : (UInt64.ofNat (if negative then signPattern + magnitude else magnitude)).toNat =
      if negative then signPattern + magnitude else magnitude := by
    apply UInt64.toNat_ofNat_of_lt'
    rw [signPattern] at small ⊢
    change _ < 2 ^ 64
    split <;> omega
  rw [ofPattern, toBits_ofBits, whole]
  rw [whole]
  cases negative with
  | false => rwa [if_neg Bool.false_ne_true, Nat.mod_eq_of_lt small]
  | true => rwa [if_pos rfl, Nat.add_mod_left, Nat.mod_eq_of_lt small]

theorem pattern_ofPattern (negative : Bool) {magnitude : Nat}
    (number : magnitude ≤ infinityPattern) : pattern (ofPattern negative magnitude) = magnitude := by
  have small : magnitude < signPattern := Nat.lt_of_le_of_lt number (by decide)
  rw [pattern, toBits_ofPattern negative number]
  cases negative with
  | false => rw [if_neg Bool.false_ne_true, Nat.mod_eq_of_lt small]
  | true => rw [if_pos rfl, Nat.add_mod_left, Nat.mod_eq_of_lt small]

theorem isNegative_ofPattern (negative : Bool) {magnitude : Nat}
    (number : magnitude ≤ infinityPattern) :
    isNegative (ofPattern negative magnitude) = negative := by
  have small : magnitude < signPattern := Nat.lt_of_le_of_lt number (by decide)
  rw [isNegative, toBits_ofPattern negative number]
  cases negative with
  | false => exact decide_eq_false (Nat.not_le_of_lt small)
  | true => exact decide_eq_true (Nat.le_add_right _ _)

theorem pattern_eq_zero {number : Float} (none : units number = 0) : pattern number = 0 := by
  rw [units, patternUnits] at none
  split at none
  · exact none
  · rcases Nat.mul_eq_zero.mp none with hidden | power
    · omega
    · exact absurd power (Nat.ne_of_gt (Nat.two_pow_pos _))

/-- A number without units equals zero, whatever its sign. -/
theorem beq_zero_of_units {number : Float} (none : units number = 0) : (number == 0) = true := by
  have empty := pattern_eq_zero none
  have size := number.toBits.toNat_lt
  have sign : number.toBits = 0 ∨ number.toBits = 0x8000000000000000 := by
    rw [pattern, signPattern] at empty
    rcases Nat.lt_or_ge number.toBits.toNat (2 ^ 63) with positive | negative
    · exact .inl (UInt64.toNat_inj.mp (by change _ = 0; omega))
    · exact .inr (UInt64.toNat_inj.mp (by change _ = 2 ^ 63; omega))
  have unpacked : ∃ sign, number.toModel.unpack = .zero sign := by
    rw [Float.Model.unpack]
    change ∃ sign, unpack Format.binary64 number.toBits.toBitVec = _
    rcases sign with same | same
    · exact ⟨.positive, by rw [same]; rfl⟩
    · exact ⟨.negative, by rw [same]; rfl⟩
  obtain ⟨sign, same⟩ := unpacked
  change number.toModel.unpack.beq (0 : Float).toModel.unpack = true
  rw [same]
  rfl

/-- An infinite number is a number. -/
theorem isNaN_of_isInfinite {number : Float} (infinite : isInfinite number = true) :
    isNaN number = false := by
  have same : pattern number = infinityPattern := by simpa [isInfinite] using infinite
  rw [isNaN, same]
  exact decide_eq_false (Nat.lt_irrefl _)

/-- Only an infinite dividend has no remainder by a number other than zero. -/
theorem remainder?_eq_none {dividend divisor : Float} (nonzero : (divisor == 0) = false) :
    remainder? dividend divisor = none ↔ isInfinite dividend = true ∧ isNaN divisor = false := by
  have someUnits : units divisor ≠ 0 := fun none => by
    rw [beq_zero_of_units none] at nonzero
    cases nonzero
  constructor
  · intro fails
    rw [remainder?] at fails
    split at fails
    · cases fails
    next numbers =>
      simp only [Bool.or_eq_true, not_or, Bool.not_eq_true] at numbers
      split at fails
      next cause =>
        simp only [someUnits, decide_false, Bool.or_false] at cause
        exact ⟨cause, numbers.2⟩
      · split at fails <;> cases fails
  · rintro ⟨infinite, number⟩
    rw [remainder?, isNaN_of_isInfinite infinite, number, infinite]
    rfl

end MiniPascal.Binary64
