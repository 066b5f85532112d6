/-
This file reads doubles as exact numbers and rounds exact numbers to doubles.
-/

-- Powers of natural numbers mean the same whether or not an algebraic hierarchy is imported.
attribute [instance (high), default_instance (20000)] instPowNat

namespace MiniPascal.Binary64

/-- A tie between two whole numbers goes to the even one. -/
def roundHalfEven (numerator denominator : Nat) : Nat :=
  let floor := numerator / denominator
  let twice := 2 * (numerator % denominator)
  if twice < denominator then floor
  else if denominator < twice then floor + 1
  else floor + floor % 2

/-- The rounded quotient is within half a unit. -/
theorem roundHalfEven_bounds (numerator : Nat) {denominator : Nat} (positive : 0 < denominator) :
    2 * (denominator * roundHalfEven numerator denominator) ≤ 2 * numerator + denominator ∧
      2 * numerator ≤ 2 * (denominator * roundHalfEven numerator denominator) + denominator := by
  have split := Nat.div_add_mod numerator denominator
  have small := Nat.mod_lt numerator positive
  have next := Nat.mul_succ denominator (numerator / denominator)
  have parity := Nat.mod_two_eq_zero_or_one (numerator / denominator)
  simp only [roundHalfEven]
  split
  · omega
  · split
    · rw [← Nat.succ_eq_add_one]
      omega
    · rcases parity with even | odd
      · rw [even, Nat.add_zero]
        omega
      · rw [odd, ← Nat.succ_eq_add_one]
        omega

/-- A tie goes to the even neighbour. -/
theorem roundHalfEven_even_of_tie {numerator denominator : Nat}
    (tie : 2 * (numerator % denominator) = denominator) :
    roundHalfEven numerator denominator % 2 = 0 := by
  simp only [roundHalfEven, tie, Nat.lt_irrefl, if_false]
  omega

/-- A tie between two whole numbers goes to the greater one. -/
def roundHalfUp (numerator denominator : Nat) : Nat :=
  (2 * numerator + denominator) / (2 * denominator)

/-- Every finite double is a whole number of units of `2 ^ (-1074)`. -/
def unitsPerOne : Nat := 2 ^ 1074

/-- The pattern of the positive infinity follows those of the finite magnitudes. -/
def infinityPattern : Nat := 0x7ff0000000000000

/-- The sign stands above the 63 bits of the magnitude. -/
def signPattern : Nat := 2 ^ 63

/-- The pattern of the double that is nearest to a quotient of units. A significand of 53 bits is
rounded to even; one that grows to 54 bits carries into the exponent. -/
def unitsPattern (numerator denominator : Nat) : Nat :=
  let shift := (numerator / denominator).log2 - 52
  min infinityPattern (shift * 2 ^ 52 + roundHalfEven numerator (denominator * 2 ^ shift))

/-- The pattern of the double that is nearest to a quotient. -/
def nearestPattern (numerator denominator : Nat) : Nat :=
  unitsPattern (numerator * unitsPerOne) denominator

/-- The double with the given magnitude pattern and sign. -/
def ofPattern (negative : Bool) (pattern : Nat) : Float :=
  Float.ofBits (UInt64.ofNat (if negative then signPattern + pattern else pattern))

/-- The double that is nearest to a signed number of units. -/
def ofUnits (negative : Bool) (units : Nat) : Float := ofPattern negative (unitsPattern units 1)

def positiveInfinity : Float := ofPattern false infinityPattern

def notANumber : Float := ofPattern false 0x7ff8000000000000

/-- The sign bit is set, also on a zero. -/
def isNegative (number : Float) : Bool := signPattern ≤ number.toBits.toNat

/-- The bits below the sign. -/
def pattern (number : Float) : Nat := number.toBits.toNat % signPattern

def isFinite (number : Float) : Bool := pattern number < infinityPattern

def isInfinite (number : Float) : Bool := pattern number == infinityPattern

def isNaN (number : Float) : Bool := infinityPattern < pattern number

/-- The units of a finite magnitude; below the least normal number the significand has no
hidden bit. -/
def patternUnits (pattern : Nat) : Nat :=
  if pattern < 2 ^ 52 then pattern
  else (2 ^ 52 + pattern % 2 ^ 52) * 2 ^ (pattern / 2 ^ 52 - 1)

/-- The magnitude of a finite double in units of `2 ^ (-1074)`. -/
def units (number : Float) : Nat := patternUnits (pattern number)

/-- A whole number is rounded to the nearest double; beyond the range of doubles either sign gives
the positive infinity. -/
def ofInteger (value : Int) : Float :=
  let magnitude := nearestPattern value.natAbs 1
  if magnitude = infinityPattern then positiveInfinity else ofPattern (value < 0) magnitude

/-- The whole part of a finite double. -/
def truncate (number : Float) : Int :=
  let magnitude := units number / unitsPerOne
  if isNegative number then -Int.ofNat magnitude else Int.ofNat magnitude

/-- The exact remainder has the sign of the dividend. There is none for an infinite dividend or
a zero divisor. -/
def remainder? (dividend divisor : Float) : Option Float :=
  if isNaN dividend || isNaN divisor then some notANumber
  else if isInfinite dividend || units divisor = 0 then none
  else if isInfinite divisor then some dividend
  else some (ofUnits (isNegative dividend) (units dividend % units divisor))

end MiniPascal.Binary64
