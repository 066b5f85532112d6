/-
This file writes doubles with the fewest digits that read back.
-/

import MiniPascal.Binary64.Basic

namespace MiniPascal.Binary64

/-- Scaling by this power of ten lifts the least double above one thousand digits of headroom
for every grid. -/
def gridShift : Nat := 400

/-- The power of ten of the first digit, counted from `10 ^ (-gridShift)`. -/
def leadingPower (units : Nat) : Nat :=
  (Nat.toDigits 10 (units * 10 ^ gridShift / unitsPerOne)).length - 1

/-- A multiple of a power of ten reads back when it lies between the midpoints to the two
neighbours; a midpoint itself reads back as the even pattern. -/
def readsBack (pattern candidate grid : Nat) : Bool :=
  let doubled := 2 * candidate * grid * unitsPerOne
  let lower := (patternUnits (pattern - 1) + patternUnits pattern) * 10 ^ gridShift
  let upper := (patternUnits pattern + patternUnits (pattern + 1)) * 10 ^ gridShift
  if pattern % 2 = 0 then lower ≤ doubled && doubled ≤ upper
  else lower < doubled && doubled < upper

/-- The multiples of a grid on both sides of the number, the nearer first; of two equally near
ones the even first. -/
def neighbours (pattern grid : Nat) : List Nat :=
  let scaled := patternUnits pattern * 10 ^ gridShift
  let floor := scaled / (grid * unitsPerOne)
  let nearest := roundHalfEven scaled (grid * unitsPerOne)
  if nearest = floor then [floor, floor + 1] else [floor + 1, floor]

/-- The decimal digits of a number and the power of ten of the first of them. -/
structure Decimal where
  digits : List Char
  power : Int
deriving Repr, DecidableEq

/-- Zeros at the end of the digits carry no information. -/
def Decimal.normalize (decimal : Decimal) : Decimal :=
  { decimal with digits := (decimal.digits.reverse.dropWhile (· == '0')).reverse }

/-- The first neighbour that reads back on a grid of `count` digits. -/
def onGrid? (pattern leading count : Nat) : Option Decimal :=
  let exponent := leading + 1 - count
  ((neighbours pattern (10 ^ exponent)).find? (readsBack pattern · (10 ^ exponent))).map
    fun candidate =>
      let digits := Nat.toDigits 10 candidate
      Decimal.normalize
        ⟨digits, Int.ofNat (exponent + digits.length - 1) - Int.ofNat gridShift⟩

/-- The shortest decimal of a positive pattern: the coarsest grid with a multiple that reads back
wins. Seventeen digits always read back. -/
def shortest (pattern : Nat) : Decimal :=
  let leading := leadingPower (patternUnits pattern)
  ((List.range 17).findSome? fun count => onGrid? pattern leading (count + 1)).getD ⟨['0'], 0⟩

/-- An exponent has a sign and at least two digits. -/
def exponentText (power : Int) : List Char :=
  let digits := Nat.toDigits 10 power.natAbs
  (if power < 0 then '-' else '+') :: List.replicate (2 - digits.length) '0' ++ digits

/-- Powers of ten from -4 to 15 are written positionally, with at least one digit on both sides
of the point; all others with an exponent. -/
def Decimal.text (decimal : Decimal) : List Char :=
  let digits := decimal.digits
  if decimal.power < -4 || 16 ≤ decimal.power then
    digits.take 1 ++ (if digits.length ≤ 1 then [] else '.' :: digits.drop 1) ++
      'e' :: exponentText decimal.power
  else if decimal.power < 0 then
    '0' :: '.' :: List.replicate (decimal.power.natAbs - 1) '0' ++ digits
  else
    let wholeLength := decimal.power.toNat + 1
    let whole := digits.take wholeLength ++ List.replicate (wholeLength - digits.length) '0'
    let fraction := digits.drop wholeLength
    whole ++ '.' :: (if fraction.isEmpty then ['0'] else fraction)

/-- The names of what is not a finite number. -/
structure SpecialNames where
  infinity : String
  notANumber : String

/-- The shortest text that reads back as the number. -/
def shortestText (names : SpecialNames) (number : Float) : String :=
  if isNaN number then names.notANumber
  else
    let magnitude :=
      if isInfinite number then names.infinity.toList
      else if pattern number = 0 then ['0', '.', '0']
      else (shortest (pattern number)).text
    String.ofList (if isNegative number then '-' :: magnitude else magnitude)

end MiniPascal.Binary64
