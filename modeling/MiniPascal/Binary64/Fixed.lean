/-
This file writes exact quotients with a fixed count of decimal places.
-/

import MiniPascal.Binary64.Basic

namespace MiniPascal.Binary64

/-- The last `count` decimal digits of a number. -/
def lastDigits : Nat → Nat → List Char
  | 0, _ => []
  | count + 1, value => lastDigits count (value / 10) ++ [Nat.digitChar (value % 10)]

/-- The numeral of `scaled / 10 ^ decimals` with exactly that many places. -/
def placesText (scaled decimals : Nat) : List Char :=
  Nat.toDigits 10 (scaled / 10 ^ decimals) ++
    if decimals = 0 then [] else '.' :: lastDigits decimals scaled

/-- A signed quotient with a fixed count of places; halves are rounded away from zero. -/
def fixedText (negative : Bool) (numerator denominator decimals : Nat) : String :=
  let digits := placesText (roundHalfUp (numerator * 10 ^ decimals) denominator) decimals
  String.ofList (if negative then '-' :: digits else digits)

end MiniPascal.Binary64
