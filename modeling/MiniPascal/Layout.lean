/-
This file lays numbers and strings out for printing.
-/

import MiniPascal.Binary64.Fixed
import MiniPascal.Fault
import MiniPascal.Text.Pad
import MiniPascal.Value

namespace MiniPascal.Layout

/-- A field is at most this wide. -/
def widthLimit : Nat := 2 ^ 63 - 1

/-- More decimal places than this cannot be asked for. -/
def placesLimit : Nat := 2000054

/-- More decimal places than this are not written. -/
def placesShown : Nat := 1000026

/-- A positive width sets a text to the right of its field. -/
def rightJustified (width : Int) (text : String) : Except Fault String :=
  if width ≤ 0 then .ok text
  else if widthLimit < width.toNat then .error .widthTooLarge
  else .ok (Text.padLeft width.toNat text)

/-- A number that can be printed: a name, or an exact quotient with a sign of its own. -/
inductive Magnitude where
  | named (text : String)
  | quotient (negative : Bool) (numerator denominator : Nat)
deriving DecidableEq, Repr

/-- The exact magnitude of a real number. -/
def ofReal (number : Float) : Magnitude :=
  if Binary64.isNaN number then .named "NaN"
  else if Binary64.isInfinite number then
    .named (if Binary64.isNegative number then "-Infinity" else "Infinity")
  else
    .quotient (Binary64.isNegative number) (Binary64.units number) Binary64.unitsPerOne

/-- A truth value counts as one or zero; a string is no number, and neither is a whole number
beyond the range of doubles. -/
def ofValue : Value → Except Fault Magnitude
  | .real number => .ok (ofReal number)
  | .integer number =>
      if Binary64.nearestPattern number.natAbs 1 = Binary64.infinityPattern then
        .error .integerToReal
      else .ok (.quotient (number < 0) number.natAbs 1)
  | .truth flag => .ok (.quotient false (if flag then 1 else 0) 1)
  | .text _ => .error .textToLayOut
  | .nothing => .error .nothingToLayOut

/-- A number with a fixed count of decimal places; a negative count is none. -/
def Magnitude.text (magnitude : Magnitude) (places : Int) : Except Fault String :=
  match magnitude with
  | .named text => .ok text
  | .quotient negative numerator denominator =>
      if placesLimit < places.toNat then .error .tooManyDecimals
      else
        .ok (Binary64.fixedText negative numerator denominator (min places.toNat placesShown))

/-- The fixed-point text of a number in a field. -/
def number (value : Value) (width places : Int) : Except Fault String := do
  let magnitude ← ofValue value
  let text ← magnitude.text places
  rightJustified width text

/-- The fixed-point text of a real number in a field. -/
def real (value : Float) (width places : Int) : Except Fault String :=
  number (.real value) width places

/-- A negative width sets a string to the left of its field. -/
def string (content : String) (width : Int) : Except Fault String :=
  if 0 ≤ width then rightJustified width content
  else if widthLimit < width.natAbs then .error .widthTooLarge
  else .ok (Text.padRight width.natAbs content)

end MiniPascal.Layout
