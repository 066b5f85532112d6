/-
This file reads decimal numerals as doubles.
-/

import MiniPascal.Binary64.Basic
import MiniPascal.Text.Blank
import MiniPascal.Text.Digit

namespace MiniPascal.Binary64

/-- The pattern of the double that is nearest to `digits * 10 ^ exponent`. Exponents far outside
the range of doubles are decided without the power. -/
def decimalPattern (digits : Nat) (exponent : Int) : Nat :=
  if 0 ≤ exponent then
    if digits = 0 then 0
    else if 400 < exponent then infinityPattern
    else nearestPattern (digits * 10 ^ exponent.toNat) 1
  else if digits.log2 + 1100 < 3 * exponent.natAbs then 0
  else nearestPattern digits (10 ^ exponent.natAbs)

/-- The number that a whole part, a fraction and a power of ten write together. -/
def ofDecimal (negative : Bool) (whole fraction : List Char) (exponent : Int) : Float :=
  ofPattern negative
    (decimalPattern (Text.digitsValue (whole ++ fraction)) (exponent - fraction.length))

/-- A sign before a number may be left out. -/
def takeSign : List Char → Bool × List Char
  | '-' :: rest => (true, rest)
  | '+' :: rest => (false, rest)
  | rest => (false, rest)

/-- An underscore between two digits is dropped; any other one makes the text unreadable. -/
def dropUnderscores (previousIsDigit : Bool) : List Char → Option (List Char)
  | [] => some []
  | '_' :: next :: rest =>
      if previousIsDigit && Text.isDigit next then
        (dropUnderscores true rest).map (next :: ·)
      else none
  | character :: rest =>
      if character = '_' then none
      else (dropUnderscores (Text.isDigit character) rest).map (character :: ·)

/-- The exponent is nothing, or a mark, a sign and digits up to the end. -/
def readExponent? : List Char → Option Int
  | [] => some 0
  | mark :: rest =>
      let (negative, digits) := takeSign rest
      if mark = 'e' && !digits.isEmpty && digits.all Text.isDigit then
        let value := Int.ofNat (Text.digitsValue digits)
        some (if negative then -value else value)
      else none

/-- An unsigned number in lower case: a name for infinity or for no number, or digits around
an optional point with an optional exponent. -/
def readMagnitude? (negative : Bool) (characters : List Char) : Option Float :=
  let text := String.ofList characters
  if text = "inf" || text = "infinity" then some (ofPattern negative infinityPattern)
  else if text = "nan" then some notANumber
  else
    let whole := characters.takeWhile Text.isDigit
    let afterWhole := characters.dropWhile Text.isDigit
    let (fraction, afterFraction) :=
      match afterWhole with
      | '.' :: rest => (rest.takeWhile Text.isDigit, rest.dropWhile Text.isDigit)
      | rest => ([], rest)
    if whole.isEmpty && fraction.isEmpty then none
    else (readExponent? afterFraction).map (ofDecimal negative whole fraction)

/-- A decimal digit of any script counts as the ASCII one. -/
def asciiDigit (character : Char) : Char :=
  match Text.digitValue? character with
  | some value => Nat.digitChar value
  | none => character

/-- A blank may stand around a number unless it is one of the four ASCII separators. -/
def surroundsNumber (character : Char) : Bool :=
  Text.isBlank character && !(0x1c ≤ character.toNat && character.toNat ≤ 0x1f)

/-- The number that a text writes, blanks around it and underscores between its digits apart. -/
def ofText? (text : String) : Option Float := do
  let digits := (Text.dropAround surroundsNumber text.toList).map asciiDigit
  let characters ← dropUnderscores false digits
  let (negative, magnitude) := takeSign characters
  readMagnitude? negative (magnitude.map Char.toLower)

end MiniPascal.Binary64
