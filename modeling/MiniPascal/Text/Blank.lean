/-
This file tells blanks from all other characters.
-/

import MiniPascal.Text.Ranges

namespace MiniPascal.Text

/-- The code points of the Unicode 14 white space, with the four ASCII separators. -/
def blankRanges : List (Nat × Nat) :=
  [(0x9, 0xd), (0x1c, 0x20), (0x85, 0x85), (0xa0, 0xa0), (0x1680, 0x1680), (0x2000, 0x200a),
   (0x2028, 0x2029), (0x202f, 0x202f), (0x205f, 0x205f), (0x3000, 0x3000)]

/-- A blank separates tokens and is dropped from both ends of a command. -/
def isBlank (character : Char) : Bool := inRanges blankRanges character.toNat

/-- The ASCII white space consists of blanks. -/
theorem isBlank_of_isWhitespace {character : Char} (white : character.isWhitespace = true) :
    isBlank character = true := by
  simp only [Char.isWhitespace, Bool.or_eq_true, decide_eq_true_eq] at white
  rcases white with ((rfl | rfl) | rfl) | rfl <;> decide

/-- The characters between the leading and the trailing ones that are dropped. -/
def dropAround (dropped : Char → Bool) (characters : List Char) : List Char :=
  ((characters.dropWhile dropped).reverse.dropWhile dropped).reverse

/-- The text without its leading and its trailing blanks. -/
def trim (text : String) : String := String.ofList (dropAround isBlank text.toList)

end MiniPascal.Text
