/-
This file holds the values that tokens carry, variables store and expressions yield.
-/

import MiniPascal.Binary64.Shortest
import MiniPascal.Text.Quoted

namespace MiniPascal

/-- A statement yields nothing; every number of a run is real. -/
inductive Value where
  | nothing
  | integer (number : Int)
  | real (number : Float)
  | text (characters : String)
  | truth (flag : Bool)
deriving Inhabited

/-- A real number is written with the fewest digits that read back. -/
def realText (number : Float) : String := Binary64.shortestText ⟨"inf", "nan"⟩ number

/-- The plain text of a value. -/
def Value.plain : Value → String
  | .nothing => "None"
  | .integer number => toString number
  | .real number => realText number
  | .text characters => characters
  | .truth flag => if flag then "True" else "False"

/-- The text of a value with strings between quotes. -/
def Value.quoted : Value → String
  | .text characters => Text.quoted characters
  | value => value.plain

end MiniPascal
