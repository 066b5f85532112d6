/-
This file writes texts between quotes, with escapes for what cannot be printed.
-/

import MiniPascal.Text.Printable

namespace MiniPascal.Text

/-- The last `count` hexadecimal digits of a number, in lower case. -/
def hexadecimal : Nat → Nat → List Char
  | 0, _ => []
  | count + 1, value => hexadecimal count (value / 16) ++ [Nat.digitChar (value % 16)]

theorem length_hexadecimal (count value : Nat) :
    (hexadecimal count value).length = count := by
  induction count generalizing value with
  | zero => rfl
  | succ count inductionHypothesis => simp [hexadecimal, inductionHypothesis]

/-- An escape names a code point by the least of two, four or eight digits that hold it. -/
def codeEscape (code : Nat) : List Char :=
  if code < 0x100 then '\\' :: 'x' :: hexadecimal 2 code
  else if code < 0x10000 then '\\' :: 'u' :: hexadecimal 4 code
  else '\\' :: 'U' :: hexadecimal 8 code

/-- A character inside quotes of the given kind. -/
def quotedCharacter (quote character : Char) : List Char :=
  if character = quote || character = '\\' then ['\\', character]
  else if character = '\n' then ['\\', 'n']
  else if character = '\r' then ['\\', 'r']
  else if character = '\t' then ['\\', 't']
  else if isPrintable character then [character]
  else codeEscape character.toNat

/-- Double quotes enclose a text that holds a single quote and no double one. -/
def quoteFor (characters : List Char) : Char :=
  if characters.contains '\'' && !characters.contains '"' then '"' else '\''

/-- The text between quotes, on one line. -/
def quoted (text : String) : String :=
  let quote := quoteFor text.toList
  String.ofList (quote :: text.toList.flatMap (quotedCharacter quote) ++ [quote])

end MiniPascal.Text
