/-
This file holds structured values and writes them as indented text.
-/

import MiniPascal.Binary64.Shortest
import MiniPascal.Text.Quoted

namespace MiniPascal

/-- The members of an object stand in the order in which they are written. -/
inductive Json where
  | null
  | integer (number : Int)
  | real (number : Float)
  | text (characters : String)
  | truth (flag : Bool)
  | array (elements : List Json)
  | object (members : List (String × Json))

namespace Json

/-- A code unit of sixteen bits is written with four digits. -/
def unitEscape (unit : Nat) : List Char := '\\' :: 'u' :: Text.hexadecimal 4 unit

/-- A code point beyond sixteen bits is written as a pair of units. -/
def codeEscape (code : Nat) : List Char :=
  if code < 0x10000 then unitEscape code
  else
    unitEscape (0xd800 + (code - 0x10000) / 0x400) ++
      unitEscape (0xdc00 + (code - 0x10000) % 0x400)

/-- Only printable ASCII characters other than a quote and a backslash stand for themselves. -/
def escape (character : Char) : List Char :=
  match character with
  | '"' => ['\\', '"']
  | '\\' => ['\\', '\\']
  | '\n' => ['\\', 'n']
  | '\r' => ['\\', 'r']
  | '\t' => ['\\', 't']
  | '\x08' => ['\\', 'b']
  | '\x0c' => ['\\', 'f']
  | other =>
      if 32 ≤ other.toNat && other.toNat < 127 then [other] else codeEscape other.toNat

def textLiteral (characters : String) : List Char :=
  '"' :: characters.toList.flatMap escape ++ ['"']

/-- A line end and the indentation of the next line. -/
def newLine (indent : Nat) : List Char := '\n' :: List.replicate indent ' '

/-- Items between brackets stand on lines of their own; brackets without items stand together. -/
def block (opening closing : Char) (indent : Nat) (items : List (List Char)) : List Char :=
  if items.isEmpty then [opening, closing]
  else
    opening :: newLine (indent + 2) ++ (',' :: newLine (indent + 2)).intercalate items ++
      newLine indent ++ [closing]

mutual

/-- The text of a value whose first line is indented by `indent` columns. -/
def render (indent : Nat) : Json → List Char
  | null => "null".toList
  | integer number => (toString number).toList
  | real number => (Binary64.shortestText ⟨"Infinity", "NaN"⟩ number).toList
  | text characters => textLiteral characters
  | truth flag => (if flag then "true" else "false").toList
  | array elements => block '[' ']' indent (renderElements (indent + 2) elements)
  | object members => block '\x7b' '\x7d' indent (renderMembers (indent + 2) members)

def renderElements (indent : Nat) : List Json → List (List Char)
  | [] => []
  | element :: elements => render indent element :: renderElements indent elements

def renderMembers (indent : Nat) : List (String × Json) → List (List Char)
  | [] => []
  | (key, value) :: members =>
      (textLiteral key ++ ':' :: ' ' :: render indent value) :: renderMembers indent members

end

/-- The indented text of a value, without a line end behind it. -/
def dump (json : Json) : String := String.ofList (json.render 0)

end Json

end MiniPascal
