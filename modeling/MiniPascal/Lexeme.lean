/-
This file measures the pieces of a program text from their first character.
-/

import MiniPascal.Binary64.Decimal
import MiniPascal.Fault
import MiniPascal.Text.Letter
import MiniPascal.Text.LowerCase
import MiniPascal.Token

namespace MiniPascal.Lexeme

open MiniPascal.Text

/-- The blanks at the start. -/
def blankLength (text : List Char) : Nat := (text.takeWhile isBlank).length

/-- A comment starts with a brace, or with a parenthesis and a star. -/
def startsComment : List Char → Bool
  | '\x7b' :: _ => true
  | '(' :: '*' :: _ => true
  | _ => false

/-- The text up to the first star that is followed by a parenthesis, and these two; or all of it
when there is none. -/
def starCommentLength : List Char → Nat
  | [] => 0
  | '*' :: ')' :: _ => 2
  | _ :: rest => starCommentLength rest + 1

/-- A comment from a brace ends with the first closing brace, and an open one counts one
character beyond the end. Any other comment has two characters before its body. -/
def commentLength (text : List Char) : Nat :=
  match text with
  | '\x7b' :: _ => (text.takeWhile (· ≠ '\x7d')).length + 1
  | _ => 2 + starCommentLength (text.drop 2)

/-- The parts of a number; an absent fraction or exponent is empty. -/
structure Numeral where
  whole : List Char
  fraction : List Char
  mark : List Char
  exponent : List Char
deriving DecidableEq, Repr

/-- A point belongs to a number when a digit follows it. -/
def fractionDigits : List Char → List Char
  | '.' :: rest => rest.takeWhile isDigit
  | _ => []

/-- The letter of an exponent and its sign. -/
def exponentMark : List Char → List Char
  | letter :: rest =>
      if letter = 'e' || letter = 'E' then
        match rest with
        | '+' :: _ => [letter, '+']
        | '-' :: _ => [letter, '-']
        | _ => [letter]
      else []
  | [] => []

/-- The longest number at the start. The exponent belongs to it when it has a digit. -/
def Numeral.scan (text : List Char) : Numeral :=
  let whole := text.takeWhile isDigit
  let afterWhole := text.dropWhile isDigit
  let fraction := fractionDigits afterWhole
  let afterFraction := if fraction.isEmpty then afterWhole else afterWhole.drop (fraction.length + 1)
  let mark := exponentMark afterFraction
  let exponent :=
    if mark.isEmpty then [] else (afterFraction.drop mark.length).takeWhile isDigit
  if exponent.isEmpty then ⟨whole, fraction, [], []⟩ else ⟨whole, fraction, mark, exponent⟩

/-- The spelling of a number. -/
def Numeral.spelling (numeral : Numeral) : List Char :=
  numeral.whole ++ (if numeral.fraction.isEmpty then [] else '.' :: numeral.fraction) ++
    numeral.mark ++ numeral.exponent

def Numeral.length (numeral : Numeral) : Nat := numeral.spelling.length

/-- A number with a fraction or an exponent is real. -/
def Numeral.isReal (numeral : Numeral) : Bool :=
  !numeral.fraction.isEmpty || !numeral.exponent.isEmpty

/-- The exponent with its sign. -/
def Numeral.power (numeral : Numeral) : Int :=
  let magnitude := Int.ofNat (digitsValue numeral.exponent)
  if numeral.mark.contains '-' then -magnitude else magnitude

/-- The literal that a number stands for. An integer has a digit and no more digits than the
limit; a real has a digit before its exponent. -/
def Numeral.kind (numeral : Numeral) : Except Fault Kind :=
  if numeral.isReal then
    if numeral.whole.isEmpty && numeral.fraction.isEmpty then
      .error (.unreadableNumber (String.ofList numeral.spelling))
    else .ok (.real (Binary64.ofDecimal false numeral.whole numeral.fraction numeral.power))
  else if numeral.whole.isEmpty then .error .integerWithoutDigits
  else if integerDigitLimit < numeral.whole.length then
    .error (.integerTooLong numeral.whole.length)
  else .ok (.integer (digitsValue numeral.whole))

/-- Letters, numerals and underscores continue a name. -/
def continuesName (character : Char) : Bool := isAlphanumeric character || character == '_'

def nameLength (text : List Char) : Nat := (text.takeWhile continuesName).length

/-- A name is a reserved word when its lower case is one. -/
def nameKind (spelling : String) : Kind :=
  match Keyword.ofSpelling? (lower spelling) with
  | some word => .keyword word
  | none => .identifier

/-- The body of a string literal: its length with the closing quote, the content that it
writes, and whether it is closed. -/
structure StringBody where
  length : Nat
  content : List Char
  closed : Bool
deriving DecidableEq, Repr

/-- Two quotes write one; a lone quote closes the literal; a line end or the end of the text
leaves it open. -/
def StringBody.scan : List Char → StringBody
  | [] => ⟨0, [], false⟩
  | '\'' :: '\'' :: rest =>
      let body := StringBody.scan rest
      ⟨body.length + 2, '\'' :: body.content, body.closed⟩
  | '\'' :: _ => ⟨1, [], true⟩
  | '\n' :: _ => ⟨0, [], false⟩
  | character :: rest =>
      let body := StringBody.scan rest
      ⟨body.length + 1, character :: body.content, body.closed⟩

/-- A closed literal with one character of content is a character. -/
def StringBody.kind (body : StringBody) : Kind :=
  if body.closed then
    match body.content with
    | [character] => .character character
    | content => .string (String.ofList content)
  else .error

/-- The operator or punctuation mark at the start; two characters win over one. -/
def symbol? : List Char → Option Symbol
  | ':' :: '=' :: _ => some .colonEquals
  | '<' :: '>' :: _ => some .notEquals
  | '<' :: '=' :: _ => some .lessEquals
  | '>' :: '=' :: _ => some .greaterEquals
  | '+' :: _ => some .plus
  | '-' :: _ => some .minus
  | '*' :: _ => some .star
  | '/' :: _ => some .slash
  | '(' :: _ => some .leftParenthesis
  | ')' :: _ => some .rightParenthesis
  | '.' :: _ => some .period
  | ',' :: _ => some .comma
  | ';' :: _ => some .semicolon
  | ':' :: _ => some .colon
  | '=' :: _ => some .equals
  | '<' :: _ => some .lessThan
  | '>' :: _ => some .greaterThan
  | _ => none

end MiniPascal.Lexeme
