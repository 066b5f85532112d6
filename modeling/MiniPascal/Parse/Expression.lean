/-
This file parses expressions. A factor may hold an expression, so every level of the grammar
takes the parser of its factors.
-/

import MiniPascal.Parse.Basic

namespace MiniPascal.Parse

/-- Multiplying operators; a whole-number division divides as any other. -/
def multiplying? : Kind → Option BinaryOperator
  | .symbol .star => some .multiply
  | .symbol .slash => some .divide
  | .keyword .divWord => some .divide
  | .keyword .modWord => some .modulus
  | .keyword .andWord => some .conjunction
  | _ => none

def adding? : Kind → Option BinaryOperator
  | .symbol .plus => some .add
  | .symbol .minus => some .subtract
  | .keyword .orWord => some .disjunction
  | _ => none

def relational? : Kind → Option BinaryOperator
  | .symbol .equals => some .equal
  | .symbol .lessThan => some .less
  | .symbol .lessEquals => some .lessEqual
  | .symbol .greaterEquals => some .greaterEqual
  | .symbol .greaterThan => some .greater
  | .symbol .notEquals => some .notEqual
  | _ => none

def sign? : Kind → Option UnaryOperator
  | .symbol .plus => some .plus
  | .symbol .minus => some .minus
  | _ => none

/-- At most `count` operators and their right operands follow the left one; the chain nests to
the left. -/
def chain (operator? : Kind → Option BinaryOperator) (operand : Parse Expression) :
    Nat → Expression → Parse Expression
  | 0, left => pure left
  | count + 1, left => do
      match operator? (← current).kind with
      | none => pure left
      | some operator => do
          let mark ← mark
          let right ← operand
          chain operator? operand count (.binary operator mark left right)

/-- A term is a chain of factors. -/
def termOf (factor : Parse Expression) (count : Nat) : Parse Expression := do
  chain multiplying? factor count (← factor)

/-- A simple expression is a chain of terms, the first of which may have a sign. -/
def simpleExpressionOf (factor : Parse Expression) (count : Nat) : Parse Expression := do
  let first ←
    match sign? (← current).kind with
    | none => termOf factor count
    | some sign => do
        let mark ← mark
        let operand ← termOf factor count
        pure (.unary sign mark operand)
  chain adding? (termOf factor count) count first

/-- An expression is a simple expression or compares two of them. -/
def expressionOf (factor : Parse Expression) (count : Nat) : Parse Expression := do
  let left ← simpleExpressionOf factor count
  match relational? (← current).kind with
  | none => pure left
  | some operator => do
      let mark ← mark
      let right ← simpleExpressionOf factor count
      pure (.binary operator mark left right)

/-- A factor within the next `count` tokens. Without a token there is only the end of the text,
at which no factor stands. -/
def factorWithin : Nat → Parse Expression
  | 0 => fail .unexpectedToken
  | count + 1 => do
      match (← current).kind with
      | .identifier => return .reference (← variableRead)
      | .integer number => return .integer (← mark) number
      | .real number => return .real (← mark) number
      | .symbol .leftParenthesis => do
          advance
          let expression ← expressionOf (factorWithin count) count
          require (·.isSymbol .rightParenthesis) .expectingClosing
          return expression
      | .keyword .notWord => do
          let mark ← mark
          let operand ← expressionOf (factorWithin count) count
          return .unary .negation mark operand
      | _ => fail .unexpectedToken

def expressionWithin (count : Nat) : Parse Expression := expressionOf (factorWithin count) count

/-- The count of tokens that the parser has before it. -/
def size : Parse Nat := do return (← get).stream.size

def factor : Parse Expression := do factorWithin (← size)

def term : Parse Expression := do
  let count ← size
  termOf (factorWithin count) count

def simpleExpression : Parse Expression := do
  let count ← size
  simpleExpressionOf (factorWithin count) count

def expression : Parse Expression := do expressionWithin (← size)

end MiniPascal.Parse
