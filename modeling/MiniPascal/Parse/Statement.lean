/-
This file parses statements. A statement may hold others, so every compound form takes the
parser of its parts.
-/

import MiniPascal.Parse.Expression

namespace MiniPascal.Parse

/-- A statement with a keyword or a target starts with one of these. -/
def startsStatement (kind : Kind) : Bool :=
  kind.isKeyword .beginWord || kind.isIdentifier || kind.isKeyword .repeatWord ||
    kind.isKeyword .whileWord || kind.isKeyword .ifWord || kind.isKeyword .writeWord ||
    kind.isKeyword .writelnWord

/-- A list of statements ends before its own terminal and before one that closes another
construct. -/
def endsList (terminal : Kind → Bool) (kind : Kind) : Bool :=
  terminal kind || kind.isEndOfText || kind.isKeyword .endWord || kind.isKeyword .untilWord

/-- After a statement come semicolons; the start of another statement lacks one, and that
statement is passed. -/
def separator : Parse Unit := do
  let kind := (← current).kind
  if kind.isSymbol .semicolon then skipAll (·.isSymbol .semicolon)
  else if startsStatement kind then recover .missingSemicolon

/-- At most `count` statements up to a terminal. -/
def statementsWithin (statement : Parse (Option Statement)) (terminal : Kind → Bool) :
    Nat → Parse (List Statement)
  | 0 => pure []
  | count + 1 => do
      if endsList terminal (← current).kind then return []
      let first ← statement
      separator
      let others ← statementsWithin statement terminal count
      return first.toList ++ others

/-- A compound statement may lack its first word where the caller has checked for it. -/
def compoundOf (statement : Parse (Option Statement)) (count : Nat) :
    Parse (Nat × List Statement) := do
  let line := (← current).line
  let _ ← accept (·.isKeyword .beginWord)
  let body ← statementsWithin statement (·.isKeyword .endWord) count
  expect (·.isKeyword .endWord) .expectingEnd
  return (line, body)

/-- The target of an assignment is declared before its value is read. -/
def assignmentOf (expression : Parse Expression) : Parse Statement := do
  let target ← declare
  advance
  require (·.isSymbol .colonEquals) .missingAssignment
  let value ← expression
  return .assign target.mark.line target value

/-- A statement may need a token without passing it. -/
def check (wanted : Kind → Bool) (mistake : Mistake) : Parse Unit := do
  unless wanted (← current).kind do fail mistake

def repeatOf (statement : Parse (Option Statement)) (expression : Parse Expression)
    (count : Nat) : Parse Statement := do
  let opening ← mark
  let body ← statementsWithin statement (·.isKeyword .untilWord) count
  check (·.isKeyword .untilWord) .expectingUntil
  let test ← mark
  let condition ← expression
  return .repeatUntil opening.line body test condition

def whileOf (statement : Parse (Option Statement)) (expression : Parse Expression)
    (count : Nat) : Parse Statement := do
  let opening ← mark
  let line := (← current).line
  let condition ← expression
  require (·.isKeyword .doWord) .expectingDo
  check (·.isKeyword .beginWord) .expectingBegin
  let (bodyLine, body) ← compoundOf statement count
  return .whileDo opening.line ⟨opening.text, line⟩ condition bodyLine body

/-- A branch without a statement is empty on the line at which it is missed. -/
def branchOf (statement : Parse (Option Statement)) : Parse Statement := do
  let line := (← current).line
  return (← statement).getD (.empty line)

def ifOf (statement : Parse (Option Statement)) (expression : Parse Expression) :
    Parse Statement := do
  let opening ← mark
  let line := (← current).line
  let condition ← expression
  require (·.isKeyword .thenWord) .expectingThen
  let branch ← branchOf statement
  if (← accept (·.isKeyword .elseWord)) then
    let otherwise ← branchOf statement
    return .ifElse opening.line ⟨opening.text, line⟩ condition branch otherwise
  else return .ifThen opening.line ⟨opening.text, line⟩ condition branch

/-- The item to write is a variable or a string. -/
def item : Parse Item := do
  match (← current).kind with
  | .identifier => return .reference (← variableRead)
  | .string content => return .string (← mark) content
  | .character content => return .string (← mark) (String.singleton content)
  | _ => fail .invalidWrite

/-- A width or a count of places is an integer literal. -/
def width (mistake : Mistake) : Parse Width := do
  match (← current).kind with
  | .integer number => return ⟨← mark, number⟩
  | _ => fail mistake

/-- A colon comes before a width, another one before a count of places. -/
def format : Parse Format := do
  if (← accept (·.isSymbol .colon)) then
    let field ← width .invalidWidth
    if (← accept (·.isSymbol .colon)) then
      let places ← width .invalidPlaces
      return .fixed field places
    else return .field field
  else return .plain

/-- The argument of a writing statement stands between parentheses. -/
def argument : Parse Argument := do
  advance
  let item ← item
  let format ← format
  require (·.isSymbol .rightParenthesis) .missingRightParenthesis
  return ⟨item, format⟩

def write : Parse Statement := do
  let opening ← mark
  check (·.isSymbol .leftParenthesis) .missingLeftParenthesis
  return .write opening.line (← argument)

def writeln : Parse Statement := do
  let opening ← mark
  if (← current).kind.isSymbol .leftParenthesis then
    return .writeln opening.line (some (← argument))
  else return .writeln opening.line none

/-- The statement at the parser, in which a mistake may arise. Before a semicolon it is empty. -/
def statementOf (statement : Parse (Option Statement)) (count : Nat) :
    Parse (Option Statement) := do
  let expression := expressionWithin count
  match (← current).kind with
  | .identifier => return some (← assignmentOf expression)
  | .keyword .beginWord => do
      let (line, body) ← compoundOf statement count
      return some (.compound line body)
  | .keyword .repeatWord => return some (← repeatOf statement expression count)
  | .keyword .whileWord => return some (← whileOf statement expression count)
  | .keyword .ifWord => return some (← ifOf statement expression)
  | .keyword .writeWord => return some (← write)
  | .keyword .writelnWord => return some (← writeln)
  | .symbol .semicolon => return none
  | _ => fail .unexpectedToken

/-- A mistake leaves no statement; it is reported and the parser stands behind it. -/
def dropMistake (parse : Parse (Option Statement)) : Parse (Option Statement) :=
  tryCatch parse fun unwinding =>
    match unwinding with
    | .mistake _ => pure none
    | .fault fault => throw (.fault fault)

/-- A statement within the next `count` tokens. Without a token there is only the end of the
text, at which no statement stands. -/
def statementWithin : Nat → Parse (Option Statement)
  | 0 => dropMistake (fail .unexpectedToken)
  | count + 1 => dropMistake (statementOf (statementWithin count) count)

end MiniPascal.Parse
