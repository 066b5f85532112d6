/-
This file parses programs.
-/

import MiniPascal.Parse.Statement

namespace MiniPascal

namespace Parse

/-- The name of a program is entered into the table. -/
def programName : Parse (Option String) := do
  if (← current).kind.isIdentifier then
    let name ← declare
    advance
    return some name.mark.text
  else
    recover .expectingProgramName
    return none

/-- A program goes on past its mistakes and stops before the token behind its last word. -/
def program : Parse Program := do
  advance
  let line := (← current).line
  expect (·.isKeyword .programWord) .expectingProgram
  let name ← programName
  expect (·.isSymbol .semicolon) .missingSemicolon
  unless (← current).kind.isKeyword .beginWord do recover .expectingBegin
  let count ← size
  let (bodyLine, body) ← compoundOf (statementWithin count) count
  unless (← current).kind.isSymbol .period do recover .expectingPeriod
  return ⟨line, name, bodyLine, body⟩

end Parse

/-- A parser starts before the first token of a text, without diagnostics. -/
def Parse.onText {α : Type} (parse : Parse α) (text : String) (table : SymbolTable) : Parsed α :=
  parse.on ⟨.ofText text, [], table⟩

/-- The program that a text writes over the names of a table. -/
def parseProgram (text : String) (table : SymbolTable) : Parsed Program :=
  Parse.program.onText text table

end MiniPascal
