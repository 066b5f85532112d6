/-
This file runs a program text that is expected to be free of errors.
-/

import MiniPascal.Execution
import MiniPascal.Lowering
import MiniPascal.Parse.Program

namespace MiniPascal

/-- Why a text is not run to its end. -/
inductive RunFailure where
  | unwinding (unwinding : Unwinding)
  | errors (count : Nat)
  | stop (stop : Stop)
deriving DecidableEq, Repr

/-- Errors of a text are counted. -/
def errorsMessage (count : Nat) : String := toString count ++ " syntax error(s) in program"

/-- What the run of a text leaves. -/
structure TextRun where
  result : Except RunFailure Unit
  table : SymbolTable
  output : String

/-- A text without errors is run over a fresh table. -/
def runText (bound : Nat) (text : String) : TextRun :=
  let parsed := parseProgram text .empty
  match parsed.result with
  | .error unwinding => ⟨.error (.unwinding unwinding), parsed.state.table, parsed.report⟩
  | .ok program =>
      if 0 < parsed.errors then
        ⟨.error (.errors parsed.errors), parsed.state.table, parsed.report⟩
      else
        let outcome := execute bound program.toTree parsed.state.table
        ⟨(outcome.result.mapError .stop).map fun _ => (), outcome.machine.table,
          parsed.report ++ outcome.machine.output⟩

end MiniPascal
