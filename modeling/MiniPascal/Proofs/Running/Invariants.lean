/-
This file shows that what every store of a real number keeps true of a table is kept by the run of
every tree, wherever the run stops.
-/

import MiniPascal.Execution

namespace MiniPascal

/-- Storing a real number in any cell keeps something true of a table. -/
def SymbolTable.KeptByStores (holds : SymbolTable → Prop) : Prop :=
  ∀ table key number, holds table → holds (table.store key (.real number))

/-- A run keeps something true of the table, whatever it finds. -/
def Run.Keeps {α : Type} (holds : SymbolTable → Prop) (run : Run α) : Prop :=
  ∀ machine, holds machine.table → holds (run.on machine).machine.table

namespace Run.Keeps

variable {α β : Type} {holds : SymbolTable → Prop}

theorem pure (value : α) : Keeps holds (Pure.pure value) := fun _ start => start

theorem throw (stop : Stop) : Keeps holds (throw stop : Run α) := fun _ start => start

theorem raise (fault : Fault) : Keeps holds (Run.raise fault : Run α) := .throw _

theorem emit (text : String) : Keeps holds (Run.emit text) := fun _ start => start

theorem violate (label : Label) (violation : Violation) :
    Keeps holds (Run.violate label violation : Run α) := fun _ start => start

theorem bind {run : Run α} {next : α → Run β} (first : Keeps holds run)
    (second : ∀ value, Keeps holds (next value)) : Keeps holds (run >>= next) := by
  intro machine start
  have middle := first machine start
  rw [on_bind]
  cases (run.on machine).result with
  | ok value => exact second value _ middle
  | error stop => exact middle

theorem ofExcept (result : Except Fault α) : Keeps holds (Run.ofExcept result) := by
  cases result with
  | ok value => exact .pure value
  | error fault => exact .raise fault

theorem asNumber (context : Label) (value : Value) : Keeps holds (Run.asNumber context value) := by
  cases value with
  | real number => exact .pure number
  | _ => exact .violate context .incompatibleTypes

theorem asTruth (context : Label) (value : Value) : Keeps holds (Run.asTruth context value) := by
  cases value with
  | truth flag => exact .pure flag
  | _ => exact .violate context .incompatibleTypes

theorem load (binding : Option Binding) : Keeps holds (Run.load binding) := by
  cases binding with
  | none => exact .raise .unbound
  | some binding =>
      cases binding with
      | detached => exact .pure _
      | cell key name =>
          intro machine start
          rw [on_load_cell]
          exact start

theorem store (kept : SymbolTable.KeptByStores holds) (binding : Option Binding)
    (number : Float) : Keeps holds (Run.store binding (.real number)) := by
  cases binding with
  | none => exact .raise .unbound
  | some binding =>
      cases binding with
      | detached => exact .pure ()
      | cell key name => exact fun machine start => kept machine.table key number start

theorem apply (operator : BinaryOperator) (label : Label) (left right : Float) :
    Keeps holds (operator.apply label left right) := by
  cases operator with
  | divide =>
      rw [BinaryOperator.apply]
      split
      · exact .violate label .divisionByZero
      · exact .pure _
  | modulus =>
      rw [BinaryOperator.apply]
      split
      · exact .violate label .divisionByZero
      · cases Binary64.remainder? left right with
        | some remainder => exact .pure _
        | none => exact .raise .remainderDomain
  | conjunction | disjunction => exact .violate label .incompatibleTypes
  | _ => exact .pure _

end Run.Keeps

open Run

/-- A part keeps something true of the table when it is run and when it is tested. -/
structure Part.Keeps (holds : SymbolTable → Prop) (part : Part) : Prop where
  run : Run.Keeps holds part.run
  test : Run.Keeps holds part.test

section

variable {holds : SymbolTable → Prop} {parts : List Part} {α : Type}

theorem Part.Keeps.number {part : Part} (keeps : part.Keeps holds) (context : Label) :
    Run.Keeps holds (part.number context) := .bind keeps.run (.asNumber context)

theorem Part.Keeps.truth {part : Part} (keeps : part.Keeps holds) (context : Label) :
    Run.Keeps holds (part.truth context) := .bind keeps.run (.asTruth context)

/-- What is done with a part that is selected keeps what it does with each of them. -/
theorem Run.Keeps.select {next : Part → Run α}
    (each : ∀ part ∈ parts, Run.Keeps holds (next part)) (index : Nat) :
    Run.Keeps holds (Part.select parts index >>= next) := by
  rw [Part.select]
  cases found : parts[index]? with
  | none => exact fun _ start => start
  | some part => exact each part (List.mem_of_getElem? found)

/-- Parts that are run in order keep what each of them keeps. -/
theorem Part.runAll_keeps (each : ∀ part ∈ parts, part.Keeps holds) :
    Run.Keeps holds (Part.runAll parts) := by
  induction parts with
  | nil => exact .pure ()
  | cons part parts inductionHypothesis =>
      obtain ⟨first, others⟩ := List.forall_mem_cons.mp each
      exact .bind first.run fun _ => inductionHypothesis others

theorem Part.pass_keeps (each : ∀ part ∈ parts, part.Keeps holds) :
    Run.Keeps holds (Part.pass parts) := by
  induction parts with
  | nil => exact .pure false
  | cons part parts inductionHypothesis =>
      obtain ⟨first, others⟩ := List.forall_mem_cons.mp each
      rw [Part.pass]
      split
      · refine .bind first.test fun flag => ?_
        split
        · exact .pure true
        · exact inductionHypothesis others
      · exact .bind first.run fun _ => inductionHypothesis others

/-- A loop keeps what its pass keeps, also when it makes more passes than it is allowed. -/
theorem repeatPass_keeps {pass : Run Bool} (keeps : Run.Keeps holds pass) (bound : Nat) :
    Run.Keeps holds (repeatPass pass bound) := by
  induction bound with
  | zero => exact .throw .exhausted
  | succ bound inductionHypothesis =>
      refine .bind keeps fun flag => ?_
      split
      · exact .pure ()
      · exact inductionHypothesis

namespace Label

variable {label : Label}

theorem testAction_keeps (each : ∀ part ∈ parts, part.Keeps holds) :
    Run.Keeps holds (label.testAction parts) :=
  .select (fun part inside => (each part inside).truth label) 0

theorem number_keeps (each : ∀ part ∈ parts, part.Keeps holds) (index : Nat)
    {next : Float → Run α} (goesOn : ∀ number, Run.Keeps holds (next number)) :
    Run.Keeps holds (do next (← (← Part.select parts index).number label)) :=
  .select (fun part inside => .bind ((each part inside).number label) goesOn) index

theorem truth_keeps (each : ∀ part ∈ parts, part.Keeps holds) (index : Nat)
    {next : Bool → Run α} (goesOn : ∀ flag, Run.Keeps holds (next flag)) :
    Run.Keeps holds (do next (← (← Part.select parts index).truth label)) :=
  .select (fun part inside => .bind ((each part inside).truth label) goesOn) index

theorem expressionAction_keeps (each : ∀ part ∈ parts, part.Keeps holds) :
    Run.Keeps holds (label.expressionAction parts) := by
  rw [expressionAction]
  split
  · exact .load label.binding
  · exact .bind (.ofExcept _) fun _ => .pure _
  · exact .pure _
  · exact .pure _
  · rename_i operator _
    cases operator with
    | negation => exact truth_keeps each 0 fun _ => .pure _
    | minus | plus => exact number_keeps each 0 fun _ => .pure _
  · rename_i operator _
    cases operator with
    | conjunction | disjunction =>
        exact truth_keeps each 0 fun _ => truth_keeps each 1 fun _ => .pure _
    | _ => exact number_keeps each 0 fun _ => number_keeps each 1 fun _ => .apply _ label _ _
  · exact .raise _

theorem layoutNumber_keeps (each : ∀ part ∈ parts, part.Keeps holds) (index : Nat) :
    Run.Keeps holds (layoutNumber parts index) := by
  rw [layoutNumber]
  cases found : parts[index]? with
  | none => exact .pure 0
  | some part =>
      have keeps := each part (List.mem_of_getElem? found)
      exact .bind (keeps.number part.label) fun _ => .ofExcept _

theorem writeAction_keeps (each : ∀ part ∈ parts, part.Keeps holds) :
    Run.Keeps holds (writeAction parts) := by
  refine .bind (layoutNumber_keeps each 1) fun width => ?_
  refine .bind (layoutNumber_keeps each 2) fun places => ?_
  refine .select (fun part inside => .bind (each part inside).run fun value => ?_) 0
  cases value <;> exact .bind (.ofExcept _) fun text => .emit text

theorem statementAction_keeps (kept : SymbolTable.KeptByStores holds)
    (each : ∀ part ∈ parts, part.Keeps holds) (bound : Nat) :
    Run.Keeps holds (label.statementAction bound parts) := by
  have yields {run : Run Unit} (keeps : Run.Keeps holds run) :
      Run.Keeps holds (do run; return .nothing : Run Value) := .bind keeps fun _ => .pure _
  unfold statementAction
  split
  · exact yields (Part.runAll_keeps each)
  · split
    · obtain ⟨_, value⟩ := List.forall_mem_cons.mp each
      refine .bind ((value _ List.mem_cons_self).number _) fun number => ?_
      exact yields (.store kept _ number)
    · exact yields (.raise _)
  · exact yields (repeatPass_keeps (Part.pass_keeps each) bound)
  · refine .select (fun part inside => .bind (each part inside).test fun flag => ?_) 0
    split
    · exact .select (fun part inside => .bind (each part inside).run fun _ => .pure _) 1
    · split
      · exact .select (fun part inside => .bind (each part inside).run fun _ => .pure _) 2
      · exact .pure _
  · exact yields (writeAction_keeps each)
  · split
    · exact .bind (.emit _) fun _ => .pure _
    · exact .bind (writeAction_keeps each) fun _ => .bind (.emit _) fun _ => .pure _
  · exact yields (.raise _)

theorem action_keeps (kept : SymbolTable.KeptByStores holds)
    (each : ∀ part ∈ parts, part.Keeps holds) (bound : Nat) :
    Run.Keeps holds (label.action bound parts) := by
  rw [action]
  split
  · exact .select (fun part inside => (each part inside).run) 0
  · exact .bind (testAction_keeps each) fun _ => .pure _
  · split
    · exact statementAction_keeps kept each bound
    · exact expressionAction_keeps each

end Label

end

/-- Every tree keeps what every store of a real number keeps. -/
theorem Tree.toPart_keeps {holds : SymbolTable → Prop} (kept : SymbolTable.KeptByStores holds)
    (bound : Nat) (tree : Tree) : (tree.toPart bound).Keeps holds := by
  induction tree using Tree.inductionOn with
  | node label children inductionHypothesis =>
      have each : ∀ part ∈ Tree.toParts bound children, part.Keeps holds := by
        intro part inside
        rw [toParts_eq_map] at inside
        obtain ⟨child, member, rfl⟩ := List.mem_map.mp inside
        exact inductionHypothesis child member
      exact ⟨Label.action_keeps kept each bound, Label.testAction_keeps each⟩

theorem execute_keeps {holds : SymbolTable → Prop} (kept : SymbolTable.KeptByStores holds)
    (bound : Nat) (tree : Tree) {table : SymbolTable} (start : holds table) :
    holds (execute bound tree table).machine.table :=
  (tree.toPart_keeps kept bound).run ⟨table, ""⟩ start

end MiniPascal
