/-
This file shows that a run changes the targets of assignments only.
-/

import MiniPascal.Proofs.Parsing.Binding
import MiniPascal.Proofs.Running.Desugaring
import MiniPascal.Proofs.Running.Invariants

namespace MiniPascal

open Run

mutual

/-- The variables that a statement assigns to. -/
def Statement.targets : Statement → List Variable
  | .empty _ => []
  | .compound _ body => Statement.allTargets body
  | .assign _ target _ => [target]
  | .repeatUntil _ body _ _ => Statement.allTargets body
  | .whileDo _ _ _ _ body => Statement.allTargets body
  | .ifThen _ _ _ branch => branch.targets
  | .ifElse _ _ _ branch otherwise => branch.targets ++ otherwise.targets
  | .write _ _ => []
  | .writeln _ _ => []

def Statement.allTargets : List Statement → List Variable
  | [] => []
  | statement :: statements => statement.targets ++ Statement.allTargets statements

end

theorem Statement.mem_allTargets {target : Variable} {body : List Statement} :
    target ∈ Statement.allTargets body ↔ ∃ part ∈ body, target ∈ part.targets := by
  induction body with
  | nil => simp [allTargets]
  | cons first others inductionHypothesis => simp [allTargets, inductionHypothesis]

theorem append_subset_append {α : Type} {first second others more : List α}
    (left : first ⊆ others) (right : second ⊆ more) : first ++ second ⊆ others ++ more :=
  List.append_subset.mpr ⟨List.subset_append_of_subset_left _ left,
    List.subset_append_of_subset_right _ right⟩

/-- The targets of a body are variables of it when those of each statement are. -/
theorem Statement.allTargets_subset_of_each {body : List Statement}
    (each : ∀ part ∈ body, part.targets ⊆ part.variables) :
    Statement.allTargets body ⊆ Statement.allVariables body := by
  induction body with
  | nil => exact List.Subset.refl _
  | cons first others inductionHypothesis =>
      obtain ⟨firstInside, othersInside⟩ := List.forall_mem_cons.mp each
      exact append_subset_append firstInside (inductionHypothesis othersInside)

/-- A target of an assignment is a variable of the statement. -/
theorem Statement.targets_subset (statement : Statement) :
    statement.targets ⊆ statement.variables := by
  induction statement using Statement.inductionOn with
  | empty | write | writeln => exact nofun
  | compound line body each => exact Statement.allTargets_subset_of_each each
  | assign line target value => exact List.cons_subset_cons _ (List.nil_subset _)
  | repeatUntil line body test condition each =>
      exact List.subset_append_of_subset_left _ (Statement.allTargets_subset_of_each each)
  | whileDo line test condition bodyLine body each =>
      exact List.subset_append_of_subset_right _ (Statement.allTargets_subset_of_each each)
  | ifThen line test condition branch inside => exact List.subset_append_of_subset_right _ inside
  | ifElse line test condition branch otherwise inside otherwiseInside =>
      exact append_subset_append (List.subset_append_of_subset_right _ inside) otherwiseInside

theorem Statement.allTargets_subset {body : List Statement} :
    Statement.allTargets body ⊆ Statement.allVariables body :=
  Statement.allTargets_subset_of_each fun part _ => part.targets_subset

variable {holds : SymbolTable → Prop}

/-- What every write to a variable keeps true of a table. -/
def Variable.Keeps (holds : SymbolTable → Prop) (target : Variable) : Prop :=
  ∀ table number, holds table → holds (table.write number target.binding)

/-- A run that only finds a result keeps the table. -/
theorem Run.Keeps.of_finds {α : Type} {run : Run α} {result : Machine → Except Halt α}
    (finds : ∀ machine, Finds run machine (result machine)) : Run.Keeps holds run := by
  intro machine start
  rw [(finds machine : run.on machine = _)]
  cases result machine with
  | ok value => exact start
  | error halt => cases halt <;> exact start

theorem testPart_keeps (bound : Nat) (test : Mark) (condition : Expression) :
    Run.Keeps holds (testPart bound test condition.toTree).test :=
  .of_finds fun machine => testTree_finds bound machine test condition

/-- A body keeps what each of its statements keeps. -/
theorem Statement.runAll_keeps {bound : Nat} {body : List Statement}
    (each : ∀ part ∈ body, ∀ count, Run.Keeps holds (part.effect bound count)) :
    Run.Keeps holds (Part.runAll (Statement.parts bound body)) := by
  induction body with
  | nil => exact .pure ()
  | cons first others inductionHypothesis =>
      obtain ⟨firstKeeps, othersKeep⟩ := List.forall_mem_cons.mp each
      rw [Statement.runAll_parts_cons]
      exact .bind (firstKeeps bound) fun _ => inductionHypothesis othersKeep

/-- A statement keeps what the writes to its targets keep. -/
theorem Statement.effect_keeps (bound : Nat) (statement : Statement)
    (kept : ∀ target ∈ statement.targets, target.Keeps holds) :
    ∀ count, Run.Keeps holds (statement.effect bound count) := by
  have body {parts : List Statement}
      (each : ∀ part ∈ parts, (∀ target ∈ part.targets, target.Keeps holds) →
        ∀ count, Run.Keeps holds (part.effect bound count))
      (kept : ∀ target ∈ Statement.allTargets parts, target.Keeps holds) :
      Run.Keeps holds (Part.runAll (Statement.parts bound parts)) :=
    Statement.runAll_keeps fun part inside => each part inside fun target member =>
      kept target (Statement.mem_allTargets.mpr ⟨part, inside, member⟩)
  induction statement using Statement.inductionOn with
  | empty line => exact fun _ => .pure ()
  | compound line parts partsKeep => exact fun _ => body partsKeep kept
  | assign line target value =>
      intro count
      refine .bind (.of_finds fun machine => Statement.assign_finds bound machine target value) ?_
      intro number machine start
      rw [(store_reaches machine target.binding number : _ = _)]
      exact kept target (List.mem_singleton_self _) machine.table number start
  | repeatUntil line parts test condition partsKeep =>
      intro count
      refine repeatPass_keeps ?_ count
      rw [Statement.pass_parts_append]
      exact .bind (body partsKeep kept) fun _ => testPart_keeps bound test condition
  | whileDo line test condition bodyLine parts partsKeep =>
      intro count
      refine repeatPass_keeps ?_ count
      rw [whilePass, Statement.pass_test]
      refine .bind (.of_finds fun machine => negatedTest_finds bound machine test condition) ?_
      intro flag
      cases flag with
      | true => exact .pure true
      | false => exact .bind (body partsKeep kept) fun _ => .pure false
  | ifThen line test condition branch branchKeeps =>
      refine fun count => .bind (testPart_keeps bound test condition) fun flag => ?_
      cases flag with
      | true =>
          rw [if_pos rfl, Statement.discard_run]
          exact branchKeeps kept bound
      | false => exact .pure ()
  | ifElse line test condition branch otherwise branchKeeps otherwiseKeeps =>
      refine fun count => .bind (testPart_keeps bound test condition) fun flag => ?_
      cases flag with
      | true =>
          rw [if_pos rfl, Statement.discard_run]
          exact branchKeeps (fun target member => kept target (List.mem_append_left _ member)) bound
      | false =>
          rw [if_neg Bool.false_ne_true, Statement.discard_run]
          exact otherwiseKeeps (fun target member => kept target (List.mem_append_right _ member))
            bound
  | write line argument =>
      exact fun _ => .bind (.of_finds fun machine => argument.finds_text bound machine) fun _ =>
        .emit _
  | writeln line argument =>
      intro count
      cases argument with
      | none => exact .emit _
      | some argument =>
          exact .bind (.of_finds fun machine => argument.finds_text bound machine) fun _ =>
            .bind (.emit _) fun _ => .emit _

/-- The run of a program keeps what the writes to its targets keep, wherever it stops. -/
theorem Program.execute_keeps (bound : Nat) (program : Program) {table : SymbolTable}
    (kept : ∀ target ∈ Statement.allTargets program.body, target.Keeps holds)
    (start : holds table) : holds (execute bound program.toTree table).machine.table := by
  have keeps := Statement.effect_keeps bound (.compound program.bodyLine program.body) kept bound
  rw [execute, program.visit_eq]
  exact (Run.Keeps.bind keeps fun _ => .pure _) ⟨table, ""⟩ start

end MiniPascal
