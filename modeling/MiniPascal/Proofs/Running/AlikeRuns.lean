/-
This file shows that alike trees run alike over alike tables: they end in the same way with the same
output, apart from what a runtime error says about the node at which it arises.
-/

import MiniPascal.Execution
import MiniPascal.Proofs.Parsing.Likeness
import MiniPascal.Proofs.Running.Outcomes

namespace MiniPascal

/-- Two runs end alike when they have the same result, leave related tables, and write the same behind
what was written before them. Their runtime errors are related, and each is reported last. -/
inductive EndAlike {α : Type} (tables : SymbolTable → SymbolTable → Prop)
    (errors : RuntimeError → RuntimeError → Prop) (before beforeCopy : String) :
    Outcome α → Outcome α → Prop where
  | ok {value : α} {table other : SymbolTable} {output : String} (left : tables table other) :
      EndAlike tables errors before beforeCopy ⟨.ok value, table, before ++ output⟩
        ⟨.ok value, other, beforeCopy ++ output⟩
  | error {error copy : RuntimeError} {table other : SymbolTable} {output : String}
      (same : errors error copy) (left : tables table other) :
      EndAlike tables errors before beforeCopy
        ⟨.error (.error error), table, before ++ output ++ error.render⟩
        ⟨.error (.error copy), other, beforeCopy ++ output ++ copy.render⟩
  | fault {fault : Fault} {table other : SymbolTable} {output : String}
      (left : tables table other) :
      EndAlike tables errors before beforeCopy ⟨.error (.fault fault), table, before ++ output⟩
        ⟨.error (.fault fault), other, beforeCopy ++ output⟩
  | exhausted {table other : SymbolTable} {output : String} (left : tables table other) :
      EndAlike tables errors before beforeCopy ⟨.error .exhausted, table, before ++ output⟩
        ⟨.error .exhausted, other, beforeCopy ++ output⟩

theorem EndAlike.imp {α : Type} {tables others : SymbolTable → SymbolTable → Prop}
    {errors more : RuntimeError → RuntimeError → Prop} {before beforeCopy : String}
    {outcome other : Outcome α} (ends : EndAlike tables errors before beforeCopy outcome other)
    (left : ∀ table other, tables table other → others table other)
    (weaker : ∀ error copy, errors error copy → more error copy) :
    EndAlike others more before beforeCopy outcome other := by
  cases ends with
  | ok same => exact .ok (left _ _ same)
  | error errors same => exact .error (weaker _ _ errors) (left _ _ same)
  | fault same => exact .fault (left _ _ same)
  | exhausted same => exact .exhausted (left _ _ same)

/-- Related members of two lists stand at the same index. -/
theorem getElem?_rel {α β : Type} {related : α → β → Prop} {members : List α} {others : List β}
    (each : List.Forall₂ related members others) (index : Nat) :
    Option.Rel related members[index]? others[index]? := by
  induction each generalizing index with
  | nil => exact .none
  | cons first _ inductionHypothesis =>
      cases index with
      | zero => exact .some first
      | succ index => exact inductionHypothesis index

namespace Likeness

/-- In alike tables alike variables have the same value, and stay so when both take another one. -/
structure KeepsValues (alike : Likeness) : Prop where
  read {table other : SymbolTable} {source copy : Binding} :
    alike.table table other → alike.binding source copy → other.read copy = table.read source
  write {table other : SymbolTable} {target copy : Binding} (number : Float) :
    alike.table table other → alike.binding target copy →
      alike.table (table.write number target) (other.write number copy)

/-- Runtime errors are alike when they arise at alike nodes from the same violation. -/
structure Errors (alike : Likeness) (error other : RuntimeError) : Prop where
  violation : other.violation = error.violation
  line : alike.line error.line other.line
  text : Option.Rel alike.Texts error.text other.text

/-- Two runs go alike from all alike tables, whatever was written before them. -/
def Runs (alike : Likeness) {α : Type} (first second : Run α) : Prop :=
  ∀ before beforeCopy output table other, alike.table table other →
    EndAlike alike.table alike.Errors before beforeCopy (first.on ⟨table, before ++ output⟩)
      (second.on ⟨other, beforeCopy ++ output⟩)

/-- Parts are alike when they are run and tested alike. -/
structure Parts (alike : Likeness) (part other : Part) : Prop where
  label : alike.Labels part.label other.label
  run : alike.Runs part.run other.run
  test : alike.Runs part.test other.test

variable {alike : Likeness} {α β : Type}

namespace Runs

theorem pure (value : α) : alike.Runs (Pure.pure value) (Pure.pure value) :=
  fun _ _ _ _ _ tables => .ok tables

theorem raise (fault : Fault) : alike.Runs (Run.raise fault : Run α) (Run.raise fault) :=
  fun _ _ _ _ _ tables => .fault tables

theorem exhausted : alike.Runs (throw .exhausted : Run α) (throw .exhausted) :=
  fun _ _ _ _ _ tables => .exhausted tables

theorem emit (text : String) : alike.Runs (Run.emit text) (Run.emit text) := by
  intro before beforeCopy output table other tables
  rw [Run.on_emit, Run.on_emit, String.append_assoc, String.append_assoc]
  exact .ok tables

theorem violate {label copy : Label} (labels : alike.Labels label copy) (violation : Violation) :
    alike.Runs (Run.violate label violation : Run α) (Run.violate copy violation) :=
  fun _ _ _ _ _ tables => .error ⟨rfl, labels.line, labels.text⟩ tables

/-- The second runs start where the first ones end, with the same value. -/
theorem bind {first second : Run α} {next copy : α → Run β} (runs : alike.Runs first second)
    (goesOn : ∀ value, alike.Runs (next value) (copy value)) :
    alike.Runs (first >>= next) (second >>= copy) := by
  intro before beforeCopy output table other tables
  rw [Run.on_bind, Run.on_bind]
  -- The way in which the first runs end tells whether the second ones start.
  have ends := runs before beforeCopy output table other tables
  generalize first.on ⟨table, before ++ output⟩ = outcome at ends
  generalize second.on ⟨other, beforeCopy ++ output⟩ = outcomeCopy at ends
  cases ends with
  | ok left => exact goesOn _ _ _ _ _ _ left
  | error same left => exact .error same left
  | fault left => exact .fault left
  | exhausted left => exact .exhausted left

theorem ofExcept (result : Except Fault α) :
    alike.Runs (Run.ofExcept result) (Run.ofExcept result) := by
  cases result with
  | ok value => exact .pure value
  | error fault => exact .raise fault

theorem asNumber {label copy : Label} (labels : alike.Labels label copy) (value : Value) :
    alike.Runs (Run.asNumber label value) (Run.asNumber copy value) := by
  cases value with
  | real number => exact .pure number
  | _ => exact .violate labels .incompatibleTypes

theorem asTruth {label copy : Label} (labels : alike.Labels label copy) (value : Value) :
    alike.Runs (Run.asTruth label value) (Run.asTruth copy value) := by
  cases value with
  | truth flag => exact .pure flag
  | _ => exact .violate labels .incompatibleTypes

/-- A variable that is loaded is read in the table. -/
theorem on_load (binding : Binding) (machine : Machine) :
    (Run.load (some binding)).on machine = machine.settle (machine.table.read binding) :=
  Run.Finds.load binding

theorem load (keeps : alike.KeepsValues) {source copy : Option Binding}
    (bindings : Option.Rel alike.binding source copy) :
    alike.Runs (Run.load source) (Run.load copy) := by
  cases bindings with
  | none => exact .raise .unbound
  | @some source copy same =>
      intro before beforeCopy output table other tables
      rw [on_load, on_load, keeps.read tables same]
      cases source with
      | detached => exact .ok tables
      | cell key name =>
          rw [SymbolTable.read]
          cases table.find? key with
          | some cell => exact .ok tables
          | none => exact .fault tables

theorem store (keeps : alike.KeepsValues) {target copy : Option Binding}
    (bindings : Option.Rel alike.binding target copy) (number : Float) :
    alike.Runs (Run.store target (.real number)) (Run.store copy (.real number)) := by
  cases bindings with
  | none => exact .raise .unbound
  | @some target copy same =>
      intro before beforeCopy output table other tables
      have left := keeps.write number tables same
      have stored (binding : Binding) (machine : Machine) :
          (Run.store (some binding) (.real number)).on machine =
            ⟨.ok (), machine.assign binding number⟩ := by
        cases binding <;> rfl
      rw [stored, stored]
      exact .ok left

theorem apply {label copy : Label} (labels : alike.Labels label copy) (operator : BinaryOperator)
    (left right : Float) :
    alike.Runs (operator.apply label left right) (operator.apply copy left right) := by
  cases operator with
  | divide =>
      rw [BinaryOperator.apply, BinaryOperator.apply]
      split
      · exact .violate labels .divisionByZero
      · exact .pure _
  | modulus =>
      rw [BinaryOperator.apply, BinaryOperator.apply]
      split
      · exact .violate labels .divisionByZero
      · cases Binary64.remainder? left right with
        | some remainder => exact .pure _
        | none => exact .raise .remainderDomain
  | conjunction | disjunction => exact .violate labels .incompatibleTypes
  | _ => exact .pure _

variable {parts copies : List Part}

theorem select (each : List.Forall₂ alike.Parts parts copies) {next copy : Part → Run α}
    (goesOn : ∀ part other, alike.Parts part other → alike.Runs (next part) (copy other))
    (index : Nat) :
    alike.Runs (Part.select parts index >>= next) (Part.select copies index >>= copy) := by
  rw [Part.select, Part.select]
  have found := getElem?_rel each index
  generalize parts[index]? = part at found
  generalize copies[index]? = other at found
  cases found with
  | none => exact .raise .missingChild
  | some same => exact goesOn _ _ same

theorem runAll (each : List.Forall₂ alike.Parts parts copies) :
    alike.Runs (Part.runAll parts) (Part.runAll copies) := by
  induction each with
  | nil => exact .pure ()
  | cons first _ inductionHypothesis => exact .bind first.run fun _ => inductionHypothesis

theorem pass (each : List.Forall₂ alike.Parts parts copies) :
    alike.Runs (Part.pass parts) (Part.pass copies) := by
  induction each with
  | nil => exact .pure false
  | cons first _ inductionHypothesis =>
      rw [Part.pass, Part.pass, first.label.kind]
      split
      · refine .bind first.test fun flag => ?_
        split
        · exact .pure true
        · exact inductionHypothesis
      · exact .bind first.run fun _ => inductionHypothesis

theorem repeatPass {pass copy : Run Bool} (runs : alike.Runs pass copy) (bound : Nat) :
    alike.Runs (MiniPascal.repeatPass pass bound) (MiniPascal.repeatPass copy bound) := by
  induction bound with
  | zero => exact .exhausted
  | succ bound inductionHypothesis =>
      refine .bind runs fun flag => ?_
      split
      · exact .pure ()
      · exact inductionHypothesis

end Runs

section Actions

variable {parts copies : List Part} {label copy : Label}

theorem Parts.number {part other : Part} (same : alike.Parts part other)
    (labels : alike.Labels label copy) : alike.Runs (part.number label) (other.number copy) :=
  .bind same.run (.asNumber labels)

theorem Parts.truth {part other : Part} (same : alike.Parts part other)
    (labels : alike.Labels label copy) : alike.Runs (part.truth label) (other.truth copy) :=
  .bind same.run (.asTruth labels)

theorem Runs.testAction (each : List.Forall₂ alike.Parts parts copies)
    (labels : alike.Labels label copy) :
    alike.Runs (label.testAction parts) (copy.testAction copies) :=
  .select each (fun _ _ same => same.truth labels) 0

theorem Runs.numberAt (each : List.Forall₂ alike.Parts parts copies)
    (labels : alike.Labels label copy) (index : Nat) {next other : Float → Run α}
    (goesOn : ∀ number, alike.Runs (next number) (other number)) :
    alike.Runs (do next (← (← Part.select parts index).number label))
      (do other (← (← Part.select copies index).number copy)) :=
  .select each (fun _ _ same => .bind (same.number labels) goesOn) index

theorem Runs.truthAt (each : List.Forall₂ alike.Parts parts copies)
    (labels : alike.Labels label copy) (index : Nat) {next other : Bool → Run α}
    (goesOn : ∀ flag, alike.Runs (next flag) (other flag)) :
    alike.Runs (do next (← (← Part.select parts index).truth label))
      (do other (← (← Part.select copies index).truth copy)) :=
  .select each (fun _ _ same => .bind (same.truth labels) goesOn) index

/-- A node that is neither a statement nor a program nor a test has the action of an expression. -/
theorem Runs.expressionAction (keeps : alike.KeepsValues)
    (each : List.Forall₂ alike.Parts parts copies) (labels : alike.Labels label copy)
    (noStatement : label.kind.isStatement = false) (noProgram : label.kind ≠ .program)
    (noTest : label.kind ≠ .test) :
    alike.Runs (label.expressionAction parts) (copy.expressionAction copies) := by
  rw [Label.expressionAction, Label.expressionAction, labels.kind, labels.value]
  split
  case h_1 => exact .load keeps labels.binding
  case h_2 => exact .bind (.ofExcept _) fun _ => .pure _
  case h_3 => exact .pure _
  case h_4 => exact .pure _
  case h_5 operator _ =>
    cases operator with
    | negation => exact .truthAt each labels 0 fun _ => .pure _
    | minus | plus => exact .numberAt each labels 0 fun _ => .pure _
  case h_6 operator _ =>
    cases operator with
    | conjunction | disjunction =>
        exact .truthAt each labels 0 fun _ => .truthAt each labels 1 fun _ => .pure _
    | _ =>
        exact .numberAt each labels 0 fun _ => .numberAt each labels 1 fun _ => .apply labels _ _ _
  case h_7 =>
    cases kind : label.kind <;> simp_all [NodeKind.isStatement]

theorem Runs.layoutNumber (each : List.Forall₂ alike.Parts parts copies) (index : Nat) :
    alike.Runs (Label.layoutNumber parts index) (Label.layoutNumber copies index) := by
  rw [Label.layoutNumber, Label.layoutNumber]
  have found := getElem?_rel each index
  generalize parts[index]? = part at found
  generalize copies[index]? = other at found
  cases found with
  | none => exact .pure 0
  | some same => exact .bind (same.number same.label) fun _ => .ofExcept _

theorem Runs.writeAction (each : List.Forall₂ alike.Parts parts copies) :
    alike.Runs (Label.writeAction parts) (Label.writeAction copies) := by
  refine .bind (.layoutNumber each 1) fun width => .bind (.layoutNumber each 2) fun places => ?_
  refine .select each (fun part other same => .bind same.run fun value => ?_) 0
  cases value <;> exact .bind (.ofExcept _) fun text => .emit text

theorem Runs.statementAction (keeps : alike.KeepsValues)
    (each : List.Forall₂ alike.Parts parts copies) (labels : alike.Labels label copy)
    (isStatement : label.kind.isStatement = true) (bound : Nat) :
    alike.Runs (label.statementAction bound parts) (copy.statementAction bound copies) := by
  have yields {run other : Run Unit} (runs : alike.Runs run other) :
      alike.Runs (do run; return .nothing : Run Value) (do other; return .nothing) :=
    .bind runs fun _ => .pure _
  unfold Label.statementAction
  rw [labels.kind]
  split
  case h_1 => exact yields (.runAll each)
  case h_2 =>
    cases each with
    | nil => exact yields (.raise _)
    | cons target others =>
        cases others with
        | nil => exact yields (.raise _)
        | cons value more =>
            cases more with
            | nil =>
                refine .bind (value.number target.label) fun number => ?_
                exact yields (.store keeps target.label.binding number)
            | cons third more =>
                dsimp only [List.length_cons]
                rw [more.length_eq]
                exact yields (.raise _)
  case h_3 => exact yields (.repeatPass (.pass each) bound)
  case h_4 =>
    refine .select each (fun _ _ same => .bind same.test fun flag => ?_) 0
    split
    · exact .select each (fun _ _ same => .bind same.run fun _ => .pure _) 1
    · rw [each.length_eq]
      split
      · exact .select each (fun _ _ same => .bind same.run fun _ => .pure _) 2
      · exact .pure _
  case h_5 => exact yields (.writeAction each)
  case h_6 =>
    cases each with
    | nil => exact yields (.emit _)
    | cons first others =>
        exact .bind (.writeAction (.cons first others)) fun _ => yields (.emit _)
  case h_7 =>
    cases kind : label.kind <;> simp_all [NodeKind.isStatement]

theorem Runs.action (keeps : alike.KeepsValues) (each : List.Forall₂ alike.Parts parts copies)
    (labels : alike.Labels label copy) (bound : Nat) :
    alike.Runs (label.action bound parts) (copy.action bound copies) := by
  rw [Label.action, Label.action, labels.kind]
  split
  case h_1 => exact .select each (fun _ _ same => same.run) 0
  case h_2 => exact .bind (.testAction each labels) fun _ => .pure _
  case h_3 noProgram noTest =>
    split
    case isTrue isStatement => exact .statementAction keeps each labels isStatement bound
    case isFalse noStatement =>
      exact .expressionAction keeps each labels (Bool.eq_false_iff.mpr noStatement) noProgram noTest

end Actions

/-- Alike trees are alike parts. -/
theorem Trees.parts (keeps : alike.KeepsValues) (bound : Nat) {tree other : Tree}
    (trees : alike.Trees tree other) : alike.Parts (tree.toPart bound) (other.toPart bound) := by
  refine trees.inductionOn fun label copy children others labels same => ?_
  have each : List.Forall₂ alike.Parts (Tree.toParts bound children)
      (Tree.toParts bound others) := by
    rw [Tree.toParts_eq_map, Tree.toParts_eq_map, List.forall₂_map_left_iff,
      List.forall₂_map_right_iff]
    exact same
  exact ⟨labels, .action keeps each labels bound, .testAction each labels⟩

/-- Alike programs run alike over alike tables. -/
theorem execute_endAlike (keeps : alike.KeepsValues) (bound : Nat) {tree other : Tree}
    {table copy : SymbolTable} (trees : alike.Trees tree other) (tables : alike.table table copy) :
    EndAlike alike.table alike.Errors "" "" (execute bound tree table)
      (execute bound other copy) :=
  (trees.parts keeps bound).run "" "" "" table copy tables

end Likeness

end MiniPascal
