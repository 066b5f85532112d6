/-
This file follows a run: what it finds, where it ends, and how two runs are put together.
-/

import MiniPascal.Execution
import MiniPascal.Proofs.Running.Meaning

namespace MiniPascal

/-- A halt is one of the ways in which a run stops; the other one is exhaustion. -/
def Halt.toStop : Halt → Stop
  | .error found => .error found
  | .fault found => .fault found

theorem Halt.toStop_ne_exhausted (halt : Halt) : halt.toStop ≠ .exhausted := by
  cases halt <;> exact nofun

theorem Halt.toStop_injective {first second : Halt} (same : first.toStop = second.toStop) :
    first = second := by
  cases first <;> cases second <;> cases same <;> rfl

/-- A node that stands at a mark. -/
structure Label.StandsAt (label : Label) (mark : Mark) : Prop where
  line : label.line = mark.line
  text : label.text = some mark.text

/-- What a run leaves when all that it does is to find a result. -/
def Machine.settle {α : Type} (machine : Machine) : Except Halt α → Outcome α
  | .ok value => ⟨.ok value, machine⟩
  | .error halt => ⟨.error halt.toStop, machine.halted halt⟩

/-- A run that only finds a result on a machine. -/
def Run.Finds {α : Type} (run : Run α) (machine : Machine) (result : Except Halt α) : Prop :=
  run.on machine = machine.settle result

namespace Run.Finds

variable {α β : Type} {machine : Machine}

theorem pure (value : α) : Finds (Pure.pure value) machine (.ok value) := rfl

theorem bind {run : Run α} {next : α → Run β} {result : Except Halt α}
    {others : α → Except Halt β} (first : Finds run machine result)
    (second : ∀ value, Finds (next value) machine (others value)) :
    Finds (run >>= next) machine (result >>= others) := by
  unfold Finds at first second ⊢
  rw [on_bind, first]
  cases result with
  | ok value => exact second value
  | error halt => rfl

/-- The part at an index is run in its place. -/
theorem select {parts : List Part} {index : Nat} {part : Part} {next : Part → Run α}
    {result : Except Halt α} (present : parts[index]? = some part)
    (found : Finds (next part) machine result) :
    Finds (Part.select parts index >>= next) machine result := by
  rw [Part.select, present]
  exact found

theorem violate {label : Label} {mark : Mark} (stands : label.StandsAt mark)
    (violation : Violation) :
    Finds (Run.violate label violation : Run α) machine (mark.violates violation) := by
  unfold Finds
  rw [on_violate, stands.line, stands.text]
  rfl

theorem asNumber {label : Label} {mark : Mark} (stands : label.StandsAt mark) {run : Run Value}
    {result : Except Halt Value} (found : Finds run machine result) :
    Finds (run >>= Run.asNumber label) machine (mark.number result) := by
  refine bind found fun value => ?_
  cases value with
  | real number => exact pure number
  | nothing | integer | text | truth => exact violate stands .incompatibleTypes

theorem asTruth {label : Label} {mark : Mark} (stands : label.StandsAt mark) {run : Run Value}
    {result : Except Halt Value} (found : Finds run machine result) :
    Finds (run >>= Run.asTruth label) machine (mark.truth result) := by
  refine bind found fun value => ?_
  cases value with
  | truth flag => exact pure flag
  | nothing | integer | text | real => exact violate stands .incompatibleTypes

theorem ofExcept (result : Except Fault α) :
    Finds (Run.ofExcept result) machine (Halt.ofFault result) := by
  cases result <;> rfl

theorem load (binding : Binding) :
    Finds (Run.load (some binding)) machine (machine.table.read binding) := by
  cases binding with
  | detached => rfl
  | cell key name =>
      rw [Finds, on_load_cell, SymbolTable.read]
      cases machine.table.find? key <;> rfl

theorem apply {label : Label} {mark : Mark} (stands : label.StandsAt mark)
    (operator : BinaryOperator) (left right : Float) :
    Finds (operator.apply label left right) machine (operator.combine mark left right) := by
  cases operator with
  | divide =>
      rw [BinaryOperator.apply, BinaryOperator.combine]
      split
      · exact violate stands .divisionByZero
      · exact pure _
  | modulus =>
      rw [BinaryOperator.apply, BinaryOperator.combine]
      split
      · exact violate stands .divisionByZero
      · cases Binary64.remainder? left right <;> rfl
  | conjunction | disjunction => exact violate stands .incompatibleTypes
  | add | subtract | multiply | equal | less | lessEqual | greaterEqual | greater | notEqual =>
      exact pure _

end Run.Finds

namespace Run

variable {α β : Type} {machine middle after : Machine}

/-- A run that ends with a result and leaves another machine. A run that is exhausted ends with
none. -/
def Reaches (run : Run α) (machine : Machine) (result : Except Halt α) (after : Machine) : Prop :=
  run.on machine = ⟨result.mapError Halt.toStop, after⟩

theorem Reaches.pure (value : α) : Reaches (Pure.pure value) machine (.ok value) machine := rfl

theorem Reaches.bind {first : Run α} {next : α → Run β} {value : α} {result : Except Halt β}
    (ends : Reaches first machine (.ok value) middle)
    (goesOn : Reaches (next value) middle result after) :
    Reaches (first >>= next) machine result after := by
  unfold Reaches at ends goesOn ⊢
  rw [on_bind, ends]
  exact goesOn

theorem Reaches.stop {first : Run α} {next : α → Run β} {halt : Halt}
    (stops : Reaches first machine (.error halt) after) :
    Reaches (first >>= next) machine (.error halt) after := by
  unfold Reaches at stops ⊢
  rw [on_bind, stops]
  rfl

/-- Two runs end where the second one ends, or where the first one stops. -/
theorem Reaches.parts {first : Run α} {next : α → Run β} {result : Except Halt β}
    (ends : Reaches (first >>= next) machine result after) :
    (∃ value middle, Reaches first machine (.ok value) middle ∧
        Reaches (next value) middle result after) ∨
      ∃ halt, Reaches first machine (.error halt) after ∧ result = .error halt := by
  unfold Reaches at *
  rw [on_bind] at ends
  cases found : first.on machine with
  | mk firstResult middle =>
      rw [found] at ends
      cases firstResult with
      | ok value => exact .inl ⟨value, middle, rfl, ends⟩
      | error stop =>
          cases result with
          | ok value => cases congrArg Outcome.result ends
          | error halt =>
              have same : stop = halt.toStop := Except.error.inj (congrArg Outcome.result ends)
              have place : middle = after := congrArg Outcome.machine ends
              exact .inr ⟨halt, by rw [same, place]; rfl, rfl⟩

theorem Reaches.not_exhausted {result : Except Halt α} :
    ¬Reaches (throw .exhausted) machine result after := by
  intro ends
  cases result with
  | ok value => cases congrArg Outcome.result ends
  | error halt =>
      exact halt.toStop_ne_exhausted (Except.error.inj (congrArg Outcome.result ends)).symm

theorem Finds.ok {run : Run α} {result : Except Halt α} {value : α}
    (found : Finds run machine result) (same : result = .ok value) :
    Reaches run machine (.ok value) machine := by
  rw [same] at found
  exact found

theorem Finds.error {run : Run α} {result : Except Halt α} {halt : Halt}
    (found : Finds run machine result) (same : result = .error halt) :
    Reaches run machine (.error halt) (machine.halted halt) := by
  rw [same] at found
  exact found

/-- A run ends in one way only. -/
theorem Reaches.unique {run : Run α} {first second : Except Halt α} {other : Machine}
    (ends : Reaches run machine first after) (again : Reaches run machine second other) :
    first = second ∧ after = other := by
  unfold Reaches at ends again
  rw [ends] at again
  have results : first.mapError Halt.toStop = second.mapError Halt.toStop :=
    congrArg Outcome.result again
  refine ⟨?_, congrArg Outcome.machine again⟩
  cases first <;> cases second
  case error.error => rw [Halt.toStop_injective (Except.error.inj results)]
  case ok.ok => rw [Except.ok.inj results]
  all_goals cases results

/-- A run that only finds a result ends with it and leaves its machine. -/
theorem Finds.ends_ok {run : Run α} {found : Except Halt α} {value : α}
    (finds : Finds run machine found) (ends : Reaches run machine (.ok value) after) :
    found = .ok value ∧ after = machine := by
  cases found with
  | ok other =>
      obtain ⟨same, place⟩ := (finds.ok rfl).unique ends
      exact ⟨same, place.symm⟩
  | error halt => cases ((finds.error rfl).unique ends).1

theorem Finds.ends_error {run : Run α} {found : Except Halt α} {halt : Halt}
    (finds : Finds run machine found) (ends : Reaches run machine (.error halt) after) :
    found = .error halt ∧ after = machine.halted halt := by
  cases found with
  | ok value => cases ((finds.ok rfl).unique ends).1
  | error other =>
      obtain ⟨same, place⟩ := (finds.error rfl).unique ends
      cases same
      exact ⟨rfl, place.symm⟩

/-- A loop ends after a pass that finds a true test, and goes on after one that does not. -/
theorem repeatPass_ends {pass : Run Bool} {machine after : Machine} {count : Nat}
    (ends : Reaches pass machine (.ok true) after) :
    Reaches (repeatPass pass (count + 1)) machine (.ok ()) after :=
  .bind ends (.pure ())

theorem repeatPass_again {pass : Run Bool} {machine middle after : Machine} {count : Nat}
    {result : Except Halt Unit} (goesOn : Reaches pass machine (.ok false) middle)
    (again : Reaches (repeatPass pass count) middle result after) :
    Reaches (repeatPass pass (count + 1)) machine result after :=
  .bind goesOn again

/-- A loop ends with a pass that finds a true test, goes on, or stops. -/
theorem repeatPass_parts {pass : Run Bool} {count : Nat} {machine after : Machine}
    {result : Except Halt Unit} (ends : Reaches (repeatPass pass (count + 1)) machine result after) :
    (Reaches pass machine (.ok true) after ∧ result = .ok ()) ∨
      (∃ middle, Reaches pass machine (.ok false) middle ∧
        Reaches (repeatPass pass count) middle result after) ∨
      ∃ halt, Reaches pass machine (.error halt) after ∧ result = .error halt := by
  obtain ⟨flag, middle, passes, others⟩ | stops := Reaches.parts ends
  · cases flag with
    | true =>
        obtain ⟨rfl, rfl⟩ := others.unique (.pure _)
        exact .inl ⟨passes, rfl⟩
    | false => exact .inr (.inl ⟨middle, passes, others⟩)
  · exact .inr (.inr stops)

end Run

end MiniPascal
