/-
This file holds the machine on which trees run, and its basic steps.
-/

import MiniPascal.Binary64.Decimal
import MiniPascal.Layout
import MiniPascal.Tree

namespace MiniPascal

/-- A machine stores the variables and collects the output. -/
structure Machine where
  table : SymbolTable
  output : String

/-- A check that fails while a program runs. -/
inductive Violation where
  | divisionByZero
  | incompatibleTypes
deriving DecidableEq, Repr

def Violation.message : Violation → String
  | .divisionByZero => "Division by zero"
  | .incompatibleTypes => "Incompatible types"

/-- A runtime error names the violation and the node at which it arises. -/
structure RuntimeError where
  violation : Violation
  line : Nat
  text : Option String
deriving DecidableEq, Repr

/-- A runtime error is one line of output. -/
def RuntimeError.render (error : RuntimeError) : String :=
  "RUNTIME ERROR at line " ++ toString error.line ++ ": " ++ error.violation.message ++ ": " ++
    error.text.getD Value.nothing.plain ++ "\n"

/-- A run stops early at a runtime error, at a fault, or when a loop makes more passes than it is
allowed. -/
inductive Stop where
  | error (error : RuntimeError)
  | fault (fault : Fault)
  | exhausted
deriving DecidableEq, Repr

abbrev Run (α : Type) := ExceptT Stop (StateM Machine) α

/-- What a run leaves: its result or the reason why it stopped, and the machine. -/
structure Outcome (α : Type) where
  result : Except Stop α
  machine : Machine

namespace Run

/-- A run on a machine. -/
def on {α : Type} (run : Run α) (machine : Machine) : Outcome α :=
  let (result, machine) := ExceptT.run run |>.run machine
  ⟨result, machine⟩

@[simp] theorem on_pure {α : Type} (value : α) (machine : Machine) :
    (pure value : Run α).on machine = ⟨.ok value, machine⟩ := rfl

/-- The second run starts on the machine that the first one leaves. -/
theorem on_bind {α β : Type} (first : Run α) (next : α → Run β) (machine : Machine) :
    (first >>= next).on machine =
      match (first.on machine).result with
      | .ok value => (next value).on (first.on machine).machine
      | .error stop => ⟨.error stop, (first.on machine).machine⟩ := by
  simp only [on, bind, ExceptT.bind, ExceptT.mk, ExceptT.run, StateT.bind, StateT.run]
  rcases first machine with ⟨⟨stop⟩ | ⟨value⟩, after⟩ <;> rfl

@[simp] theorem on_throw {α : Type} (stop : Stop) (machine : Machine) :
    (throw stop : Run α).on machine = ⟨.error stop, machine⟩ := rfl

/-- Text is written behind the output. -/
def emit (text : String) : Run Unit :=
  modify fun machine => { machine with output := machine.output ++ text }

@[simp] theorem on_emit (text : String) (machine : Machine) :
    (emit text).on machine = ⟨.ok (), { machine with output := machine.output ++ text }⟩ := rfl

/-- The runtime error is written, and the run stops. -/
def violate {α : Type} (label : Label) (violation : Violation) : Run α := do
  let error : RuntimeError := ⟨violation, label.line, label.text⟩
  emit error.render
  throw (.error error)

/-- A violation is the last thing that a run writes. -/
@[simp] theorem on_violate {α : Type} (label : Label) (violation : Violation)
    (machine : Machine) :
    (violate label violation : Run α).on machine =
      ⟨.error (.error ⟨violation, label.line, label.text⟩),
        { machine with
          output := machine.output ++
            (RuntimeError.mk violation label.line label.text).render }⟩ := rfl

def raise {α : Type} (fault : Fault) : Run α := throw (.fault fault)

@[simp] theorem on_raise {α : Type} (fault : Fault) (machine : Machine) :
    (raise fault : Run α).on machine = ⟨.error (.fault fault), machine⟩ := rfl

/-- The result of a computation that may be faulty. -/
def ofExcept {α : Type} : Except Fault α → Run α
  | .ok result => pure result
  | .error fault => raise fault

/-- A context accepts a real number only. -/
def asNumber (context : Label) : Value → Run Float
  | .real number => pure number
  | _ => violate context .incompatibleTypes

/-- A context accepts a truth value only. -/
def asTruth (context : Label) : Value → Run Bool
  | .truth flag => pure flag
  | _ => violate context .incompatibleTypes

/-- The value of a variable. -/
def load : Option Binding → Run Value
  | none => raise .unbound
  | some (.detached _) => pure (.real 0)
  | some (.cell key _) => do
      match (← get).table.find? key with
      | some cell => pure cell.value
      | none => raise .unbound

/-- A cell that the table lacks stops the run; nothing changes the machine. -/
theorem on_load_cell (key name : String) (machine : Machine) :
    (load (some (.cell key name))).on machine =
      ⟨(machine.table.find? key).elim (.error (.fault .unbound)) fun cell => .ok cell.value,
        machine⟩ := by
  have got : (get : Run Machine).on machine = ⟨.ok machine, machine⟩ := rfl
  rw [load, on_bind, got]
  dsimp only
  cases machine.table.find? key <;> rfl

/-- A variable takes a value; nothing reads a detached one again. -/
def store (binding : Option Binding) (value : Value) : Run Unit :=
  match binding with
  | none => raise .unbound
  | some (.detached _) => pure ()
  | some (.cell key _) =>
      modify fun machine => { machine with table := machine.table.store key value }

end Run

/-- The number that a constant stands for when it is read as an integer. -/
def Value.toReal : Value → Except Fault Float
  | .integer number => .ok (Binary64.ofInteger number)
  | .real number => .ok number
  | .truth flag => .ok (if flag then 1 else 0)
  | .text characters =>
      match Binary64.ofText? characters with
      | some number => .ok number
      | none => .error (.unreadableNumber characters)
  | .nothing => .error .absentNumber

/-- The whole part of a number that lays out the output. -/
def wholePart (number : Float) : Except Fault Int :=
  if Binary64.isNaN number then .error .notANumberToInteger
  else if Binary64.isInfinite number then .error .infinityToInteger
  else .ok (Binary64.truncate number)

/-- The result of an operator on two numbers, or the violation or fault that it meets. -/
def BinaryOperator.apply (operator : BinaryOperator) (label : Label) (left right : Float) :
    Run Value :=
  match operator with
  | .add => pure (.real (left + right))
  | .subtract => pure (.real (left - right))
  | .multiply => pure (.real (left * right))
  | .divide =>
      if right == 0 then Run.violate label .divisionByZero else pure (.real (left / right))
  | .modulus =>
      if right == 0 then Run.violate label .divisionByZero
      else
        match Binary64.remainder? left right with
        | some remainder => pure (.real remainder)
        | none => Run.raise .remainderDomain
  | .equal => pure (.truth (left == right))
  | .less => pure (.truth (left < right))
  | .lessEqual => pure (.truth (left ≤ right))
  | .greaterEqual => pure (.truth (right ≤ left))
  | .greater => pure (.truth (right < left))
  | .notEqual => pure (.truth (left != right))
  | .conjunction | .disjunction => Run.violate label .incompatibleTypes

end MiniPascal
