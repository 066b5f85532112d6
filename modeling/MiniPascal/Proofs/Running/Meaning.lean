/-
This file says what expressions and written arguments mean over a table, apart from any tree.
-/

import MiniPascal.Machine

namespace MiniPascal

/-- A program ends early with a runtime error or with a fault. -/
inductive Halt where
  | error (error : RuntimeError)
  | fault (fault : Fault)
deriving DecidableEq, Repr

/-- A check fails at the token with the mark. -/
def Mark.violates {α : Type} (mark : Mark) (violation : Violation) : Except Halt α :=
  .error (.error ⟨violation, mark.line, some mark.text⟩)

/-- The token with the mark accepts a real number only. -/
def Mark.number (mark : Mark) (found : Except Halt Value) : Except Halt Float := do
  match ← found with
  | .real number => .ok number
  | _ => mark.violates .incompatibleTypes

/-- The token with the mark accepts a truth value only. -/
def Mark.truth (mark : Mark) (found : Except Halt Value) : Except Halt Bool := do
  match ← found with
  | .truth flag => .ok flag
  | _ => mark.violates .incompatibleTypes

/-- A detached variable is zero for ever. -/
def SymbolTable.read (table : SymbolTable) : Binding → Except Halt Value
  | .detached _ => .ok (.real 0)
  | .cell key _ =>
      match table.find? key with
      | some cell => .ok cell.value
      | none => .error (.fault .unbound)

def SymbolTable.write (table : SymbolTable) (number : Float) : Binding → SymbolTable
  | .detached _ => table
  | .cell key _ => table.store key (.real number)

/-- The value of an operator on two numbers. -/
def BinaryOperator.combine (operator : BinaryOperator) (mark : Mark) (left right : Float) :
    Except Halt Value :=
  match operator with
  | .add => .ok (.real (left + right))
  | .subtract => .ok (.real (left - right))
  | .multiply => .ok (.real (left * right))
  | .divide =>
      if right == 0 then mark.violates .divisionByZero else .ok (.real (left / right))
  | .modulus =>
      if right == 0 then mark.violates .divisionByZero
      else
        match Binary64.remainder? left right with
        | some remainder => .ok (.real remainder)
        | none => .error (.fault .remainderDomain)
  | .equal => .ok (.truth (left == right))
  | .less => .ok (.truth (left < right))
  | .lessEqual => .ok (.truth (left ≤ right))
  | .greaterEqual => .ok (.truth (right ≤ left))
  | .greater => .ok (.truth (right < left))
  | .notEqual => .ok (.truth (left != right))
  | .conjunction | .disjunction => mark.violates .incompatibleTypes

/-- The value of an expression. Operands are evaluated and checked from left to right, all of
them. -/
def Expression.value (table : SymbolTable) : Expression → Except Halt Value
  | .reference source => table.read source.binding
  | .integer _ number => .ok (.real (Binary64.ofInteger number))
  | .real _ number => .ok (.real number)
  | .unary .negation mark operand => do
      let flag ← mark.truth (operand.value table)
      return .truth (!flag)
  | .unary .minus mark operand => do
      let number ← mark.number (operand.value table)
      return .real (-number)
  | .unary .plus mark operand => do
      let number ← mark.number (operand.value table)
      return .real number
  | .binary .conjunction mark left right => do
      let first ← mark.truth (left.value table)
      let second ← mark.truth (right.value table)
      return .truth (first && second)
  | .binary .disjunction mark left right => do
      let first ← mark.truth (left.value table)
      let second ← mark.truth (right.value table)
      return .truth (first || second)
  | .binary operator mark left right => do
      let first ← mark.number (left.value table)
      let second ← mark.number (right.value table)
      operator.combine mark first second

/-- A faulty computation halts the program. -/
def Halt.ofFault {α : Type} (result : Except Fault α) : Except Halt α := result.mapError .fault

/-- A layout literal is read as a double first. -/
def Width.whole (width : Width) : Except Halt Int :=
  Halt.ofFault (wholePart (Binary64.ofInteger width.number))

/-- The width of the field, which is zero where it is left out. -/
def Format.fieldWidth : Format → Except Halt Int
  | .plain => .ok 0
  | .field width => width.whole
  | .fixed width _ => width.whole

/-- The count of decimal places, which is zero where it is left out. -/
def Format.decimalPlaces : Format → Except Halt Int
  | .plain => .ok 0
  | .field _ => .ok 0
  | .fixed _ places => places.whole

def Item.value (table : SymbolTable) : Item → Except Halt Value
  | .reference source => table.read source.binding
  | .string _ content => .ok (.text content)

/-- A value in its layout. -/
def Value.layOut (width places : Int) : Value → Except Fault String
  | .text content => Layout.string content width
  | value => Layout.number value width places

/-- The text that an argument writes. Its layout is known before its value. -/
def Argument.text (table : SymbolTable) (argument : Argument) : Except Halt String := do
  let width ← argument.format.fieldWidth
  let places ← argument.format.decimalPlaces
  let value ← argument.item.value table
  Halt.ofFault (value.layOut width places)

/-- A runtime error is the last thing that a program writes. -/
def Machine.halted (machine : Machine) : Halt → Machine
  | .error error => { machine with output := machine.output ++ error.render }
  | .fault _ => machine

def Machine.assign (machine : Machine) (target : Binding) (number : Float) : Machine :=
  { machine with table := machine.table.write number target }

def Machine.print (machine : Machine) (text : String) : Machine :=
  { machine with output := machine.output ++ text }

end MiniPascal
