/-
This file runs trees. The action of a node is put together from the actions of its children.
-/

import MiniPascal.Machine

namespace MiniPascal

/-- A child of a node can be run, and can be tested in a loop or a conditional. -/
structure Part where
  label : Label
  run : Run Value
  test : Run Bool

namespace Part

/-- The number that a part yields, checked in a context. -/
def number (part : Part) (context : Label) : Run Float := do Run.asNumber context (← part.run)

/-- The truth value that a part yields, checked in a context. -/
def truth (part : Part) (context : Label) : Run Bool := do Run.asTruth context (← part.run)

/-- The part at an index. -/
def select (parts : List Part) (index : Nat) : Run Part :=
  match parts[index]? with
  | some part => pure part
  | none => Run.raise .missingChild

/-- Parts are run in order. -/
def runAll : List Part → Run Unit
  | [] => pure ()
  | part :: parts => do
      let _ ← part.run
      runAll parts

/-- One pass of a loop runs its parts in order and ends it at a true test. -/
def pass : List Part → Run Bool
  | [] => pure false
  | part :: parts => do
      if part.label.kind = .test then
        if (← part.test) then return true else pass parts
      else
        let _ ← part.run
        pass parts

end Part

/-- A loop makes at most `bound` passes. -/
def repeatPass (pass : Run Bool) : Nat → Run Unit
  | 0 => throw .exhausted
  | bound + 1 => do
      if (← pass) then return () else repeatPass pass bound

namespace Label

/-- A test yields the truth value of its part. -/
def testAction (label : Label) (parts : List Part) : Run Bool := do
  (← Part.select parts 0).truth label

/-- Both operands of an operator are run, the left one first, before the operator is applied. -/
def binaryAction (label : Label) (operator : BinaryOperator) (parts : List Part) : Run Value :=
  match operator with
  | .conjunction => do
      let left ← (← Part.select parts 0).truth label
      let right ← (← Part.select parts 1).truth label
      return .truth (left && right)
  | .disjunction => do
      let left ← (← Part.select parts 0).truth label
      let right ← (← Part.select parts 1).truth label
      return .truth (left || right)
  | operator => do
      let left ← (← Part.select parts 0).number label
      let right ← (← Part.select parts 1).number label
      operator.apply label left right

def unaryAction (label : Label) (operator : UnaryOperator) (parts : List Part) : Run Value :=
  match operator with
  | .negation => do return .truth (!(← (← Part.select parts 0).truth label))
  | .minus => do return .real (-(← (← Part.select parts 0).number label))
  | .plus => do return .real (← (← Part.select parts 0).number label)

/-- The value of an expression. -/
def expressionAction (label : Label) (parts : List Part) : Run Value :=
  match label.kind with
  | .reference => Run.load label.binding
  | .integerConstant => do return .real (← Run.ofExcept label.value.toReal)
  | .realConstant | .stringConstant => pure label.value
  | .unary operator => label.unaryAction operator parts
  | .binary operator => label.binaryAction operator parts
  | _ => Run.raise (.unhandledExpression (label.description parts.length))

/-- The whole number that a layout part yields; without the part it is zero. -/
def layoutNumber (parts : List Part) (index : Nat) : Run Int :=
  match parts[index]? with
  | none => pure 0
  | some part => do Run.ofExcept (wholePart (← part.number part.label))

/-- The width and the count of places are known before the value to write. -/
def writeAction (parts : List Part) : Run Unit := do
  let width ← layoutNumber parts 1
  let places ← layoutNumber parts 2
  match ← (← Part.select parts 0).run with
  | .text content => Run.emit (← Run.ofExcept (Layout.string content width))
  | value => Run.emit (← Run.ofExcept (Layout.number value width places))

/-- A statement yields nothing. -/
def statementAction (bound : Nat) (label : Label) (parts : List Part) : Run Value := do
  match label.kind with
  | .compound => Part.runAll parts
  | .assign =>
      match parts with
      | [target, value] => Run.store target.label.binding (.real (← value.number target.label))
      | _ => Run.raise (.assignmentShape parts.length)
  | .loop => repeatPass (Part.pass parts) bound
  | .conditional =>
      if (← (← Part.select parts 0).test) then
        let _ ← (← Part.select parts 1).run
      else if parts.length = 3 then
        let _ ← (← Part.select parts 2).run
  | .write => writeAction parts
  | .writeln =>
      unless parts.isEmpty do writeAction parts
      Run.emit "\n"
  | _ => Run.raise (.unhandledStatement (label.description parts.length))
  return .nothing

/-- The action of a node of any kind. -/
def action (bound : Nat) (label : Label) (parts : List Part) : Run Value :=
  match label.kind with
  | .program => do (← Part.select parts 0).run
  | .test => do return .truth (← label.testAction parts)
  | kind =>
      if kind.isStatement then label.statementAction bound parts
      else label.expressionAction parts

end Label

namespace Tree

mutual

/-- A tree as a part of another one. -/
def toPart (bound : Nat) : Tree → Part
  | node label children =>
      let parts := toParts bound children
      ⟨label, label.action bound parts, label.testAction parts⟩

def toParts (bound : Nat) : List Tree → List Part
  | [] => []
  | tree :: trees => toPart bound tree :: toParts bound trees

end

theorem toParts_eq_map (bound : Nat) (trees : List Tree) :
    toParts bound trees = trees.map (toPart bound) := by
  induction trees with
  | nil => rfl
  | cons tree trees inductionHypothesis => simp [toParts, inductionHypothesis]

/-- The run of a tree. -/
def visit (bound : Nat) (tree : Tree) : Run Value := (tree.toPart bound).run

def visitStatement (bound : Nat) (tree : Tree) : Run Value :=
  tree.label.statementAction bound (toParts bound tree.children)

def visitExpression (bound : Nat) (tree : Tree) : Run Value :=
  tree.label.expressionAction (toParts bound tree.children)

def visitTest (bound : Nat) (tree : Tree) : Run Bool := (tree.toPart bound).test

def visitLoop (bound : Nat) (tree : Tree) : Run Unit :=
  repeatPass (Part.pass (toParts bound tree.children)) bound

/-- The number that a tree yields, checked in the context of its own node. -/
def number (bound : Nat) (tree context : Tree) : Run Float :=
  (tree.toPart bound).number context.label

/-- The truth value that a tree yields, checked in the context of its own node. -/
def truth (bound : Nat) (tree context : Tree) : Run Bool :=
  (tree.toPart bound).truth context.label

end Tree

/-- The run of a tree over a table, without any output before it. -/
def execute (bound : Nat) (tree : Tree) (table : SymbolTable) : Outcome Value :=
  (tree.visit bound).on ⟨table, ""⟩

end MiniPascal
