/-
This file turns expressions, statements and programs into trees. Both loop statements become one
kind of loop, which ends at a true test.
-/

import MiniPascal.Tree

namespace MiniPascal

/-- The label of an operator, a test or a literal. -/
def Mark.label (mark : Mark) (kind : NodeKind) (value : Value) : Label :=
  ⟨kind, mark.line, some mark.text, value, none⟩

def Variable.toTree (source : Variable) : Tree :=
  .node ⟨.reference, source.mark.line, some source.mark.text, .nothing, some source.binding⟩ []

def Expression.toTree : Expression → Tree
  | .reference source => source.toTree
  | .integer mark number => .node (mark.label .integerConstant (.integer number)) []
  | .real mark number => .node (mark.label .realConstant (.real number)) []
  | .unary operator mark operand => .node (mark.label (.unary operator) .nothing) [operand.toTree]
  | .binary operator mark left right =>
      .node (mark.label (.binary operator) .nothing) [left.toTree, right.toTree]

def Width.toTree (width : Width) : Tree :=
  .node (width.mark.label .integerConstant (.integer width.number)) []

def Item.toTree : Item → Tree
  | .reference source => source.toTree
  | .string mark content => .node (mark.label .stringConstant (.text content)) []

def Format.toTrees : Format → List Tree
  | .plain => []
  | .field width => [width.toTree]
  | .fixed width places => [width.toTree, places.toTree]

def Argument.toTrees (argument : Argument) : List Tree :=
  argument.item.toTree :: argument.format.toTrees

/-- A node that has nothing but its kind and line. -/
def plainLabel (kind : NodeKind) (line : Nat) : Label := ⟨kind, line, none, .nothing, none⟩

/-- A test of an expression. -/
def testTree (mark : Mark) (condition : Tree) : Tree :=
  .node (mark.label .test .nothing) [condition]

mutual

/-- A loop that runs while its condition holds tests the negation before its body; a loop that
repeats until its condition holds tests it after its body. -/
def Statement.toTree : Statement → Tree
  | .empty line => .node (plainLabel .compound line) []
  | .compound line body => .node (plainLabel .compound line) (Statement.toTrees body)
  | .assign line target value =>
      .node (plainLabel .assign line) [target.toTree, value.toTree]
  | .repeatUntil line body test condition =>
      .node (plainLabel .loop line) (Statement.toTrees body ++ [testTree test condition.toTree])
  | .whileDo line test condition bodyLine body =>
      .node (plainLabel .loop line)
        [testTree test (.node (test.label (.unary .negation) .nothing) [condition.toTree]),
          .node (plainLabel .compound bodyLine) (Statement.toTrees body)]
  | .ifThen line test condition branch =>
      .node (plainLabel .conditional line) [testTree test condition.toTree, branch.toTree]
  | .ifElse line test condition branch otherwise =>
      .node (plainLabel .conditional line)
        [testTree test condition.toTree, branch.toTree, otherwise.toTree]
  | .write line argument => .node (plainLabel .write line) argument.toTrees
  | .writeln line none => .node (plainLabel .writeln line) []
  | .writeln line (some argument) => .node (plainLabel .writeln line) argument.toTrees

def Statement.toTrees : List Statement → List Tree
  | [] => []
  | statement :: statements => statement.toTree :: Statement.toTrees statements

end

theorem Statement.toTrees_eq_map (statements : List Statement) :
    Statement.toTrees statements = statements.map Statement.toTree := by
  induction statements with
  | nil => rfl
  | cons statement statements inductionHypothesis =>
      simp [Statement.toTrees, inductionHypothesis]

/-- The tree of a statement is the node of a statement. -/
theorem Statement.isStatement_toTree (statement : Statement) :
    statement.toTree.label.kind.isStatement = true := by
  cases statement with
  | writeln line argument => cases argument <;> rfl
  | _ => rfl

/-- The body of a program is one compound statement. -/
def Program.toTree (program : Program) : Tree :=
  .node ⟨.program, program.line, program.name, .nothing, none⟩
    [.node (plainLabel .compound program.bodyLine) (Statement.toTrees program.body)]

end MiniPascal
