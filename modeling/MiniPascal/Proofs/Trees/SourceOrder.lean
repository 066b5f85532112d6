/-
This file lists the nodes of a tree in the order in which they stand in the source, and gives the lines
of the nodes of expressions, statements and programs in this order.
-/

import Mathlib.Data.List.Perm.Basic
import MiniPascal.Proofs.Trees.Shape

namespace MiniPascal

namespace Tree

/-- A binary operator stands between its operands, any other node before all its parts. -/
def inSource (node : Tree) (parts : List (List Tree)) : List Tree :=
  match node.kind, parts with
  | .binary _, first :: others => first ++ node :: others.flatten
  | _, _ => node :: parts.flatten

mutual

/-- A tree and all its parts in the order of the source. -/
def sourceOrder : Tree → List Tree
  | node label children => inSource (node label children) (sourceOrders children)

def sourceOrders : List Tree → List (List Tree)
  | [] => []
  | tree :: trees => sourceOrder tree :: sourceOrders trees

end

theorem sourceOrders_eq_map (trees : List Tree) : sourceOrders trees = trees.map sourceOrder := by
  induction trees with
  | nil => rfl
  | cons tree trees inductionHypothesis => rw [sourceOrders, inductionHypothesis, List.map_cons]

theorem inSource_perm (node : Tree) (parts : List (List Tree)) :
    (node.inSource parts).Perm (node :: parts.flatten) := by
  unfold inSource
  split
  · exact List.perm_middle
  · exact .refl _

/-- The source has the nodes of a tree in another order. -/
theorem sourceOrder_perm_preorder (tree : Tree) : tree.sourceOrder.Perm tree.preorder := by
  induction tree using Tree.inductionOn with
  | node label children inductionHypothesis =>
      rw [sourceOrder, preorder, sourceOrders_eq_map, preorderAll_eq_flatMap]
      refine (inSource_perm _ _).trans (.cons _ ?_)
      exact List.Perm.flatMap_left children inductionHypothesis

/-- The lines of the nodes, in the order of the source. -/
def sourceLines (tree : Tree) : List Nat := tree.sourceOrder.map (·.label.line)

variable {label : Label} {children : List Tree}

theorem sourceLines_node (first : ∀ operator, label.kind ≠ .binary operator) :
    (node label children).sourceLines = label.line :: children.flatMap sourceLines := by
  have before : (node label children).sourceOrder =
      node label children :: (children.map sourceOrder).flatten := by
    rw [sourceOrder, sourceOrders_eq_map]
    unfold inSource
    split
    case h_1 operator _ _ kind _ => exact absurd kind (first operator)
    case h_2 => rfl
  rw [sourceLines, before, List.map_cons, ← List.flatMap_def, List.map_flatMap]
  rfl

theorem sourceLines_binary {operator : BinaryOperator} (kind : label.kind = .binary operator)
    (left right : Tree) :
    (node label [left, right]).sourceLines =
      left.sourceLines ++ label.line :: right.sourceLines := by
  have between : (node label [left, right]).sourceOrder =
      left.sourceOrder ++ node label [left, right] :: right.sourceOrder := by
    simp only [sourceOrder, sourceOrders, inSource, Tree.kind, Tree.label, kind, List.flatten_cons,
      List.flatten_nil, List.append_nil]
  simp only [sourceLines, between, List.map_append, List.map_cons, Tree.label]

theorem sourceLines_leaf (first : ∀ operator, label.kind ≠ .binary operator) :
    (node label []).sourceLines = [label.line] := sourceLines_node first

end Tree

def Item.line (item : Item) : Nat := item.toTree.label.line

section Lines

variable {line : Nat} {test : Mark} {condition : Expression} {body : List Statement}

theorem Variable.sourceLines_toTree (source : Variable) :
    source.toTree.sourceLines = [source.mark.line] := Tree.sourceLines_leaf nofun

namespace Expression

/-- The lines of the nodes of an expression. -/
def lines (source : Expression) : List Nat := source.toTree.sourceLines

@[simp] theorem lines_reference (source : Variable) :
    (reference source).lines = [source.mark.line] := source.sourceLines_toTree

@[simp] theorem lines_integer (mark : Mark) (number : Nat) :
    (integer mark number).lines = [mark.line] := Tree.sourceLines_leaf nofun

@[simp] theorem lines_real (mark : Mark) (number : Float) :
    (real mark number).lines = [mark.line] := Tree.sourceLines_leaf nofun

@[simp] theorem lines_unary (operator : UnaryOperator) (mark : Mark) (operand : Expression) :
    (unary operator mark operand).lines = mark.line :: operand.lines := by
  simp [lines, toTree, Tree.sourceLines_node, Mark.label]

@[simp] theorem lines_binary (operator : BinaryOperator) (mark : Mark) (left right : Expression) :
    (binary operator mark left right).lines = left.lines ++ mark.line :: right.lines :=
  Tree.sourceLines_binary rfl _ _

end Expression

theorem testTree_sourceLines (condition : Tree) :
    (testTree test condition).sourceLines = test.line :: condition.sourceLines := by
  simp [testTree, Tree.sourceLines_node, Mark.label]

/-- The lines of an item and of the widths behind it. -/
def Argument.lines (argument : Argument) : List Nat :=
  argument.item.line :: argument.format.widths.map (·.mark.line)

theorem Argument.toTrees_lines (argument : Argument) :
    argument.toTrees.flatMap Tree.sourceLines = argument.lines := by
  have itemLine : argument.item.toTree.sourceLines = [argument.item.line] := by
    cases argument.item <;> exact Tree.sourceLines_leaf nofun
  have widthLine (width : Width) : width.toTree.sourceLines = [width.mark.line] :=
    Tree.sourceLines_leaf nofun
  rw [toTrees, List.flatMap_cons, itemLine, Format.toTrees_eq_map, List.flatMap_map]
  simp [widthLine, lines, List.map_eq_flatMap]

namespace Statement

/-- The lines of the nodes of a statement. -/
def lines (statement : Statement) : List Nat := statement.toTree.sourceLines

/-- The lines of a list of statements. -/
def allLines (body : List Statement) : List Nat := body.flatMap lines

theorem toTrees_lines (body : List Statement) :
    (toTrees body).flatMap Tree.sourceLines = allLines body := by
  rw [toTrees_eq_map, List.flatMap_map]
  rfl

@[simp] theorem lines_empty : (empty line).lines = [line] := Tree.sourceLines_leaf nofun

@[simp] theorem lines_compound : (compound line body).lines = line :: allLines body := by
  simp [lines, toTree, Tree.sourceLines_node, plainLabel, toTrees_lines]

@[simp] theorem lines_assign (target : Variable) (value : Expression) :
    (assign line target value).lines = line :: target.mark.line :: value.lines := by
  simp [lines, toTree, Tree.sourceLines_node, plainLabel, Variable.sourceLines_toTree,
    Expression.lines]

@[simp] theorem lines_repeatUntil :
    (repeatUntil line body test condition).lines =
      line :: (allLines body ++ test.line :: condition.lines) := by
  simp [lines, toTree, Tree.sourceLines_node, plainLabel, toTrees_lines, testTree_sourceLines,
    Expression.lines]

/-- A loop that tests first has two nodes on the line of its test. -/
@[simp] theorem lines_whileDo (bodyLine : Nat) :
    (whileDo line test condition bodyLine body).lines =
      line :: test.line :: test.line :: (condition.lines ++ bodyLine :: allLines body) := by
  simp [lines, toTree, Tree.sourceLines_node, plainLabel, Mark.label, toTrees_lines,
    testTree_sourceLines, Expression.lines]

@[simp] theorem lines_ifThen (branch : Statement) :
    (ifThen line test condition branch).lines =
      line :: test.line :: (condition.lines ++ branch.lines) := by
  simp [lines, toTree, Tree.sourceLines_node, plainLabel, testTree_sourceLines, Expression.lines]

@[simp] theorem lines_ifElse (branch otherwise : Statement) :
    (ifElse line test condition branch otherwise).lines =
      line :: test.line :: (condition.lines ++ (branch.lines ++ otherwise.lines)) := by
  simp [lines, toTree, Tree.sourceLines_node, plainLabel, testTree_sourceLines, Expression.lines]

@[simp] theorem lines_write (argument : Argument) :
    (write line argument).lines = line :: argument.lines := by
  simp [lines, toTree, Tree.sourceLines_node, plainLabel, argument.toTrees_lines]

@[simp] theorem lines_writelnPlain : (writeln line none).lines = [line] :=
  Tree.sourceLines_leaf nofun

@[simp] theorem lines_writeln (argument : Argument) :
    (writeln line (some argument)).lines = line :: argument.lines := by
  simp [lines, toTree, Tree.sourceLines_node, plainLabel, argument.toTrees_lines]

end Statement

/-- The lines of the nodes of a program. -/
theorem Program.sourceLines_toTree (program : Program) :
    program.toTree.sourceLines =
      program.line :: program.bodyLine :: Statement.allLines program.body := by
  simp [toTree, Tree.sourceLines_node, plainLabel, Statement.toTrees_lines]

end Lines

end MiniPascal
