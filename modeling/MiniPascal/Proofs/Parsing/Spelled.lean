/-
This file says when the nodes of a tree are spelled like tokens of their kinds.
-/

import MiniPascal.Proofs.Parsing.Reading
import MiniPascal.Proofs.Scanning.Written
import MiniPascal.Proofs.Trees.Shape

namespace MiniPascal

open Lexeme (Word)

/-- The spelling of a token is read back as that token. -/
def Token.Readable (token : Token) : Prop := Word token.kind token.text.toList

/-- The tokens of a kind that stand for an operator between two operands. -/
inductive Kind.Operates (kind : Kind) (operator : BinaryOperator) : Prop where
  | chained (rank : Rank) (found : rank.operator? kind = some operator)
  | compared (found : Parse.relational? kind = some operator)

theorem Kind.Operates.ne_error {kind : Kind} {operator : BinaryOperator}
    (operates : kind.Operates operator) : kind ≠ .error := by
  rintro rfl
  cases operates with
  | chained rank found => cases rank <;> cases found
  | compared found => cases found

/-- Negations are left out: that of the condition of a loop has the spelling of the loop. -/
def NodeKind.isSpelled : NodeKind → Bool
  | .unary .minus | .unary .plus | .binary _ => true
  | kind => kind.isLeaf

/-- A node that is read off a token of its kind has the spelling of that token. -/
inductive Label.Spelled : Label → Prop where
  | reference {text : String} {line : Nat} {binding : Option Binding}
      (word : Word .identifier text.toList) :
      Spelled ⟨.reference, line, some text, .nothing, binding⟩
  | integer {text : String} {line number : Nat} (word : Word (.integer number) text.toList) :
      Spelled ⟨.integerConstant, line, some text, .integer number, none⟩
  | real {text : String} {line : Nat} {number : Float} (word : Word (.real number) text.toList) :
      Spelled ⟨.realConstant, line, some text, .real number, none⟩
  | string {text content : String} {line : Nat} {kind : Kind} (word : Word kind text.toList)
      (value : kind.value = .text content) :
      Spelled ⟨.stringConstant, line, some text, .text content, none⟩
  | sign {text : String} {line : Nat} {kind : Kind} {operator : UnaryOperator}
      (word : Word kind text.toList) (found : Parse.sign? kind = some operator) :
      Spelled ⟨.unary operator, line, some text, .nothing, none⟩
  | binary {text : String} {line : Nat} {kind : Kind} {operator : BinaryOperator}
      (word : Word kind text.toList) (operates : kind.Operates operator) :
      Spelled ⟨.binary operator, line, some text, .nothing, none⟩
  | other {label : Label} (none : label.kind.isSpelled = false) : Spelled label

/-- All nodes of a tree are spelled. -/
def Tree.AllSpelled (tree : Tree) : Prop := ∀ node ∈ tree.preorder, node.label.Spelled

variable {label : Label} {children : List Tree}

theorem Tree.AllSpelled.node (own : label.Spelled) (parts : ∀ child ∈ children, child.AllSpelled) :
    (Tree.node label children).AllSpelled := forall_mem_preorder.mpr ⟨own, parts⟩

theorem Tree.AllSpelled.self (spelled : (Tree.node label children).AllSpelled) : label.Spelled :=
  (forall_mem_preorder.mp spelled).1

theorem Tree.AllSpelled.parts (spelled : (Tree.node label children).AllSpelled) :
    ∀ child ∈ children, child.AllSpelled := (forall_mem_preorder.mp spelled).2

/-- Every part of a spelled tree is spelled. -/
theorem Tree.AllSpelled.part {tree node : Tree} (spelled : tree.AllSpelled)
    (inside : node ∈ tree.preorder) : node.AllSpelled :=
  fun _ deeper => spelled _ (mem_preorder_trans inside deeper)

theorem Tree.AllSpelled.leaf (own : label.Spelled) : (Tree.node label []).AllSpelled :=
  .node own nofun

theorem Tree.AllSpelled.single {operand : Tree} (own : label.Spelled) (part : operand.AllSpelled) :
    (Tree.node label [operand]).AllSpelled := .node own (List.forall_mem_singleton.mpr part)

theorem Tree.AllSpelled.pair {left right : Tree} (own : label.Spelled) (first : left.AllSpelled)
    (second : right.AllSpelled) : (Tree.node label [left, right]).AllSpelled :=
  .node own (List.forall_mem_cons.mpr ⟨first, List.forall_mem_singleton.mpr second⟩)

end MiniPascal
