/-
This file holds the trees that are shown and run.
-/

import MiniPascal.Syntax
import MiniPascal.Token

namespace MiniPascal

/-- The kind of a node fixes what its children mean. -/
inductive NodeKind where
  | program
  | compound
  | assign
  | loop
  /-- The loop around a test ends when the test is true. -/
  | test
  | conditional
  | write
  | writeln
  | unary (operator : UnaryOperator)
  | binary (operator : BinaryOperator)
  | reference
  | integerConstant
  | realConstant
  | stringConstant
deriving DecidableEq, Inhabited, Repr

def UnaryOperator.name : UnaryOperator → String
  | .negation => "NOT_OP"
  | .minus => "NEGATE"
  | .plus => "POSITIVE"

def BinaryOperator.name : BinaryOperator → String
  | .add => "ADD"
  | .subtract => "SUBTRACT"
  | .multiply => "MULTIPLY"
  | .divide => "DIVIDE"
  | .modulus => "MODULUS"
  | .conjunction => "AND_OP"
  | .disjunction => "OR_OP"
  | .equal => "EQ"
  | .less => "LT"
  | .lessEqual => "LE"
  | .greaterEqual => "GE"
  | .greater => "GT"
  | .notEqual => "NE"

def NodeKind.name : NodeKind → String
  | .program => "PROGRAM"
  | .compound => "COMPOUND"
  | .assign => "ASSIGN"
  | .loop => "LOOP"
  | .test => "TEST"
  | .conditional => "IF_STATEMENT"
  | .write => "WRITE"
  | .writeln => "WRITELN"
  | .unary operator => operator.name
  | .binary operator => operator.name
  | .reference => "VARIABLE"
  | .integerConstant => "INTEGER_CONSTANT"
  | .realConstant => "REAL_CONSTANT"
  | .stringConstant => "STRING_CONSTANT"

/-- Every kind of node. -/
def NodeKind.all : List NodeKind :=
  [.program, .compound, .assign, .loop, .test, .conditional, .write, .writeln] ++
    [UnaryOperator.negation, .minus, .plus].map .unary ++
    [BinaryOperator.add, .subtract, .multiply, .divide, .modulus, .conjunction, .disjunction,
      .equal, .less, .lessEqual, .greaterEqual, .greater, .notEqual].map .binary ++
    [.reference, .integerConstant, .realConstant, .stringConstant]

/-- A statement is run for its effects. -/
def NodeKind.isStatement : NodeKind → Bool
  | .compound | .assign | .loop | .conditional | .write | .writeln => true
  | _ => false

/-- What a node says apart from its children. -/
structure Label where
  kind : NodeKind
  line : Nat
  text : Option String := none
  value : Value := .nothing
  binding : Option Binding := none
deriving Inhabited

inductive Tree where
  | node (label : Label) (children : List Tree)
deriving Inhabited

namespace Tree

def label : Tree → Label
  | node label _ => label

def children : Tree → List Tree
  | node _ children => children

/-- A property holds of every tree when it passes from the children of a node to the node. -/
@[elab_as_elim] theorem inductionOn {motive : Tree → Prop} (tree : Tree)
    (node : ∀ label children, (∀ child ∈ children, motive child) → motive (.node label children)) :
    motive tree :=
  Tree.rec (motive_1 := motive) (motive_2 := fun trees => ∀ tree ∈ trees, motive tree)
    node (by simp) (fun _ _ first others => by simpa using ⟨first, others⟩) tree

mutual

/-- A tree and all its parts, every node before its children. -/
def preorder : Tree → List Tree
  | node label children => node label children :: preorderAll children

def preorderAll : List Tree → List Tree
  | [] => []
  | tree :: trees => preorder tree ++ preorderAll trees

end

theorem preorderAll_eq_flatMap (trees : List Tree) :
    preorderAll trees = trees.flatMap preorder := by
  induction trees with
  | nil => rfl
  | cons tree trees inductionHypothesis => simp [preorderAll, inductionHypothesis]

/-- A constant is read from any token. -/
def constant (kind : NodeKind) (token : Token) : Tree :=
  .node ⟨kind, token.line, some token.text, token.kind.value, none⟩ []

end Tree

/-- The listing form of a node with the given count of children. -/
def Label.description (label : Label) (children : Nat) : String :=
  "Node(" ++ label.kind.name ++ (label.text.map (", " ++ Text.quoted ·)).getD "" ++ ", line=" ++
    toString label.line ++ ", children=" ++ toString children ++ ")"

def Tree.description (tree : Tree) : String := tree.label.description tree.children.length

end MiniPascal
