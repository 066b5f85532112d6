/-
This file says which trees are well formed, and shows that the trees of programs are.
-/

import MiniPascal.Lowering
import MiniPascal.Proofs.Parsing.Binding

namespace MiniPascal

def Tree.kind (tree : Tree) : NodeKind := tree.label.kind

/-- An operand is an expression; a string is none. -/
def NodeKind.isExpression : NodeKind → Bool
  | .unary _ | .binary _ | .reference | .integerConstant | .realConstant => true
  | _ => false

def NodeKind.isLeaf : NodeKind → Bool
  | .reference | .integerConstant | .realConstant | .stringConstant => true
  | _ => false

/-- What is written is a variable or a string with at most two integers behind it. -/
structure Written (children : List Tree) : Prop where
  item : ∃ item sizes, children = item :: sizes ∧
    (item.kind = .reference ∨ item.kind = .stringConstant) ∧
    ∀ size ∈ sizes, size.kind = .integerConstant
  count : children.length ≤ 3

/-- The children that a node of each kind may have. -/
inductive Shaped : NodeKind → List Tree → Prop where
  | program {body : Tree} (bodyKind : body.kind = .compound) : Shaped .program [body]
  | compound {body : List Tree} (statements : ∀ part ∈ body, part.kind.isStatement = true) :
      Shaped .compound body
  | assign {target value : Tree} (targetKind : target.kind = .reference)
      (valueKind : value.kind.isExpression = true) : Shaped .assign [target, value]
  /-- A loop tests the negation of its condition before its body. -/
  | pretest {test negation : Label} {condition body : Tree} (testKind : test.kind = .test)
      (negationKind : negation.kind = .unary .negation)
      (conditionKind : condition.kind.isExpression = true) (bodyKind : body.kind = .compound) :
      Shaped .loop [.node test [.node negation [condition]], body]
  /-- A loop tests its condition behind its statements. -/
  | posttest {body : List Tree} {test : Tree}
      (statements : ∀ part ∈ body, part.kind.isStatement = true) (testKind : test.kind = .test) :
      Shaped .loop (body ++ [test])
  | test {condition : Tree} (conditionKind : condition.kind.isExpression = true) :
      Shaped .test [condition]
  | ifThen {test branch : Tree} (testKind : test.kind = .test)
      (branchKind : branch.kind.isStatement = true) : Shaped .conditional [test, branch]
  | ifElse {test branch otherwise : Tree} (testKind : test.kind = .test)
      (branchKind : branch.kind.isStatement = true)
      (otherwiseKind : otherwise.kind.isStatement = true) :
      Shaped .conditional [test, branch, otherwise]
  | write {children : List Tree} (written : Written children) : Shaped .write children
  | writeln {children : List Tree} (written : Written children) : Shaped .writeln children
  | writelnPlain : Shaped .writeln []
  | unary {operator : UnaryOperator} {operand : Tree}
      (operandKind : operand.kind.isExpression = true) : Shaped (.unary operator) [operand]
  | binary {operator : BinaryOperator} {left right : Tree}
      (leftKind : left.kind.isExpression = true) (rightKind : right.kind.isExpression = true) :
      Shaped (.binary operator) [left, right]
  | leaf {kind : NodeKind} (isLeaf : kind.isLeaf = true) : Shaped kind []

/-- A constant carries a value of its type, and other nodes carry none. -/
inductive Label.Valued (label : Label) : Prop where
  | integer (number : Nat) (kind : label.kind = .integerConstant)
      (value : label.value = .integer number)
  | real (number : Float) (kind : label.kind = .realConstant) (value : label.value = .real number)
  | string (content : String) (kind : label.kind = .stringConstant)
      (value : label.value = .text content)
  | other (integer : label.kind ≠ .integerConstant) (real : label.kind ≠ .realConstant)
      (string : label.kind ≠ .stringConstant) (value : label.value = .nothing)

/-- A variable, and no other node, has a binding, which is the one of its spelling. -/
inductive Label.Bound (state : ParseState) (label : Label) : Prop where
  | reference (source : Variable) (kind : label.kind = .reference)
      (text : label.text = some source.mark.text) (line : label.line = source.mark.line)
      (binding : label.binding = some source.binding) (bound : source.Bound state)
  | other (kind : label.kind ≠ .reference) (binding : label.binding = none)

/-- What holds of all nodes of a tree holds of its root and of all nodes of its parts. -/
theorem Tree.forall_mem_preorder {holds : Tree → Prop} {label : Label} {children : List Tree} :
    (∀ node ∈ (Tree.node label children).preorder, holds node) ↔
      holds (.node label children) ∧ ∀ child ∈ children, ∀ node ∈ child.preorder, holds node := by
  rw [preorder, preorderAll_eq_flatMap, List.forall_mem_cons]
  simp only [List.mem_flatMap]
  refine and_congr_right fun _ => ⟨fun all child member node inside => ?_, ?_⟩
  · exact all node ⟨child, member, inside⟩
  · rintro parts node ⟨child, member, inside⟩
    exact parts child member node inside

/-- The parts of a part are parts. -/
theorem Tree.mem_preorder_trans {tree node inner : Tree} (inside : node ∈ tree.preorder)
    (deeper : inner ∈ node.preorder) : inner ∈ tree.preorder := by
  induction tree using Tree.inductionOn with
  | node label children inductionHypothesis =>
      rw [preorder, preorderAll_eq_flatMap] at inside
      rcases List.mem_cons.mp inside with same | inside
      · rw [same] at deeper
        exact deeper
      · obtain ⟨child, member, nodeInside⟩ := List.mem_flatMap.mp inside
        rw [preorder, preorderAll_eq_flatMap]
        exact List.mem_cons_of_mem _
          (List.mem_flatMap.mpr ⟨child, member, inductionHypothesis child member nodeInside⟩)

/-- What is true of every node of a tree. -/
structure Tree.WellFormed (state : ParseState) (node : Tree) : Prop where
  shaped : Shaped node.kind node.children
  valued : node.label.Valued
  bound : node.label.Bound state

/-- All nodes of a tree are well formed. -/
def Tree.AllWellFormed (state : ParseState) (tree : Tree) : Prop :=
  ∀ node ∈ tree.preorder, node.WellFormed state

variable {state : ParseState}

theorem Tree.AllWellFormed.node {label : Label} {children : List Tree}
    (own : (Tree.node label children).WellFormed state)
    (parts : ∀ child ∈ children, child.AllWellFormed state) :
    (Tree.node label children).AllWellFormed state := forall_mem_preorder.mpr ⟨own, parts⟩

theorem Tree.AllWellFormed.self {label : Label} {children : List Tree}
    (formed : (Tree.node label children).AllWellFormed state) :
    (Tree.node label children).WellFormed state := (forall_mem_preorder.mp formed).1

theorem Tree.AllWellFormed.parts {label : Label} {children : List Tree}
    (formed : (Tree.node label children).AllWellFormed state) :
    ∀ child ∈ children, child.AllWellFormed state := (forall_mem_preorder.mp formed).2

/-- Every part of a well-formed tree is a well-formed tree. -/
theorem Tree.AllWellFormed.part {tree node : Tree} (formed : tree.AllWellFormed state)
    (inside : node ∈ tree.preorder) : node.AllWellFormed state :=
  fun _ deeper => formed _ (mem_preorder_trans inside deeper)

/-- A leaf of a tree has no parts to check. -/
theorem Tree.AllWellFormed.leaf {label : Label} (own : (Tree.node label []).WellFormed state) :
    (Tree.node label []).AllWellFormed state :=
  .node own fun child inside => by cases inside

/-- A node that neither is a constant nor a variable. -/
theorem Tree.WellFormed.inner {kind : NodeKind} {line : Nat} {text : Option String}
    {children : List Tree} (shaped : Shaped kind children) (noLeaf : kind.isLeaf = false) :
    (Tree.node ⟨kind, line, text, .nothing, none⟩ children).WellFormed state where
  shaped := shaped
  valued := by
    refine .other ?_ ?_ ?_ rfl <;>
    · rintro rfl
      cases noLeaf
  bound := by
    refine .other ?_ rfl
    rintro rfl
    cases noLeaf

theorem Variable.wellFormed_toTree {source : Variable} (bound : source.Bound state) :
    source.toTree.AllWellFormed state :=
  .leaf ⟨.leaf rfl, .other nofun nofun nofun rfl, .reference source rfl rfl rfl rfl bound⟩

theorem Expression.isExpression_toTree (source : Expression) :
    source.toTree.kind.isExpression = true := by
  cases source <;> rfl

theorem Tree.AllWellFormed.single {tree : Tree} (formed : tree.AllWellFormed state) :
    ∀ child ∈ [tree], child.AllWellFormed state := List.forall_mem_singleton.mpr formed

theorem Tree.AllWellFormed.cons {first : Tree} {others : List Tree}
    (formed : first.AllWellFormed state)
    (othersFormed : ∀ child ∈ others, child.AllWellFormed state) :
    ∀ child ∈ first :: others, child.AllWellFormed state :=
  List.forall_mem_cons.mpr ⟨formed, othersFormed⟩

theorem AllBound.parts {first second : List Variable} (bound : AllBound state (first ++ second)) :
    AllBound state first ∧ AllBound state second :=
  ⟨fun source inside => bound source (List.mem_append_left _ inside),
    fun source inside => bound source (List.mem_append_right _ inside)⟩

theorem Expression.wellFormed_toTree {source : Expression}
    (bound : AllBound state source.variables) : source.toTree.AllWellFormed state := by
  induction source with
  | reference source => exact source.wellFormed_toTree (bound source (List.mem_singleton_self _))
  | integer mark number => exact .leaf ⟨.leaf rfl, .integer number rfl rfl, .other nofun rfl⟩
  | real mark number => exact .leaf ⟨.leaf rfl, .real number rfl rfl, .other nofun rfl⟩
  | unary operator mark operand inductionHypothesis =>
      exact .node (.inner (.unary operand.isExpression_toTree) rfl)
        (.single (inductionHypothesis bound))
  | binary operator mark left right leftFormed rightFormed =>
      obtain ⟨leftBound, rightBound⟩ := bound.parts
      exact .node (.inner (.binary left.isExpression_toTree right.isExpression_toTree) rfl)
        (.cons (leftFormed leftBound) (.single (rightFormed rightBound)))

theorem testTree_wellFormed {test : Mark} {condition : Tree}
    (conditionKind : condition.kind.isExpression = true)
    (formed : condition.AllWellFormed state) : (testTree test condition).AllWellFormed state :=
  .node (.inner (.test conditionKind) rfl) (.single formed)

theorem Width.wellFormed_toTree (width : Width) : width.toTree.AllWellFormed state :=
  .leaf ⟨.leaf rfl, .integer width.number rfl rfl, .other nofun rfl⟩

theorem Argument.written_toTrees (argument : Argument) : Written argument.toTrees := by
  obtain ⟨item, format⟩ := argument
  have itemKind : item.toTree.kind = .reference ∨ item.toTree.kind = .stringConstant := by
    cases item with
    | reference => exact .inl rfl
    | string => exact .inr rfl
  cases format with
  | plain => exact ⟨⟨_, [], rfl, itemKind, nofun⟩, by simp [toTrees, Format.toTrees]⟩
  | field width =>
      refine ⟨⟨_, [width.toTree], rfl, itemKind, ?_⟩, by simp [toTrees, Format.toTrees]⟩
      exact List.forall_mem_singleton.mpr rfl
  | fixed width places =>
      refine ⟨⟨_, [width.toTree, places.toTree], rfl, itemKind, ?_⟩,
        by simp [toTrees, Format.toTrees]⟩
      exact List.forall_mem_cons.mpr ⟨rfl, List.forall_mem_singleton.mpr rfl⟩

theorem Argument.wellFormed_toTrees {argument : Argument}
    (bound : AllBound state argument.variables) :
    ∀ child ∈ argument.toTrees, child.AllWellFormed state := by
  obtain ⟨item, format⟩ := argument
  refine .cons ?_ ?_
  · cases item with
    | reference source => exact source.wellFormed_toTree (bound source (List.mem_singleton_self _))
    | string mark content => exact .leaf ⟨.leaf rfl, .string content rfl rfl, .other nofun rfl⟩
  · cases format with
    | plain => exact nofun
    | field width => exact .single width.wellFormed_toTree
    | fixed width places => exact .cons width.wellFormed_toTree (.single places.wellFormed_toTree)

theorem Statement.isStatement_toTrees (body : List Statement) :
    ∀ part ∈ Statement.toTrees body, part.kind.isStatement = true := by
  intro part inside
  rw [Statement.toTrees_eq_map] at inside
  obtain ⟨statement, _, rfl⟩ := List.mem_map.mp inside
  exact statement.isStatement_toTree

/-- The statements of a body are bound one by one. -/
theorem Statement.bound_of_allVariables {body : List Statement}
    (bound : AllBound state (Statement.allVariables body)) :
    ∀ part ∈ body, AllBound state part.variables := by
  induction body with
  | nil => exact nofun
  | cons first others inductionHypothesis =>
      obtain ⟨firstBound, othersBound⟩ := bound.parts
      intro part inside
      rcases List.mem_cons.mp inside with rfl | inside
      · exact firstBound
      · exact inductionHypothesis othersBound part inside

/-- The trees of a body are well formed when those of its statements are. -/
theorem Statement.wellFormed_toTrees {body : List Statement}
    (parts : ∀ part ∈ body, AllBound state part.variables → part.toTree.AllWellFormed state)
    (bound : AllBound state (Statement.allVariables body)) :
    ∀ child ∈ Statement.toTrees body, child.AllWellFormed state := by
  intro child inside
  rw [Statement.toTrees_eq_map] at inside
  obtain ⟨part, member, rfl⟩ := List.mem_map.mp inside
  exact parts part member (Statement.bound_of_allVariables bound part member)

theorem Statement.wellFormed_toTree (statement : Statement) :
    AllBound state statement.variables → statement.toTree.AllWellFormed state := by
  induction statement using Statement.inductionOn with
  | empty line => exact fun _ => .leaf (.inner (.compound nofun) rfl)
  | compound line body parts =>
      intro bound
      exact .node (.inner (.compound (Statement.isStatement_toTrees body)) rfl)
        (Statement.wellFormed_toTrees parts bound)
  | assign line target value =>
      intro bound
      have targetBound := bound target List.mem_cons_self
      have valueBound : AllBound state value.variables :=
        fun source inside => bound source (List.mem_cons_of_mem _ inside)
      exact .node (.inner (.assign rfl value.isExpression_toTree) rfl)
        (.cons (target.wellFormed_toTree targetBound)
          (.single (value.wellFormed_toTree valueBound)))
  | repeatUntil line body test condition parts =>
      intro bound
      obtain ⟨bodyBound, conditionBound⟩ := bound.parts
      refine .node (.inner (.posttest (Statement.isStatement_toTrees body) rfl) rfl) ?_
      intro child inside
      rcases List.mem_append.mp inside with inside | inside
      · exact Statement.wellFormed_toTrees parts bodyBound child inside
      · rw [List.mem_singleton.mp inside]
        exact testTree_wellFormed condition.isExpression_toTree (condition.wellFormed_toTree conditionBound)
  | whileDo line test condition bodyLine body parts =>
      intro bound
      obtain ⟨conditionBound, bodyBound⟩ := bound.parts
      have conditionKind := condition.isExpression_toTree
      have negation : (Tree.node (test.label (.unary .negation) .nothing)
          [condition.toTree]).AllWellFormed state :=
        .node (.inner (.unary conditionKind) rfl) (.single (condition.wellFormed_toTree conditionBound))
      refine .node (.inner (.pretest rfl rfl conditionKind rfl) rfl) (.cons ?_ (.single ?_))
      · exact testTree_wellFormed rfl negation
      · exact .node (.inner (.compound (Statement.isStatement_toTrees body)) rfl)
          (Statement.wellFormed_toTrees parts bodyBound)
  | ifThen line test condition branch branchFormed =>
      intro bound
      obtain ⟨conditionBound, branchBound⟩ := bound.parts
      refine .node (.inner (.ifThen rfl branch.isStatement_toTree) rfl)
        (.cons ?_ (.single (branchFormed branchBound)))
      exact testTree_wellFormed condition.isExpression_toTree
        (condition.wellFormed_toTree conditionBound)
  | ifElse line test condition branch otherwise branchFormed otherwiseFormed =>
      intro bound
      obtain ⟨bothBound, otherwiseBound⟩ := bound.parts
      obtain ⟨conditionBound, branchBound⟩ := bothBound.parts
      refine .node (.inner (.ifElse rfl branch.isStatement_toTree otherwise.isStatement_toTree) rfl)
        (.cons ?_ (.cons (branchFormed branchBound) (.single (otherwiseFormed otherwiseBound))))
      exact testTree_wellFormed condition.isExpression_toTree
        (condition.wellFormed_toTree conditionBound)
  | write line argument =>
      intro bound
      exact .node (.inner (.write argument.written_toTrees) rfl) (argument.wellFormed_toTrees bound)
  | writeln line argument =>
      intro bound
      cases argument with
      | none => exact .leaf (.inner .writelnPlain rfl)
      | some argument =>
          exact .node (.inner (.writeln argument.written_toTrees) rfl)
            (argument.wellFormed_toTrees bound)

/-- The tree of a program whose variables are bound is well formed. -/
theorem Program.wellFormed_toTree {program : Program}
    (bound : AllBound state (Statement.allVariables program.body)) :
    program.toTree.AllWellFormed state :=
  .node (.inner (.program rfl) rfl)
    (.single (Statement.wellFormed_toTree (.compound program.bodyLine program.body) bound))

section Syntax

/-- The trees of what a program is written of. The widths of a layout are constants. -/
inductive Tree.OfSyntax : Tree → Prop where
  | program (program : Program) : OfSyntax program.toTree
  | statement (statement : Statement) : OfSyntax statement.toTree
  | test (mark : Mark) (condition : Expression) : OfSyntax (testTree mark condition.toTree)
  | expression (source : Expression) : OfSyntax source.toTree
  | string (mark : Mark) (content : String) : OfSyntax (Item.string mark content).toTree

/-- Every node of a tree is the tree of a part of a program. -/
def Tree.AllOfSyntax (tree : Tree) : Prop := ∀ node ∈ tree.preorder, node.OfSyntax

theorem Tree.AllOfSyntax.node {label : Label} {children : List Tree}
    (own : (Tree.node label children).OfSyntax) (parts : ∀ child ∈ children, child.AllOfSyntax) :
    (Tree.node label children).AllOfSyntax := forall_mem_preorder.mpr ⟨own, parts⟩

theorem Expression.allOfSyntax (source : Expression) : source.toTree.AllOfSyntax := by
  induction source with
  | reference source => exact .node (.expression (.reference source)) nofun
  | integer mark number => exact .node (.expression (.integer mark number)) nofun
  | real mark number => exact .node (.expression (.real mark number)) nofun
  | unary operator mark operand inductionHypothesis =>
      exact .node (.expression (.unary operator mark operand))
        (List.forall_mem_singleton.mpr inductionHypothesis)
  | binary operator mark left right leftParts rightParts =>
      exact .node (.expression (.binary operator mark left right))
        (List.forall_mem_cons.mpr ⟨leftParts, List.forall_mem_singleton.mpr rightParts⟩)

theorem testTree_allOfSyntax (test : Mark) (condition : Expression) :
    (testTree test condition.toTree).AllOfSyntax :=
  .node (.test test condition) (List.forall_mem_singleton.mpr condition.allOfSyntax)

/-- The widths of a layout, in the order in which they are written. -/
def Format.widths : Format → List Width
  | .plain => []
  | .field width => [width]
  | .fixed width places => [width, places]

theorem Format.toTrees_eq_map (format : Format) :
    format.toTrees = format.widths.map Width.toTree := by
  cases format <;> rfl

theorem Argument.allOfSyntax (argument : Argument) :
    ∀ part ∈ argument.toTrees, part.AllOfSyntax := by
  obtain ⟨item, format⟩ := argument
  refine List.forall_mem_cons.mpr ⟨?_, ?_⟩
  · cases item with
    | reference source => exact (Expression.reference source).allOfSyntax
    | string mark content => exact .node (.string mark content) nofun
  · rw [Format.toTrees_eq_map]
    exact List.forall_mem_map.mpr fun width _ =>
      (Expression.integer width.mark width.number).allOfSyntax

theorem Statement.allOfSyntax_toTrees {body : List Statement}
    (parts : ∀ part ∈ body, part.toTree.AllOfSyntax) :
    ∀ part ∈ Statement.toTrees body, part.AllOfSyntax := by
  rw [Statement.toTrees_eq_map]
  exact List.forall_mem_map.mpr parts

theorem Statement.allOfSyntax (statement : Statement) : statement.toTree.AllOfSyntax := by
  induction statement using Statement.inductionOn with
  | empty line => exact .node (.statement (.empty line)) nofun
  | compound line body parts =>
      exact .node (.statement (.compound line body)) (Statement.allOfSyntax_toTrees parts)
  | assign line target value =>
      exact .node (.statement (.assign line target value)) (List.forall_mem_cons.mpr
        ⟨(Expression.reference target).allOfSyntax, List.forall_mem_singleton.mpr value.allOfSyntax⟩)
  | repeatUntil line body test condition parts =>
      refine .node (.statement (.repeatUntil line body test condition)) ?_
      exact List.forall_mem_append.mpr ⟨Statement.allOfSyntax_toTrees parts,
        List.forall_mem_singleton.mpr (testTree_allOfSyntax test condition)⟩
  | whileDo line test condition bodyLine body parts =>
      -- The tree of the loop negates its condition.
      have tested := testTree_allOfSyntax test (.unary .negation test condition)
      have bodyParts := Tree.AllOfSyntax.node (.statement (.compound bodyLine body))
        (Statement.allOfSyntax_toTrees parts)
      exact .node (.statement (.whileDo line test condition bodyLine body))
        (List.forall_mem_cons.mpr ⟨tested, List.forall_mem_singleton.mpr bodyParts⟩)
  | ifThen line test condition branch branchParts =>
      exact .node (.statement (.ifThen line test condition branch)) (List.forall_mem_cons.mpr
        ⟨testTree_allOfSyntax test condition, List.forall_mem_singleton.mpr branchParts⟩)
  | ifElse line test condition branch otherwise branchParts otherwiseParts =>
      exact .node (.statement (.ifElse line test condition branch otherwise))
        (List.forall_mem_cons.mpr ⟨testTree_allOfSyntax test condition, List.forall_mem_cons.mpr
          ⟨branchParts, List.forall_mem_singleton.mpr otherwiseParts⟩⟩)
  | write line argument => exact .node (.statement (.write line argument)) argument.allOfSyntax
  | writeln line argument =>
      cases argument with
      | none => exact .node (.statement (.writeln line none)) nofun
      | some argument => exact .node (.statement (.writeln line argument)) argument.allOfSyntax

/-- Every node of the tree of a program is the tree of a part of it. -/
theorem Program.allOfSyntax (program : Program) : program.toTree.AllOfSyntax :=
  .node (.program program) (List.forall_mem_singleton.mpr
    (Statement.compound program.bodyLine program.body).allOfSyntax)

end Syntax

end MiniPascal
