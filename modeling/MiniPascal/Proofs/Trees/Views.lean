/-
This file shows that a well-formed tree has everything that its views look up: no role of a child
and no part of a text is missing.
-/

import MiniPascal.Graph
import MiniPascal.JsonView
import MiniPascal.Outline
import MiniPascal.Proofs.Trees.Shape

namespace MiniPascal

/-- The role of a child, if its place has one. -/
def NodeKind.role? (kind : NodeKind) (index : Nat) : Option String :=
  match kind with
  | .assign => ["target: ", "value: "][index]?
  | .conditional => ["test: ", "then: ", "else: "][index]?
  | .write | .writeln => ["value: ", "width: ", "decimals: "][index]?
  | .compound | .loop => some ("stmt[" ++ toString index ++ "]: ")
  | .binary _ => ["left: ", "right: "][index]?
  | _ => some ""

/-- A place within a list of roles has a role. -/
theorem getElem?_eq_getD {roles : List String} {index : Nat} (inside : index < roles.length) :
    roles[index]? = some (roles.getD index "") := by
  rw [List.getD_eq_getElem?_getD, List.getElem?_eq_getElem inside]
  rfl

/-- Every child of a well-formed node has a role. -/
theorem Shaped.role? {kind : NodeKind} {children : List Tree} (shaped : Shaped kind children)
    {index : Nat} (inside : index < children.length) :
    kind.role? index = some (kind.role index) := by
  cases shaped with
  | assign | ifThen | ifElse | binary =>
      exact getElem?_eq_getD (Nat.lt_of_lt_of_le inside (by simp))
  | write written | writeln written =>
      exact getElem?_eq_getD (Nat.lt_of_lt_of_le inside written.count)
  | leaf => cases inside
  | writelnPlain => cases inside
  | _ => rfl

namespace Tree

mutual

/-- The lines of a tree, unless a child has no role. -/
def outlineLines? (indent : Int) (role : String) : Tree → Option (List String)
  | node label children => do
      let lines ← outlineAll? (indent + 2) label.kind 0 children
      return (String.ofList (List.replicate indent.toNat ' ') ++ role ++ label.caption) :: lines

def outlineAll? (indent : Int) (parent : NodeKind) (index : Nat) :
    List Tree → Option (List String)
  | [] => some []
  | tree :: trees => do
      let role ← parent.role? index
      let first ← outlineLines? indent role tree
      let others ← outlineAll? indent parent (index + 1) trees
      return first ++ others

end

/-- Trees whose places have roles have all their lines when each of them has. -/
theorem outlineAll?_eq {indent : Int} {parent : NodeKind} {index : Nat} {trees : List Tree}
    (roles : ∀ place, place < trees.length →
      parent.role? (index + place) = some (parent.role (index + place)))
    (parts : ∀ tree ∈ trees, ∀ role,
      outlineLines? indent role tree = some (outlineLines indent role tree)) :
    outlineAll? indent parent index trees = some (outlineAll indent parent index trees) := by
  induction trees generalizing index with
  | nil => rfl
  | cons tree trees inductionHypothesis =>
      have role := roles 0 (Nat.succ_pos _)
      have others : outlineAll? indent parent (index + 1) trees =
          some (outlineAll indent parent (index + 1) trees) := by
        refine inductionHypothesis (fun place inside => ?_) fun part inside =>
          parts part (List.mem_cons_of_mem _ inside)
        rw [Nat.add_assoc, Nat.add_comm 1]
        exact roles (place + 1) (Nat.succ_lt_succ inside)
      rw [Nat.add_zero] at role
      rw [outlineAll?, role, outlineAll, others]
      simp [parts tree List.mem_cons_self]

variable {state : ParseState}

/-- The outline of a well-formed tree looks up existing roles only. -/
theorem AllWellFormed.outlineLines? {tree : Tree} (formed : tree.AllWellFormed state)
    (indent : Int) (role : String) :
    tree.outlineLines? indent role = some (tree.outlineLines indent role) := by
  induction tree using Tree.inductionOn generalizing indent role with
  | node label children inductionHypothesis =>
      have lines : outlineAll? (indent + 2) label.kind 0 children =
          some (outlineAll (indent + 2) label.kind 0 children) := by
        refine outlineAll?_eq (fun place inside => ?_) fun child inside =>
          inductionHypothesis child inside (formed.parts child inside) (indent + 2)
        rw [Nat.zero_add]
        exact formed.self.shaped.role? inside
      rw [Tree.outlineLines?, lines, Tree.outlineLines]
      rfl

end Tree

/-- The text of the part at an index, if there is such a part and it has a text. -/
def partText? (parts : List Surface) (index : Nat) : Option String :=
  parts[index]?.bind (·.text)

/-- The text of a node, unless a part of it, or a text or a value that it needs, is missing. -/
def strictText? (label : Label) (parts : List Surface) : Option String :=
  match label.kind with
  | .program => some ("program " ++ shown label.text)
  | .compound => some "begin ... end"
  | .assign => do return (← partText? parts 0) ++ " := " ++ (← partText? parts 1)
  | .loop => some "loop"
  | .test => do return "exit when " ++ (← partText? parts 0)
  | .conditional => do
      let guard ← (← parts[0]?).parts[0]?
      return "if " ++ (← guard)
  | .write | .writeln => do
      let word := if label.kind = .write then "write" else "writeln"
      if parts.isEmpty then return word
      else
        let texts ← parts.mapM (·.text)
        return word ++ "(" ++ ":".intercalate texts ++ ")"
  | .reference => label.text
  | .integerConstant | .realConstant => some (label.text.getD label.value.plain)
  | .stringConstant =>
      match label.value with
      | .text content => some (stringLiteral content)
      | _ => none
  | .unary operator => do return operator.spelling ++ (← partText? parts 0)
  | .binary operator => do
      let left ← partText? parts 0
      let right ← partText? parts 1
      return "(" ++ left ++ " " ++ label.text.getD operator.spelling ++ " " ++ right ++ ")"

namespace Tree

mutual

/-- The texts of a tree that are found without any part missing. -/
def strictSurface : Tree → Surface
  | node label children =>
      let parts := strictSurfaces children
      ⟨strictText? label parts, parts.map (·.text)⟩

def strictSurfaces : List Tree → List Surface
  | [] => []
  | tree :: trees => strictSurface tree :: strictSurfaces trees

end

theorem strictSurfaces_eq_map (trees : List Tree) :
    strictSurfaces trees = trees.map strictSurface := by
  induction trees with
  | nil => rfl
  | cons tree trees inductionHypothesis => simp [strictSurfaces, inductionHypothesis]

variable {state : ParseState}

/-- The tree and all its children have texts. -/
structure HasTexts (tree : Tree) : Prop where
  text : ∃ text, tree.toSurface.text = some text
  parts : ∀ part ∈ tree.toSurface.parts, ∃ text, part = some text

/-- The guard of a conditional is the text of what its test holds. -/
theorem AllWellFormed.guard {test : Tree} (formed : test.AllWellFormed state)
    (kind : test.kind = .test) (texts : test.HasTexts) :
    ∃ text, test.toSurface.parts[0]? = some (some text) := by
  obtain ⟨label, children⟩ := test
  have shaped : Shaped .test children := kind ▸ formed.self.shaped
  cases shaped with
  | @test condition conditionKind =>
      obtain ⟨text, same⟩ := texts.parts condition.toSurface.text List.mem_cons_self
      exact ⟨text, by rw [← same]; rfl⟩
  | leaf isLeaf => cases isLeaf

/-- The texts of what is written are all there. -/
theorem mapM_text {children : List Tree} (texts : ∀ child ∈ children, child.HasTexts) :
    (children.map toSurface).mapM (·.text) =
      some ((children.map toSurface).map fun part => shown part.text) := by
  induction children with
  | nil => rfl
  | cons child children inductionHypothesis =>
      obtain ⟨text, same⟩ := (texts child List.mem_cons_self).text
      have others := inductionHypothesis fun part inside => texts part (List.mem_cons_of_mem _ inside)
      simp [others, same, shown]

/-- A well-formed node whose parts have their texts has its own text, without any part missing. -/
theorem AllWellFormed.strictText? {label : Label} {children : List Tree}
    (formed : (Tree.node label children).AllWellFormed state)
    (texts : ∀ child ∈ children, child.HasTexts) :
    (∃ text, surfaceText label (children.map toSurface) = some text) ∧
      MiniPascal.strictText? label (children.map toSurface) =
        surfaceText label (children.map toSurface) := by
  have part (index : Nat) (inside : index < children.length) :
      partText? (children.map toSurface) index =
        some (partText (children.map toSurface) index) := by
    obtain ⟨text, same⟩ := (texts children[index] (List.getElem_mem inside)).text
    simp [partText?, partText, inside, same, shown]
  obtain ⟨kind, line, labelText, value, binding⟩ := label
  have shaped : Shaped kind children := formed.self.shaped
  have valued := formed.self.valued
  have bound := formed.self.bound
  cases shaped with
  | program | compound | pretest | posttest | writelnPlain => exact ⟨⟨_, rfl⟩, rfl⟩
  | assign | binary =>
      have first := part 0 (by simp)
      have second := part 1 (by simp)
      refine ⟨⟨_, rfl⟩, ?_⟩
      simp only [MiniPascal.strictText?, first, second]
      rfl
  | test | unary =>
      have first := part 0 (by simp)
      refine ⟨⟨_, rfl⟩, ?_⟩
      simp only [MiniPascal.strictText?, first]
      rfl
  | write written | writeln written =>
      obtain ⟨item, sizes, rfl, _⟩ := written.item
      refine ⟨⟨_, rfl⟩, ?_⟩
      rw [MiniPascal.strictText?, mapM_text texts]
      rfl
  | ifThen testKind | ifElse testKind =>
      obtain ⟨text, guard⟩ := (formed.parts _ List.mem_cons_self).guard testKind
        (texts _ List.mem_cons_self)
      refine ⟨⟨_, rfl⟩, ?_⟩
      simp [MiniPascal.strictText?, surfaceText, guard, shown]
  | leaf isLeaf =>
      cases kind with
      | reference =>
          cases bound with
          | reference source _ text => exact ⟨⟨_, text⟩, rfl⟩
          | other noReference => exact absurd rfl noReference
      | integerConstant | realConstant => exact ⟨⟨_, rfl⟩, rfl⟩
      | stringConstant =>
          cases valued with
          | string content _ same =>
              obtain rfl : value = .text content := same
              exact ⟨⟨_, rfl⟩, rfl⟩
          | integer _ other => cases other
          | real _ other => cases other
          | other _ _ noString => exact absurd rfl noString
      | _ => cases isLeaf

/-- The text of a well-formed tree is found without any part missing, and there is one. -/
theorem AllWellFormed.strictSurface {tree : Tree} (formed : tree.AllWellFormed state) :
    tree.strictSurface = tree.toSurface ∧ tree.HasTexts := by
  induction tree using Tree.inductionOn with
  | node label children inductionHypothesis =>
      have parts := fun child inside =>
        inductionHypothesis child inside (formed.parts child inside)
      have same : children.map Tree.strictSurface = children.map Tree.toSurface :=
        List.map_congr_left fun child inside => (parts child inside).1
      obtain ⟨some, text⟩ := formed.strictText? fun child inside => (parts child inside).2
      refine ⟨?_, ?_, ?_⟩
      · rw [Tree.strictSurface, toSurface, strictSurfaces_eq_map, toSurfaces_eq_map, same, text]
      · rw [toSurface, toSurfaces_eq_map]
        exact some
      · intro part inside
        rw [toSurface, toSurfaces_eq_map, List.map_map] at inside
        obtain ⟨child, member, rfl⟩ := List.mem_map.mp inside
        exact (parts child member).2.text

end Tree

end MiniPascal
