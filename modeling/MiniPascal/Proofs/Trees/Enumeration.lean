/-
This file shows that the outline, the drawing and the structured value of a tree go through the same
nodes in the same order.
-/

import MiniPascal.Graph
import MiniPascal.JsonView
import MiniPascal.Outline
import MiniPascal.Proofs.Trees.Places

namespace MiniPascal

namespace Tree

/-- A line stands two columns to the right of the one of its parent and names its role there. -/
def followLine (place : Int × String) (node : Tree) (index : Nat) : Int × String :=
  (place.1 + 2, node.label.kind.role index)

def lineAt (visit : (Int × String) × Tree) : String :=
  String.ofList (List.replicate visit.1.1.toNat ' ') ++ visit.1.2 ++ visit.2.label.caption

mutual

/-- An outline has one line for every visit. -/
theorem outlineLines_eq_map (indent : Int) (role : String) (tree : Tree) :
    tree.outlineLines indent role = (visits followLine (indent, role) tree).map lineAt := by
  cases tree with
  | node label children =>
      rw [outlineLines, visits, List.map_cons]
      exact congrArg _ (outlineAll_eq_map (indent, role) (.node label children) 0 children)

theorem outlineAll_eq_map (place : Int × String) (parent : Tree) (index : Nat) (trees : List Tree) :
    outlineAll (place.1 + 2) parent.label.kind index trees =
      (visitsAll followLine (followLine place parent) index trees).map lineAt := by
  cases trees with
  | nil => rfl
  | cons tree trees =>
      rw [outlineAll, visitsAll, List.map_append, outlineLines_eq_map, outlineAll_eq_map]
      rfl

end

end Tree

namespace Graph

open MiniPascal.Tree

/-- A child keeps the number of its parent. -/
def followVertex (place : Option Nat × Nat) (node : Tree) (index : Nat) : Option Nat × Nat :=
  (some place.2, followNumber place.2 node index)

def vertexAt (visit : (Option Nat × Nat) × Tree) : Vertex :=
  ⟨visit.1.2, visit.1.1, visit.2.label, visit.2.surface⟩

mutual

/-- The tree on the top of the stack is drawn node by node before the rest of the stack. -/
theorem walk_cons (place : Option Nat × Nat) (tree : Tree) (stack : List Waiting) :
    walk place.2 (⟨place.1, tree⟩ :: stack) =
      (visits followVertex place tree).map vertexAt ++
        walk (place.2 + tree.preorder.length) stack := by
  cases tree with
  | node label children =>
      rw [walk, push_eq_append, visits, List.map_cons, List.cons_append]
      refine congrArg _ ((walk_append place label [] children stack).trans ?_)
      rw [preorder, List.length_cons, ← Nat.add_assoc, Nat.add_right_comm]
      rfl

/-- Children on the top of the stack are drawn behind those on their left. -/
theorem walk_append (place : Option Nat × Nat) (label : Label) (front trees : List Tree)
    (stack : List Waiting) :
    walk (place.2 + 1 + (preorderAll front).length)
        (trees.map (Waiting.mk (some place.2)) ++ stack) =
      (visitsAll followVertex (followVertex place (.node label (front ++ trees))) front.length
          trees).map vertexAt ++
        walk (place.2 + 1 + (preorderAll (front ++ trees)).length) stack := by
  cases trees with
  | nil => rw [List.append_nil]; rfl
  | cons tree trees =>
      have others := walk_append place label (front ++ [tree]) trees stack
      have start : followVertex place (.node label (front ++ tree :: trees)) front.length =
          (some place.2, place.2 + 1 + (preorderAll front).length) := by
        simp [followVertex, followNumber, children]
      rw [List.append_assoc, List.length_append, preorderAll_eq_flatMap (front ++ [tree]),
        List.flatMap_append, ← preorderAll_eq_flatMap, List.length_append] at others
      have first := walk_cons (some place.2, place.2 + 1 + (preorderAll front).length) tree
        (trees.map (Waiting.mk (some place.2)) ++ stack)
      rw [List.map_cons, List.cons_append, first, visitsAll, List.map_append, start,
        List.append_assoc]
      refine congrArg _ (Eq.trans ?_ others)
      simp [Nat.add_assoc]

end

end Graph

namespace Json

/-- What an object has under a key. -/
def member? (key : String) : Json → Option Json
  | object members => (members.find? (·.1 = key)).map Prod.snd
  | _ => none

mutual

/-- The objects of a value, every one before those that it has as its children. -/
def objects : Json → List Json
  | object members => object members :: objectsUnder members
  | _ => []

def objectsUnder : List (String × Json) → List Json
  | [] => []
  | (key, array elements) :: members =>
      (if key = "children" then objectsIn elements else []) ++ objectsUnder members
  | _ :: members => objectsUnder members

def objectsIn : List Json → List Json
  | [] => []
  | element :: elements => objects element ++ objectsIn elements

end

theorem objectsUnder_append (members others : List (String × Json)) :
    objectsUnder (members ++ others) = objectsUnder members ++ objectsUnder others := by
  induction members with
  | nil => rfl
  | cons member members inductionHypothesis =>
      obtain ⟨key, value⟩ := member
      cases value <;> simp [objectsUnder, inductionHypothesis]

end Json

/-- The members of a label hold no children. -/
theorem Label.objectsUnder_toMembers (label : Label) : Json.objectsUnder label.toMembers = [] := by
  obtain ⟨kind, line, text, value, binding⟩ := label
  cases text <;> cases value <;> cases binding <;>
    simp [toMembers, Json.objectsUnder, Value.isNothing, Value.toJson]

namespace Tree

mutual

/-- The objects of the value of a tree are those of its nodes, in preorder. -/
theorem objects_toJson (tree : Tree) : tree.toJson.objects = tree.preorder.map toJson := by
  cases tree with
  | node label children =>
      have under := objectsIn_toJsons children
      rw [preorder, List.map_cons, toJson, Json.objects, Json.objectsUnder_append,
        label.objectsUnder_toMembers, List.nil_append]
      refine congrArg _ ?_
      cases children with
      | nil => rfl
      | cons first others => simpa [Json.objectsUnder] using under

theorem objectsIn_toJsons (trees : List Tree) :
    Json.objectsIn (toJsons trees) = (preorderAll trees).map toJson := by
  cases trees with
  | nil => rfl
  | cons tree trees =>
      rw [toJsons, Json.objectsIn, preorderAll, List.map_append, objects_toJson, objectsIn_toJsons]

end

/-- The node with a number, and the path to it. -/
structure Numbered (tree : Tree) (number : Nat) (path : List Nat) (node : Tree) : Prop where
  node : tree.preorder[number]? = some node
  path : tree.paths[number]? = some path

theorem Numbered.visit {tree node : Tree} {number : Nat} {path : List Nat}
    (numbered : tree.Numbered number path node) :
    (visits followPath [] tree)[number]? = some (path, node) := by
  obtain ⟨here, there⟩ := numbered
  rw [← map_snd_visits followPath [], List.getElem?_map] at here
  rw [paths, List.getElem?_map] at there
  cases found : (visits followPath [] tree)[number]? with
  | none =>
      rw [found] at here
      cases here
  | some visit =>
      rw [found] at here there
      cases here
      cases there
      rfl

end Tree

namespace Graph

end Graph

namespace Tree

end Tree

end MiniPascal
