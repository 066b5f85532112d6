/-
This file says where the nodes of a tree are: a path leads to each of them, and its number is its place
in the order in which all views go through the tree.
-/

import MiniPascal.Tree
import Mathlib.Data.List.Induction
import Mathlib.Data.List.Nodup

namespace MiniPascal

namespace Tree

/-- The node at the end of a path, which names a child at each step down from the root. -/
def at? : Tree → List Nat → Option Tree
  | tree, [] => some tree
  | tree, index :: path => tree.children[index]?.bind (at? · path)

/-- The count of nodes before the node at the end of a path: its ancestors, and the trees of their
children on its left. -/
def rank : Tree → List Nat → Nat
  | _, [] => 0
  | tree, index :: path =>
      1 + (preorderAll (tree.children.take index)).length +
        (tree.children[index]?.map (rank · path)).getD 0

/-- The path to a child goes through its parent. -/
theorem at?_append (tree : Tree) (front path : List Nat) :
    tree.at? (front ++ path) = (tree.at? front).bind (at? · path) := by
  induction front generalizing tree with
  | nil => rfl
  | cons index front inductionHypothesis =>
      rw [List.cons_append, at?, at?]
      cases tree.children[index]? with
      | none => rfl
      | some child => exact inductionHypothesis child

theorem at?_singleton (tree : Tree) (index : Nat) : tree.at? [index] = tree.children[index]? :=
  Option.bind_fun_some _

theorem at?_concat {tree node : Tree} {path : List Nat} (found : tree.at? path = some node)
    (index : Nat) : tree.at? (path ++ [index]) = node.children[index]? := by
  rw [at?_append, found]
  exact node.at?_singleton index

section Visits

variable {σ : Type} {pass : σ → Tree → Nat → σ}

mutual

/-- The nodes of a tree in preorder, with what they inherit. The root inherits `start`, and each child
what its parent passes on to its place. -/
def visits (pass : σ → Tree → Nat → σ) (start : σ) : Tree → List (σ × Tree)
  | node label children =>
      (start, node label children) ::
        visitsAll pass (pass start (node label children)) 0 children

def visitsAll (pass : σ → Tree → Nat → σ) (passed : Nat → σ) (index : Nat) :
    List Tree → List (σ × Tree)
  | [] => []
  | tree :: trees => visits pass (passed index) tree ++ visitsAll pass passed (index + 1) trees

end

mutual

theorem map_snd_visits (pass : σ → Tree → Nat → σ) (start : σ) (tree : Tree) :
    (visits pass start tree).map Prod.snd = tree.preorder := by
  cases tree with
  | node label children => simp [visits, preorder, map_snd_visitsAll]

theorem map_snd_visitsAll (pass : σ → Tree → Nat → σ) (passed : Nat → σ) (index : Nat)
    (trees : List Tree) :
    (visitsAll pass passed index trees).map Prod.snd = preorderAll trees := by
  cases trees with
  | nil => rfl
  | cons tree trees =>
      simp [visitsAll, preorderAll, map_snd_visits, map_snd_visitsAll]

end

end Visits

/-- The way from the root to the nodes that are visited. -/
def followPath (path : List Nat) (_ : Tree) (index : Nat) : List Nat := path ++ [index]

/-- The paths to all nodes of a tree, in preorder. -/
def paths (tree : Tree) : List (List Nat) := (visits followPath [] tree).map Prod.fst

section Paths

variable {σ : Type} (pass : σ → Tree → Nat → σ) (change : List Nat → σ) {root : Tree}

mutual

/-- What all nodes inherit is a function of their paths when each step down agrees with it. -/
theorem visits_eq_map
    (step : ∀ path node index, root.at? path = some node →
      pass (change path) node index = change (path ++ [index]))
    (path : List Nat) (tree : Tree) (found : root.at? path = some tree) :
    visits pass (change path) tree = (visits followPath path tree).map (Prod.map change id) := by
  cases tree with
  | node label children =>
      rw [visits, visits, List.map_cons]
      exact congrArg _ (visitsAll_eq_map step path [] children found)

theorem visitsAll_eq_map
    (step : ∀ path node index, root.at? path = some node →
      pass (change path) node index = change (path ++ [index]))
    (path : List Nat) {label : Label} (front trees : List Tree)
    (found : root.at? path = some (.node label (front ++ trees))) :
    visitsAll pass (pass (change path) (.node label (front ++ trees))) front.length trees =
      (visitsAll followPath (followPath path (.node label (front ++ trees))) front.length
        trees).map (Prod.map change id) := by
  cases trees with
  | nil => rfl
  | cons tree trees =>
      have here : root.at? (path ++ [front.length]) = some tree := by
        rw [at?_concat found]
        simp [children]
      have others := visitsAll_eq_map step path (front ++ [tree]) trees
        (by rw [List.append_assoc]; exact found)
      rw [List.append_assoc, List.length_append] at others
      rw [visitsAll, visitsAll, List.map_append, step _ _ _ found, visits_eq_map step _ tree here]
      exact congrArg _ others

end

end Paths

/-- A root has a number, and the number of a child is counted on from the one of its parent. -/
def followNumber (number : Nat) (node : Tree) (index : Nat) : Nat :=
  number + 1 + (preorderAll (node.children.take index)).length

mutual

/-- The nodes are numbered without a gap. -/
theorem map_fst_numbers (number : Nat) (tree : Tree) :
    (visits followNumber number tree).map Prod.fst = List.range' number tree.preorder.length := by
  cases tree with
  | node label children =>
      rw [visits, preorder, List.length_cons, List.range'_succ, List.map_cons]
      exact congrArg _ (map_fst_numbersAll number label [] children)

theorem map_fst_numbersAll (number : Nat) (label : Label) (front trees : List Tree) :
    (visitsAll followNumber (followNumber number (.node label (front ++ trees))) front.length
        trees).map Prod.fst =
      List.range' (number + 1 + (preorderAll front).length) (preorderAll trees).length := by
  cases trees with
  | nil => rfl
  | cons tree trees =>
      have others := map_fst_numbersAll number label (front ++ [tree]) trees
      rw [List.append_assoc, List.length_append, preorderAll_eq_flatMap (front ++ [tree]),
        List.flatMap_append, ← preorderAll_eq_flatMap, List.length_append] at others
      rw [visitsAll, List.map_append, map_fst_numbers, preorderAll, List.length_append,
        ← List.range'_append_1]
      refine congr (congrArg _ ?_) ?_
      · simp [followNumber, children]
      · refine others.trans ?_
        simp [Nat.add_assoc]

end

end Tree

end MiniPascal
