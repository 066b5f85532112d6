/-
This file changes the labels of a tree and keeps its shape, and goes through the nodes of alike trees.
-/

import MiniPascal.Proofs.Parsing.Likeness

namespace MiniPascal

mutual

def Tree.relabel (change : Label → Label) : Tree → Tree
  | .node label children => .node (change label) (Tree.relabelAll change children)

def Tree.relabelAll (change : Label → Label) : List Tree → List Tree
  | [] => []
  | tree :: trees => tree.relabel change :: Tree.relabelAll change trees

end

def Label.bare (label : Label) : Label := { label with binding := none }

/-- A tree without the bindings of its variables. -/
def Tree.bare (tree : Tree) : Tree := tree.relabel Label.bare

theorem Tree.relabelAll_eq_map (change : Label → Label) (trees : List Tree) :
    Tree.relabelAll change trees = trees.map (Tree.relabel change) := by
  induction trees with
  | nil => rfl
  | cons tree trees inductionHypothesis => rw [relabelAll, inductionHypothesis, List.map_cons]

@[simp] theorem Tree.bare_node (label : Label) (children : List Tree) :
    (Tree.node label children).bare = .node label.bare (children.map Tree.bare) := by
  rw [bare, relabel, relabelAll_eq_map]
  rfl

/-- Alike trees become equal when alike labels do. -/
theorem Likeness.Trees.relabel {alike : Likeness} {change changeCopy : Label → Label}
    (same : ∀ label other, alike.Labels label other → changeCopy other = change label)
    {tree other : Tree} (trees : alike.Trees tree other) :
    other.relabel changeCopy = tree.relabel change := by
  refine trees.inductionOn fun label copy children others labels parts => ?_
  have all : Tree.relabelAll changeCopy others = Tree.relabelAll change children := by
    induction parts with
    | nil => rfl
    | cons first _ inductionHypothesis =>
        rw [Tree.relabelAll, Tree.relabelAll, first, inductionHypothesis]
  rw [Tree.relabel, Tree.relabel, all, same label copy labels]

/-- Alike trees have alike nodes in the same order. -/
theorem Likeness.Trees.preorder {alike : Likeness} {tree other : Tree}
    (trees : alike.Trees tree other) :
    List.Forall₂ (fun node copy => alike.Labels node.label copy.label) tree.preorder
      other.preorder := by
  refine trees.inductionOn fun label copy children others labels parts => ?_
  refine .cons labels ?_
  induction parts with
  | nil => exact .nil
  | cons first _ inductionHypothesis => exact List.rel_append first inductionHypothesis

end MiniPascal
