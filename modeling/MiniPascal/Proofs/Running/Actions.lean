/-
This file shows that the trees of expressions and written arguments do what these mean.
-/

import MiniPascal.Lowering
import MiniPascal.Proofs.Running.Outcomes

namespace MiniPascal

open Run

theorem Mark.label_standsAt (mark : Mark) (kind : NodeKind) (value : Value) :
    (mark.label kind value).StandsAt mark := ⟨rfl, rfl⟩

/-- The tree of an expression finds the value of the expression. -/
theorem Expression.finds_value (bound : Nat) (machine : Machine) (source : Expression) :
    Finds (source.toTree.toPart bound).run machine (source.value machine.table) := by
  induction source with
  | reference source => exact .load source.binding
  | integer mark number => exact .pure _
  | real mark number => exact .pure _
  | unary operator mark operand inductionHypothesis =>
      have stands := mark.label_standsAt (.unary operator) .nothing
      cases operator with
      | negation =>
          refine .select rfl ?_
          exact .bind (.asTruth stands inductionHypothesis) fun _ => .pure _
      | minus | plus =>
          refine .select rfl ?_
          exact .bind (.asNumber stands inductionHypothesis) fun _ => .pure _
  | binary operator mark left right leftFinds rightFinds =>
      have stands := mark.label_standsAt (.binary operator) .nothing
      cases operator with
      | conjunction | disjunction =>
          refine .select rfl (.bind (.asTruth stands leftFinds) fun _ => ?_)
          refine .select rfl (.bind (.asTruth stands rightFinds) fun _ => .pure _)
      | _ =>
          refine .select rfl (.bind (.asNumber stands leftFinds) fun _ => ?_)
          refine .select rfl (.bind (.asNumber stands rightFinds) fun _ => .apply stands _ _ _)

/-- The tree of a test finds the truth value of its condition. -/
theorem testTree_finds (bound : Nat) (machine : Machine) (test : Mark) (condition : Expression) :
    Finds ((testTree test condition.toTree).toPart bound).test machine
      (test.truth (condition.value machine.table)) :=
  .select rfl (.asTruth (test.label_standsAt .test .nothing) (condition.finds_value bound machine))

/-- A test accepts every truth value that an operator yields. -/
theorem Mark.truth_map (mark : Mark) (found : Except Halt Bool) :
    mark.truth (found.map .truth) = found := by
  cases found <;> rfl

/-- The negated test of a loop finds the opposite of its condition. Both nodes stand at one mark, so
that a condition without a truth value fails there. -/
theorem negatedTest_finds (bound : Nat) (machine : Machine) (test : Mark)
    (condition : Expression) :
    Finds ((testTree test (.node (test.label (.unary .negation) .nothing)
        [condition.toTree])).toPart bound).test machine
      ((test.truth (condition.value machine.table)).map not) := by
  have opposite := Expression.finds_value bound machine (.unary .negation test condition)
  have found := Finds.asTruth (test.label_standsAt .test .nothing) opposite
  have same : test.truth (Expression.value machine.table (.unary .negation test condition)) =
      (test.truth (condition.value machine.table)).map not := by
    rw [← Mark.truth_map test (Except.map not _), Expression.value]
    cases test.truth (condition.value machine.table) <;> rfl
  rw [same] at found
  exact .select rfl found

/-- A real number that a part yields is laid out by its whole part. -/
theorem layoutNumber_finds {machine : Machine} {parts : List Part} {index : Nat} {part : Part}
    {number : Float} (present : parts[index]? = some part)
    (loads : Finds part.run machine (.ok (.real number))) :
    Finds (Label.layoutNumber parts index) machine (Halt.ofFault (wholePart number)) := by
  have reads : Finds (part.number part.label) machine (.ok number) := by
    unfold Finds at loads ⊢
    rw [Part.number, on_bind, loads]
    rfl
  rw [Label.layoutNumber, present]
  exact reads.bind fun number => .ofExcept (wholePart number)

/-- The literal of a layout is read as a number. -/
theorem Width.finds_whole (bound : Nat) (machine : Machine) (width : Width) {parts : List Part}
    {index : Nat} (present : parts[index]? = some (width.toTree.toPart bound)) :
    Finds (Label.layoutNumber parts index) machine width.whole :=
  layoutNumber_finds present (.pure _)

/-- The text that the parts of a writing statement write. -/
def Part.text (parts : List Part) : Run String := do
  let width ← Label.layoutNumber parts 1
  let places ← Label.layoutNumber parts 2
  let value ← (← Part.select parts 0).run
  Run.ofExcept (value.layOut width places)

theorem writeAction_eq (parts : List Part) :
    Label.writeAction parts = Part.text parts >>= Run.emit := by
  simp only [Label.writeAction, Part.text, bind_assoc]
  refine bind_congr fun width => bind_congr fun places => bind_congr fun part =>
    bind_congr fun value => ?_
  cases value <;> rfl

theorem Argument.finds_text (bound : Nat) (machine : Machine) (argument : Argument) :
    Finds (Part.text (Tree.toParts bound argument.toTrees)) machine
      (argument.text machine.table) := by
  obtain ⟨item, format⟩ := argument
  have itemFinds : Finds (item.toTree.toPart bound).run machine (item.value machine.table) := by
    cases item with
    | reference source => exact .load source.binding
    | string => exact .pure _
  have shows (width places : Int) : Finds (do
      let value ← (← Part.select (Tree.toParts bound (Argument.toTrees ⟨item, format⟩)) 0).run
      Run.ofExcept (value.layOut width places)) machine (do
      let value ← item.value machine.table
      Halt.ofFault (value.layOut width places)) :=
    .select rfl (.bind itemFinds fun _ => .ofExcept _)
  cases format with
  | plain => exact .bind (.pure 0) fun width => .bind (.pure 0) fun places => shows width places
  | field width =>
      exact .bind (width.finds_whole bound machine rfl) fun width =>
        .bind (.pure 0) fun places => shows width places
  | fixed width places =>
      exact .bind (width.finds_whole bound machine rfl) fun width =>
        .bind (places.finds_whole bound machine rfl) fun places => shows width places

end MiniPascal
