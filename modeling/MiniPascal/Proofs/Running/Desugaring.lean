/-
This file shows that the tree of a program runs as the program is written.
-/

import Mathlib
import MiniPascal.Proofs.Running.Actions
import MiniPascal.Proofs.Running.BigStep

namespace MiniPascal

open Run

/-- The trees of a body as parts. -/
def Statement.parts (bound : Nat) (body : List Statement) : List Part :=
  Tree.toParts bound (Statement.toTrees body)

/-- The part of a test. -/
def testPart (bound : Nat) (test : Mark) (condition : Tree) : Part :=
  (testTree test condition).toPart bound

/-- The pass of a loop that runs while its condition holds. -/
def whilePass (bound : Nat) (test : Mark) (condition : Expression) (bodyLine : Nat)
    (body : List Statement) : Run Bool :=
  Part.pass
    [testPart bound test (.node (test.label (.unary .negation) .nothing) [condition.toTree]),
      (Statement.compound bodyLine body).toTree.toPart bound]

/-- What the tree of a statement does, where a loop makes at most `count` passes and the loops
inside make at most `bound` passes. -/
def Statement.effect (bound count : Nat) : Statement → Run Unit
  | .empty _ => pure ()
  | .compound _ body => Part.runAll (Statement.parts bound body)
  | .assign _ target value => do
      let number ← (value.toTree.toPart bound).number target.toTree.label
      Run.store (some target.binding) (.real number)
  | .repeatUntil _ body test condition =>
      repeatPass (Part.pass (Statement.parts bound body ++
        [testPart bound test condition.toTree])) count
  | .whileDo _ test condition bodyLine body =>
      repeatPass (whilePass bound test condition bodyLine body) count
  | .ifThen _ test condition branch => do
      if (← (testPart bound test condition.toTree).test) then
        let _ ← (branch.toTree.toPart bound).run
  | .ifElse _ test condition branch otherwise => do
      if (← (testPart bound test condition.toTree).test) then
        let _ ← (branch.toTree.toPart bound).run
      else
        let _ ← (otherwise.toTree.toPart bound).run
  | .write _ argument => do Run.emit (← Part.text (Tree.toParts bound argument.toTrees))
  | .writeln _ none => Run.emit "\n"
  | .writeln _ (some argument) => do
      Run.emit (← Part.text (Tree.toParts bound argument.toTrees))
      Run.emit "\n"

theorem Statement.parts_append (bound : Nat) (body : List Statement) (tree : Tree) :
    Tree.toParts bound (Statement.toTrees body ++ [tree]) =
      Statement.parts bound body ++ [tree.toPart bound] := by
  rw [Statement.parts, Tree.toParts_eq_map, Tree.toParts_eq_map, List.map_append]
  rfl

/-- A statement does its effect and yields nothing. -/
theorem Statement.run_eq_effect (bound : Nat) (statement : Statement) :
    (statement.toTree.toPart bound).run =
      (do statement.effect bound bound; return .nothing) := by
  cases statement with
  | empty | compound | whileDo => rfl
  | assign line target value => simp only [effect, bind_assoc]; rfl
  | repeatUntil line body test condition =>
      rw [effect, testPart, ← Statement.parts_append]
      rfl
  | ifThen line test condition branch | ifElse line test condition branch otherwise =>
      rw [effect, bind_assoc]
      change (testPart bound test condition.toTree).test >>= _ = _
      refine bind_congr fun flag => ?_
      cases flag <;> simp only [Bool.false_eq_true, if_true, if_false, bind_assoc, pure_bind] <;>
        rfl
  | write => rw [effect, ← writeAction_eq]; rfl
  | writeln line argument =>
      cases argument with
      | none => rfl
      | some argument =>
          rw [effect, ← bind_assoc, ← writeAction_eq, bind_assoc]
          rfl

theorem Tree.label_toPart (bound : Nat) (tree : Tree) : (tree.toPart bound).label = tree.label := by
  cases tree
  rfl

/-- The parts of a body run one after the other. -/
theorem Statement.runAll_parts_cons (bound : Nat) (first : Statement) (others : List Statement) :
    Part.runAll (Statement.parts bound (first :: others)) =
      (do first.effect bound bound; Part.runAll (Statement.parts bound others)) := by
  change (first.toTree.toPart bound).run >>= (fun _ => Part.runAll (Statement.parts bound others)) = _
  rw [Statement.run_eq_effect, bind_assoc]
  rfl

/-- A pass over statements and a test behind them runs the statements and then the test. -/
theorem Statement.pass_parts_append (bound : Nat) (body : List Statement) (test : Mark)
    (condition : Tree) :
    Part.pass (Statement.parts bound body ++ [testPart bound test condition]) =
      (do Part.runAll (Statement.parts bound body); (testPart bound test condition).test) := by
  induction body with
  | nil =>
      change (testPart bound test condition).test >>= _ = _
      rw [← bind_pure (testPart bound test condition).test, bind_assoc]
      refine bind_congr fun flag => ?_
      cases flag <;> rfl
  | cons first others inductionHypothesis =>
      have noTest : first.toTree.label.kind ≠ .test := fun same => by
        have isStatement := first.isStatement_toTree
        rw [same] at isStatement
        cases isStatement
      change Part.pass (first.toTree.toPart bound ::
        (Statement.parts bound others ++ [testPart bound test condition])) = _
      rw [Part.pass, if_neg (by rw [Tree.label_toPart]; exact noTest), inductionHypothesis,
        Statement.runAll_parts_cons, Statement.run_eq_effect]
      simp only [bind_assoc, pure_bind]

/-- A pass over a test and a body runs the body when the test is false. -/
theorem Statement.pass_test (bound bodyLine : Nat) (body : List Statement) (test : Mark)
    (condition : Tree) :
    Part.pass [testPart bound test condition,
        (Statement.compound bodyLine body).toTree.toPart bound] =
      (do
        if (← (testPart bound test condition).test) then return true
        else
          Part.runAll (Statement.parts bound body)
          return false) := by
  change (testPart bound test condition).test >>= _ = _
  refine bind_congr fun flag => ?_
  cases flag with
  | true => rfl
  | false =>
      change (do
        let _ ← ((Statement.compound bodyLine body).toTree.toPart bound).run
        return false : Run Bool) = _
      rw [Statement.run_eq_effect, bind_assoc]
      rfl

/-- What the trees of a command do. -/
def Command.effect (bound count : Nat) : Command → Run Unit
  | .one statement => statement.effect bound count
  | .all body => Part.runAll (Statement.parts bound body)

/-- What an assignment finds. -/
theorem Statement.assign_finds (bound : Nat) (machine : Machine) (target : Variable)
    (value : Expression) :
    Finds ((value.toTree.toPart bound).number target.toTree.label) machine
      (target.mark.number (value.value machine.table)) :=
  .asNumber ⟨rfl, rfl⟩ (value.finds_value bound machine)

theorem Run.store_reaches (machine : Machine) (target : Binding) (number : Float) :
    Reaches (Run.store (some target) (.real number)) machine (.ok ())
      (machine.assign target number) := by
  cases target <;> rfl

theorem Run.emit_reaches (machine : Machine) (text : String) :
    Reaches (Run.emit text) machine (.ok ()) (machine.print text) := rfl

/-- A branch does its effect. -/
theorem Statement.discard_run (bound : Nat) (statement : Statement) :
    (do let _ ← (statement.toTree.toPart bound).run : Run Unit) =
      statement.effect bound bound := by
  rw [Statement.run_eq_effect, bind_assoc]
  exact bind_pure_unit

section Loops

variable {bound line bodyLine : Nat} {body : List Statement} {test : Mark}
  {condition : Expression} {machine middle after : Machine} {halt : Halt}

/-- The test of a repeating loop comes behind the body. -/
theorem repeatPass_reaches {result : Except Halt Bool}
    (runs : Reaches (Part.runAll (Statement.parts bound body)) machine (.ok ()) middle)
    (tests : Reaches (testPart bound test condition.toTree).test middle result after) :
    Reaches (Part.pass (Statement.parts bound body ++ [testPart bound test condition.toTree]))
      machine result after := by
  rw [Statement.pass_parts_append]
  exact .bind runs tests

theorem repeatPass_stops
    (stops : Reaches (Part.runAll (Statement.parts bound body)) machine (.error halt) after) :
    Reaches (Part.pass (Statement.parts bound body ++ [testPart bound test condition.toTree]))
      machine (.error halt) after := by
  rw [Statement.pass_parts_append]
  exact .stop stops

theorem whilePass_ends (misses : test.truth (condition.value machine.table) = .ok false) :
    Reaches (whilePass bound test condition bodyLine body) machine (.ok true) machine := by
  have tests := (negatedTest_finds bound machine test condition).ok (by rw [misses]; rfl)
  rw [whilePass, Statement.pass_test]
  exact .bind tests (.pure true)

theorem whilePass_fails (fails : test.truth (condition.value machine.table) = .error halt) :
    Reaches (whilePass bound test condition bodyLine body) machine (.error halt)
      (machine.halted halt) := by
  have tests := (negatedTest_finds bound machine test condition).error (by rw [fails]; rfl)
  rw [whilePass, Statement.pass_test]
  exact .stop tests

theorem whilePass_again (holds : test.truth (condition.value machine.table) = .ok true)
    (runs : Reaches (Part.runAll (Statement.parts bound body)) machine (.ok ()) after) :
    Reaches (whilePass bound test condition bodyLine body) machine (.ok false) after := by
  have tests := (negatedTest_finds bound machine test condition).ok (by rw [holds]; rfl)
  rw [whilePass, Statement.pass_test]
  exact .bind tests (.bind runs (.pure false))

theorem whilePass_stops (holds : test.truth (condition.value machine.table) = .ok true)
    (stops : Reaches (Part.runAll (Statement.parts bound body)) machine (.error halt) after) :
    Reaches (whilePass bound test condition bodyLine body) machine (.error halt) after := by
  have tests := (negatedTest_finds bound machine test condition).ok (by rw [holds]; rfl)
  rw [whilePass, Statement.pass_test]
  exact .bind tests (.stop stops)

/-- A loop with one more pass than the least count. -/
theorem loop_reached {pass : Nat → Run Bool} {result : Except Halt Unit} (least : Nat)
    (passes : ∀ bound count, least ≤ bound → least ≤ count →
      Reaches (repeatPass (pass bound) (count + 1)) machine result after) :
    ∃ least, ∀ bound count, least ≤ bound → least ≤ count →
      Reaches (repeatPass (pass bound) count) machine result after := by
  refine ⟨least + 1, fun bound count enough more => ?_⟩
  obtain ⟨count, rfl⟩ := Nat.exists_eq_add_of_le' (Nat.le_of_add_left_le more)
  exact passes bound count (by omega) (by omega)

end Loops

/-- A run of a command is reached by its trees when all loops may make enough passes. -/
theorem Command.Runs.reached {command : Command} {machine after : Machine}
    {result : Except Halt Unit} (runs : command.Runs machine result after) :
    ∃ least, ∀ bound count, least ≤ bound → least ≤ count →
      Reaches (command.effect bound count) machine result after := by
  induction runs with
  | done => exact ⟨0, fun _ _ _ _ => .pure ()⟩
  | next _ _ firstReached othersReached =>
      obtain ⟨firstLeast, firstEnds⟩ := firstReached
      obtain ⟨othersLeast, othersEnd⟩ := othersReached
      refine ⟨max firstLeast othersLeast, fun bound count enough _ => ?_⟩
      rw [Command.effect, Statement.runAll_parts_cons]
      exact .bind (firstEnds bound bound (by omega) (by omega))
        (othersEnd bound bound (by omega) (by omega))
  | stop _ reached =>
      obtain ⟨least, stops⟩ := reached
      refine ⟨least, fun bound count enough _ => ?_⟩
      rw [Command.effect, Statement.runAll_parts_cons]
      exact .stop (stops bound bound enough enough)
  | empty => exact ⟨0, fun _ _ _ _ => .pure ()⟩
  | compound _ reached =>
      obtain ⟨least, ends⟩ := reached
      exact ⟨least, fun bound count enough _ => ends bound bound enough enough⟩
  | assign yields =>
      exact ⟨0, fun bound _ _ _ =>
        .bind ((Statement.assign_finds bound _ _ _).ok yields) (store_reaches _ _ _)⟩
  | assignFails fails =>
      exact ⟨0, fun bound _ _ _ => .stop ((Statement.assign_finds bound _ _ _).error fails)⟩
  | repeatEnds _ holds reached =>
      obtain ⟨least, ends⟩ := reached
      refine loop_reached least fun bound count enough more => ?_
      have tests := (testTree_finds bound _ _ _).ok holds
      exact repeatPass_ends (repeatPass_reaches (ends bound bound enough enough) tests)
  | repeatAgain _ misses _ reached againReached =>
      obtain ⟨least, ends⟩ := reached
      obtain ⟨againLeast, again⟩ := againReached
      refine loop_reached (max least againLeast) fun bound count enough more => ?_
      have tests := (testTree_finds bound _ _ _).ok misses
      exact repeatPass_again (repeatPass_reaches (ends bound bound (by omega) (by omega)) tests)
        (again bound count (by omega) (by omega))
  | repeatFails _ fails reached =>
      obtain ⟨least, ends⟩ := reached
      refine loop_reached least fun bound count enough more => ?_
      have tests := (testTree_finds bound _ _ _).error fails
      exact .stop (repeatPass_reaches (ends bound bound enough enough) tests)
  | repeatStops _ reached =>
      obtain ⟨least, stops⟩ := reached
      refine loop_reached least fun bound count enough more => ?_
      exact .stop (repeatPass_stops (stops bound bound enough enough))
  | whileEnds misses =>
      exact loop_reached 0 fun bound count _ _ => repeatPass_ends (whilePass_ends misses)
  | whileAgain holds _ _ reached againReached =>
      obtain ⟨least, ends⟩ := reached
      obtain ⟨againLeast, again⟩ := againReached
      refine loop_reached (max least againLeast) fun bound count enough more => ?_
      exact repeatPass_again (whilePass_again holds (ends bound bound (by omega) (by omega)))
        (again bound count (by omega) (by omega))
  | whileFails fails => exact loop_reached 0 fun bound count _ _ => .stop (whilePass_fails fails)
  | whileStops holds _ reached =>
      obtain ⟨least, stops⟩ := reached
      refine loop_reached least fun bound count enough more => ?_
      exact .stop (whilePass_stops holds (stops bound bound enough enough))
  | ifThen holds _ reached | ifElseThen holds _ reached =>
      obtain ⟨least, ends⟩ := reached
      refine ⟨least, fun bound count enough _ => ?_⟩
      refine .bind ((testTree_finds bound _ _ _).ok holds) ?_
      rw [if_pos rfl, Statement.discard_run]
      exact ends bound bound enough enough
  | ifSkips misses =>
      exact ⟨0, fun bound _ _ _ => .bind ((testTree_finds bound _ _ _).ok misses) (.pure ())⟩
  | ifFails fails | ifElseFails fails =>
      exact ⟨0, fun bound _ _ _ => .stop ((testTree_finds bound _ _ _).error fails)⟩
  | ifElseOtherwise misses _ reached =>
      obtain ⟨least, ends⟩ := reached
      refine ⟨least, fun bound count enough _ => ?_⟩
      refine .bind ((testTree_finds bound _ _ _).ok misses) ?_
      rw [if_neg Bool.false_ne_true, Statement.discard_run]
      exact ends bound bound enough enough
  | write shows =>
      exact ⟨0, fun bound _ _ _ =>
        .bind ((Argument.finds_text bound _ _).ok shows) (emit_reaches _ _)⟩
  | writeFails fails | writelnFails fails =>
      exact ⟨0, fun bound _ _ _ => .stop ((Argument.finds_text bound _ _).error fails)⟩
  | writelnPlain => exact ⟨0, fun _ _ _ _ => emit_reaches _ _⟩
  | writeln shows =>
      exact ⟨0, fun bound _ _ _ => .bind ((Argument.finds_text bound _ _).ok shows)
        (.bind (emit_reaches _ _) (emit_reaches _ _))⟩

/-- Statements that are run by their trees run as they are written. -/
theorem Command.runs_all_of_reaches {bound : Nat} {body : List Statement}
    (parts : ∀ part ∈ body, ∀ count machine result after,
      Reaches (part.effect bound count) machine result after →
        Command.Runs (.one part) machine result after)
    {machine after : Machine} {result : Except Halt Unit}
    (ends : Reaches (Part.runAll (Statement.parts bound body)) machine result after) :
    Command.Runs (.all body) machine result after := by
  induction body generalizing machine with
  | nil =>
      obtain ⟨rfl, rfl⟩ := Reaches.unique ends (.pure ())
      exact .done
  | cons first others inductionHypothesis =>
      rw [Statement.runAll_parts_cons] at ends
      have firstRuns := parts first List.mem_cons_self bound
      obtain ⟨_, middle, firstEnds, othersEnd⟩ | ⟨halt, stops, rfl⟩ := ends.parts
      · exact .next (firstRuns _ _ _ firstEnds)
          (inductionHypothesis (fun part inside => parts part (List.mem_cons_of_mem _ inside))
            othersEnd)
      · exact .stop (firstRuns _ _ _ stops)

/-- A loop that repeats is run by passes that run its body and then its test. -/
theorem Command.runs_repeat_of_reaches {bound line : Nat} {body : List Statement} {test : Mark}
    {condition : Expression}
    (bodyRuns : ∀ machine result after,
      Reaches (Part.runAll (Statement.parts bound body)) machine result after →
        Command.Runs (.all body) machine result after)
    {count : Nat} {machine after : Machine} {result : Except Halt Unit}
    (ends : Reaches (repeatPass (Part.pass (Statement.parts bound body ++
      [testPart bound test condition.toTree])) count) machine result after) :
    Command.Runs (.one (.repeatUntil line body test condition)) machine result after := by
  induction count generalizing machine with
  | zero => exact absurd ends Reaches.not_exhausted
  | succ count inductionHypothesis =>
      rw [Statement.pass_parts_append] at ends inductionHypothesis
      have tests (place : Machine) := testTree_finds bound place test condition
      obtain ⟨passes, rfl⟩ | ⟨middle, passes, again⟩ | ⟨halt, passes, rfl⟩ := repeatPass_parts ends
      · obtain ⟨_, middle, runs, testEnds⟩ | ⟨_, _, fails⟩ := passes.parts
        · obtain ⟨holds, rfl⟩ := (tests middle).ends_ok testEnds
          exact .repeatEnds (bodyRuns _ _ _ runs) holds
        · cases fails
      · obtain ⟨_, between, runs, testEnds⟩ | ⟨_, _, fails⟩ := passes.parts
        · obtain ⟨misses, rfl⟩ := (tests between).ends_ok testEnds
          exact .repeatAgain (bodyRuns _ _ _ runs) misses (inductionHypothesis again)
        · cases fails
      · obtain ⟨_, middle, runs, testEnds⟩ | ⟨_, stops, same⟩ := passes.parts
        · obtain ⟨fails, rfl⟩ := (tests middle).ends_error testEnds
          exact .repeatFails (bodyRuns _ _ _ runs) fails
        · cases same
          exact .repeatStops (bodyRuns _ _ _ stops)

/-- The negation of what a condition finds tells what it finds. -/
theorem Except.ok_of_map_not {found : Except Halt Bool} {flag : Bool}
    (same : found.map not = .ok flag) : found = .ok !flag := by
  cases found with
  | ok value =>
      have opposite : (!value) = flag := Except.ok.inj same
      rw [← opposite, Bool.not_not]
  | error halt => cases same

theorem Except.error_of_map_not {found : Except Halt Bool} {halt : Halt}
    (same : found.map not = .error halt) : found = .error halt := by
  cases found with
  | ok value => cases same
  | error other =>
      cases same
      rfl

/-- A pass that tests first ends the loop, fails at the test, or runs the body. -/
theorem whilePass_parts {bound bodyLine : Nat} {body : List Statement} {test : Mark}
    {condition : Expression} {machine after : Machine} {found : Except Halt Bool}
    (passes : Reaches (whilePass bound test condition bodyLine body) machine found after) :
    (test.truth (condition.value machine.table) = .ok false ∧ found = .ok true ∧
        after = machine) ∨
      (∃ halt, test.truth (condition.value machine.table) = .error halt ∧ found = .error halt ∧
        after = machine.halted halt) ∨
      (test.truth (condition.value machine.table) = .ok true ∧
        ∃ result, Reaches (Part.runAll (Statement.parts bound body)) machine result after ∧
          found = result.map fun _ => false) := by
  rw [whilePass, Statement.pass_test] at passes
  have tests := negatedTest_finds bound machine test condition
  obtain ⟨flag, middle, testEnds, others⟩ | ⟨halt, fails, rfl⟩ := passes.parts
  · obtain ⟨same, rfl⟩ := tests.ends_ok testEnds
    have truth := Except.ok_of_map_not same
    cases flag with
    | true =>
        obtain ⟨rfl, rfl⟩ := others.unique (.pure true)
        exact .inl ⟨truth, rfl, rfl⟩
    | false =>
        obtain ⟨_, last, runs, ends⟩ | ⟨halt, stops, rfl⟩ := Reaches.parts others
        · obtain ⟨rfl, rfl⟩ := Reaches.unique ends (.pure false)
          exact .inr (.inr ⟨truth, .ok (), runs, rfl⟩)
        · exact .inr (.inr ⟨truth, .error halt, stops, rfl⟩)
  · obtain ⟨same, rfl⟩ := tests.ends_error fails
    exact .inr (.inl ⟨halt, Except.error_of_map_not same, rfl, rfl⟩)

/-- A loop that runs while its condition holds is run by passes that test the negation first. -/
theorem Command.runs_while_of_reaches {bound line bodyLine : Nat} {body : List Statement}
    {test : Mark} {condition : Expression}
    (bodyRuns : ∀ machine result after,
      Reaches (Part.runAll (Statement.parts bound body)) machine result after →
        Command.Runs (.all body) machine result after)
    {count : Nat} {machine after : Machine} {result : Except Halt Unit}
    (ends : Reaches (repeatPass (whilePass bound test condition bodyLine body) count) machine
      result after) :
    Command.Runs (.one (.whileDo line test condition bodyLine body)) machine result after := by
  induction count generalizing machine with
  | zero => exact absurd ends Reaches.not_exhausted
  | succ count inductionHypothesis =>
      obtain ⟨passes, rfl⟩ | ⟨middle, passes, again⟩ | ⟨halt, passes, rfl⟩ := repeatPass_parts ends
      · obtain ⟨misses, _, rfl⟩ | ⟨_, _, same, _⟩ | ⟨_, found, _, same⟩ := whilePass_parts passes
        · exact .whileEnds misses
        · cases same
        · cases found <;> cases same
      · obtain ⟨_, same, _⟩ | ⟨_, _, same, _⟩ | ⟨holds, found, runs, same⟩ :=
          whilePass_parts passes
        · cases same
        · cases same
        · cases found <;> cases same
          exact .whileAgain holds (bodyRuns _ _ _ runs) (inductionHypothesis again)
      · obtain ⟨_, same, _⟩ | ⟨_, fails, same, rfl⟩ | ⟨holds, found, runs, same⟩ :=
          whilePass_parts passes
        · cases same
        · cases same
          exact .whileFails fails
        · cases found <;> cases same
          exact .whileStops holds (bodyRuns _ _ _ runs)

/-- A statement that is run by its tree runs as it is written. -/
theorem Statement.runs_of_reaches {bound : Nat} (statement : Statement) :
    ∀ count machine result after, Reaches (statement.effect bound count) machine result after →
      Command.Runs (.one statement) machine result after := by
  induction statement using Statement.inductionOn with
  | empty line =>
      intro count machine result after ends
      obtain ⟨rfl, rfl⟩ := Reaches.unique ends (.pure ())
      exact .empty
  | compound line body parts =>
      intro count machine result after ends
      exact .compound (Command.runs_all_of_reaches parts ends)
  | assign line target value =>
      intro count machine result after ends
      have finds := Statement.assign_finds bound machine target value
      obtain ⟨number, middle, found, stores⟩ | ⟨halt, fails, rfl⟩ := Reaches.parts ends
      · obtain ⟨yields, rfl⟩ := finds.ends_ok found
        obtain ⟨rfl, rfl⟩ := stores.unique (store_reaches _ _ _)
        exact .assign yields
      · obtain ⟨same, rfl⟩ := finds.ends_error fails
        exact .assignFails same
  | repeatUntil line body test condition parts =>
      intro count machine result after ends
      exact Command.runs_repeat_of_reaches
        (fun _ _ _ runs => Command.runs_all_of_reaches parts runs) ends
  | whileDo line test condition bodyLine body parts =>
      intro count machine result after ends
      exact Command.runs_while_of_reaches
        (fun _ _ _ runs => Command.runs_all_of_reaches parts runs) ends
  | ifThen line test condition branch branchRuns =>
      intro count machine result after ends
      have finds := testTree_finds bound machine test condition
      obtain ⟨flag, middle, found, others⟩ | ⟨halt, fails, rfl⟩ := Reaches.parts ends
      · obtain ⟨same, rfl⟩ := finds.ends_ok found
        cases flag with
        | true =>
            rw [if_pos rfl, Statement.discard_run] at others
            exact .ifThen same (branchRuns _ _ _ _ others)
        | false =>
            obtain ⟨rfl, rfl⟩ := others.unique (.pure ())
            exact .ifSkips same
      · obtain ⟨same, rfl⟩ := finds.ends_error fails
        exact .ifFails same
  | ifElse line test condition branch otherwise branchRuns otherwiseRuns =>
      intro count machine result after ends
      have finds := testTree_finds bound machine test condition
      obtain ⟨flag, middle, found, others⟩ | ⟨halt, fails, rfl⟩ := Reaches.parts ends
      · obtain ⟨same, rfl⟩ := finds.ends_ok found
        cases flag with
        | true =>
            rw [if_pos rfl, Statement.discard_run] at others
            exact .ifElseThen same (branchRuns _ _ _ _ others)
        | false =>
            rw [if_neg Bool.false_ne_true, Statement.discard_run] at others
            exact .ifElseOtherwise same (otherwiseRuns _ _ _ _ others)
      · obtain ⟨same, rfl⟩ := finds.ends_error fails
        exact .ifElseFails same
  | write line argument =>
      intro count machine result after ends
      have finds := argument.finds_text bound machine
      obtain ⟨text, middle, found, prints⟩ | ⟨halt, fails, rfl⟩ := Reaches.parts ends
      · obtain ⟨shows, rfl⟩ := finds.ends_ok found
        obtain ⟨rfl, rfl⟩ := prints.unique (emit_reaches _ _)
        exact .write shows
      · obtain ⟨same, rfl⟩ := finds.ends_error fails
        exact .writeFails same
  | writeln line argument =>
      intro count machine result after ends
      cases argument with
      | none =>
          obtain ⟨rfl, rfl⟩ := ends.unique (emit_reaches _ _)
          exact .writelnPlain
      | some argument =>
          have finds := argument.finds_text bound machine
          obtain ⟨text, middle, found, prints⟩ | ⟨halt, fails, rfl⟩ := Reaches.parts ends
          · obtain ⟨shows, rfl⟩ := finds.ends_ok found
            obtain ⟨rfl, rfl⟩ := prints.unique (.bind (emit_reaches _ _) (emit_reaches _ _))
            exact .writeln shows
          · obtain ⟨same, rfl⟩ := finds.ends_error fails
            exact .writelnFails same

/-- What the tree of a program leaves when it ends with a result. -/
def Outcome.ended (result : Except Halt Unit) (after : Machine) : Outcome Value :=
  ⟨(result.mapError Halt.toStop).map fun _ => .nothing, after⟩

theorem Program.visit_eq (bound : Nat) (program : Program) :
    program.toTree.visit bound =
      (do Part.runAll (Statement.parts bound program.body); return .nothing) :=
  Statement.run_eq_effect bound (.compound program.bodyLine program.body)

/-- The tree of a program does the effect of its body. -/
theorem execute_eq_ended {bound : Nat} {program : Program} {table : SymbolTable}
    {result : Except Halt Unit} {after : Machine} :
    execute bound program.toTree table = .ended result after ↔
      Reaches (Part.runAll (Statement.parts bound program.body)) ⟨table, ""⟩ result after := by
  rw [execute, program.visit_eq, on_bind, Reaches]
  cases Run.on (Part.runAll (Statement.parts bound program.body)) ⟨table, ""⟩ with
  | mk found machine =>
      cases found <;> cases result <;>
        simp [Outcome.ended, Except.mapError, Except.map]

/-- A program whose tree ends runs as it is written. -/
theorem runs_of_execute {bound : Nat} {program : Program} {table : SymbolTable}
    {result : Except Halt Unit} {after : Machine}
    (ends : execute bound program.toTree table = .ended result after) :
    Command.Runs (.all program.body) ⟨table, ""⟩ result after :=
  Command.runs_all_of_reaches (fun part _ => part.runs_of_reaches) (execute_eq_ended.mp ends)

/-- The tree of a program that runs as it is written ends in the same way with some bound. -/
theorem execute_of_runs {program : Program} {table : SymbolTable} {result : Except Halt Unit}
    {after : Machine} (runs : Command.Runs (.all program.body) ⟨table, ""⟩ result after) :
    ∃ bound, execute bound program.toTree table = .ended result after := by
  obtain ⟨least, reached⟩ := runs.reached
  exact ⟨least, execute_eq_ended.mpr (reached least least (Nat.le_refl _) (Nat.le_refl _))⟩

/-- The tree of every program ends with some bound in the way in which the program, run as it is
written, ends: with the same output, the same table, and the same error if there is one. -/
theorem execute_iff_runs (program : Program) (table : SymbolTable) (result : Except Halt Unit)
    (after : Machine) :
    (∃ bound, execute bound program.toTree table = .ended result after) ↔
      Command.Runs (.all program.body) ⟨table, ""⟩ result after := by
  constructor
  · rintro ⟨bound, ends⟩
    exact Command.runs_all_of_reaches (fun part _ => part.runs_of_reaches)
      (execute_eq_ended.mp ends)
  · intro runs
    obtain ⟨least, reached⟩ := runs.reached
    exact ⟨least, execute_eq_ended.mpr (reached least least (Nat.le_refl _) (Nat.le_refl _))⟩

end MiniPascal
