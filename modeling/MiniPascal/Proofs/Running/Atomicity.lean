/-
This file follows a run statement by statement with a trace of the elementary statements that it has
completed, and shows that a run which halts leaves what these statements leave.
-/

import MiniPascal.Proofs.Running.Typing

namespace MiniPascal

/-- An assignment and a writing statement act on the machine; all others choose what is run. -/
def Statement.isElementary : Statement → Bool
  | .assign _ _ _ | .write _ _ | .writeln _ _ => true
  | _ => false

/-- One step of a statement: the machine behind it, and the statements that are run in its place. A
loop that repeats is its body and a branch into the loop again. -/
def Statement.step (machine : Machine) : Statement → Except Halt (Machine × List Statement)
  | .empty _ => return (machine, [])
  | .compound _ body => return (machine, body)
  | .assign _ target value => do
      let number ← target.mark.number (value.value machine.table)
      return (machine.assign target.binding number, [])
  | .repeatUntil line body test condition =>
      return (machine, body ++
        [.ifElse line test condition (.empty line) (.repeatUntil line body test condition)])
  | .whileDo line test condition bodyLine body => do
      let holds ← test.truth (condition.value machine.table)
      return (machine, if holds then body ++ [.whileDo line test condition bodyLine body] else [])
  | .ifThen _ test condition branch => do
      let holds ← test.truth (condition.value machine.table)
      return (machine, if holds then [branch] else [])
  | .ifElse _ test condition branch otherwise => do
      let holds ← test.truth (condition.value machine.table)
      return (machine, if holds then [branch] else [otherwise])
  | .write _ argument => do
      let text ← argument.text machine.table
      return (machine.print text, [])
  | .writeln _ none => return (machine.print "\n", [])
  | .writeln _ (some argument) => do
      let text ← argument.text machine.table
      return ((machine.print text).print "\n", [])

/-- A run of statements, step by step, from a machine to a place where others are left. The
elementary statements that it completes are listed in their order. -/
inductive Progress : List Statement → Machine → List Statement → List Statement → Machine → Prop where
  | here {statements : List Statement} {machine : Machine} :
      Progress statements machine [] statements machine
  | step {first : Statement} {others more completed left : List Statement}
      {machine middle place : Machine} (steps : first.step machine = .ok (middle, more))
      (goesOn : Progress (more ++ others) middle completed left place) :
      Progress (first :: others) machine
        (if first.isElementary then first :: completed else completed) left place

variable {machine middle after place : Machine} {statements others more left : List Statement}
  {completed : List Statement} {first : Statement} {result : Except Halt Unit} {halt : Halt}

theorem Progress.trans {further left : List Statement} {last : Machine}
    (goes : Progress statements machine completed others place)
    (goesOn : Progress others place further left last) :
    Progress statements machine (completed ++ further) left last := by
  induction goes with
  | here => exact goesOn
  | @step first _ _ _ _ _ _ _ steps _ inductionHypothesis =>
      have all := Progress.step steps (inductionHypothesis goesOn)
      cases kind : first.isElementary <;> simpa [kind] using all

section Elementary

/-- A step changes the machine only where an elementary statement acts. -/
theorem Statement.machine_of_step (control : first.isElementary = false)
    (steps : first.step machine = .ok (middle, more)) : middle = machine := by
  cases first with
  | assign | write | writeln => cases control
  | empty | compound | repeatUntil =>
      cases steps
      rfl
  | whileDo | ifThen | ifElse =>
      obtain ⟨_, _, same⟩ := bind_eq_ok_iff.mp steps
      cases same
      rfl

/-- An elementary statement leaves nothing to run and does what it does alone. -/
theorem Statement.runs_of_elementary (elementary : first.isElementary = true)
    (steps : first.step machine = .ok (middle, more)) :
    Command.Runs (.one first) machine (.ok ()) middle ∧ more = [] := by
  cases first with
  | assign =>
      obtain ⟨_, yields, same⟩ := bind_eq_ok_iff.mp steps
      cases same
      exact ⟨.assign yields, rfl⟩
  | write =>
      obtain ⟨_, shows, same⟩ := bind_eq_ok_iff.mp steps
      cases same
      exact ⟨.write shows, rfl⟩
  | writeln line argument =>
      cases argument with
      | none =>
          cases steps
          exact ⟨.writelnPlain, rfl⟩
      | some argument =>
          obtain ⟨_, shows, same⟩ := bind_eq_ok_iff.mp steps
          cases same
          exact ⟨.writeln shows, rfl⟩
  | _ => cases elementary

/-- The completed statements, run one after the other, lead to the same place. -/
theorem Progress.runs_completed (goes : Progress statements machine completed left place) :
    Command.Runs (.all completed) machine (.ok ()) place := by
  induction goes with
  | here => exact .done
  | @step first _ _ _ _ _ _ _ steps _ inductionHypothesis =>
      cases kind : first.isElementary with
      | true => exact .next (Statement.runs_of_elementary kind steps).1 inductionHypothesis
      | false =>
          cases Statement.machine_of_step kind steps
          exact inductionHypothesis

theorem Progress.elementary (goes : Progress statements machine completed left place) :
    ∀ statement ∈ completed, statement.isElementary = true := by
  induction goes with
  | here => exact nofun
  | @step first _ _ _ _ _ _ _ _ _ inductionHypothesis =>
      cases kind : first.isElementary with
      | true => exact List.forall_mem_cons.mpr ⟨kind, inductionHypothesis⟩
      | false => exact inductionHypothesis

end Elementary

section Arriving

/-- A run that ends well leaves the statements behind it; one that halts stands before a statement
that cannot make its step. -/
inductive Arrives (statements : List Statement) (machine : Machine) (others : List Statement) :
    Except Halt Unit → Machine → Prop where
  | ends {completed : List Statement} {place : Machine}
      (goes : Progress statements machine completed others place) :
      Arrives statements machine others (.ok ()) place
  | stops {completed left : List Statement} {failing : Statement} {place : Machine} {halt : Halt}
      (goes : Progress statements machine completed (failing :: left) place)
      (fails : failing.step place = .error halt) :
      Arrives statements machine others (.error halt) (place.halted halt)

theorem Arrives.behind (goes : Progress statements machine completed left place)
    (arrives : Arrives left place others result after) :
    Arrives statements machine others result after := by
  cases arrives with
  | ends goesOn => exact .ends (goes.trans goesOn)
  | stops goesOn fails => exact .stops (goes.trans goesOn) fails

theorem Arrives.step (steps : first.step machine = .ok (middle, more))
    (arrives : Arrives (more ++ left) middle others result after) :
    Arrives (first :: left) machine others result after :=
  .behind (.step steps .here) arrives

/-- The second part of a run starts where the first one ends. -/
theorem Arrives.next (ends : Arrives statements machine left (.ok ()) middle)
    (goesOn : Arrives left middle others result after) :
    Arrives statements machine others result after := by
  cases ends with
  | ends goes => exact .behind goes goesOn

/-- What is behind a statement that fails is not run. -/
theorem Arrives.stop (arrives : Arrives statements machine left (.error halt) after) :
    Arrives statements machine others (.error halt) after := by
  cases arrives with
  | stops goes fails => exact .stops goes fails

/-- The statements of a command. -/
def Command.body : Command → List Statement
  | .one statement => [statement]
  | .all body => body

/-- A run of a command arrives, whatever is to be run behind it. -/
theorem Command.Runs.arrives {command : Command} (runs : command.Runs machine result after)
    (others : List Statement) :
    Arrives (command.body ++ others) machine others result after := by
  induction runs generalizing others with
  | done => exact .ends .here
  | next _ _ first rest => exact .next (first _) (rest others)
  | stop _ first => exact .stop (first _)
  | empty => exact .step rfl (.ends .here)
  | compound _ body => exact .step rfl (body others)
  | assign yields => exact .step (bind_eq_ok_iff.mpr ⟨_, yields, rfl⟩) (.ends .here)
  | write shows | writeln shows => exact .step (bind_eq_ok_iff.mpr ⟨_, shows, rfl⟩) (.ends .here)
  | writelnPlain => exact .step rfl (.ends .here)
  | assignFails fails | whileFails fails | ifFails fails | ifElseFails fails | writeFails fails
  | writelnFails fails => exact .stops .here (bind_eq_error_iff.mpr (.inl fails))
  | repeatEnds _ holds body =>
      refine .step rfl ?_
      rw [List.append_assoc]
      exact .next (body _) (.step (bind_eq_ok_iff.mpr ⟨_, holds, rfl⟩) (.step rfl (.ends .here)))
  | repeatAgain _ misses _ body again =>
      refine .step rfl ?_
      rw [List.append_assoc]
      exact .next (body _) (.step (bind_eq_ok_iff.mpr ⟨_, misses, rfl⟩) (again others))
  | repeatFails _ fails body =>
      refine .step rfl ?_
      rw [List.append_assoc]
      exact .next (body _) (.stops .here (bind_eq_error_iff.mpr (.inl fails)))
  | repeatStops _ body =>
      refine .step rfl ?_
      rw [List.append_assoc]
      exact .stop (body _)
  | whileEnds misses => exact .step (bind_eq_ok_iff.mpr ⟨_, misses, rfl⟩) (.ends .here)
  | whileAgain holds _ _ body again =>
      refine .step (bind_eq_ok_iff.mpr ⟨_, holds, rfl⟩) ?_
      rw [if_pos rfl, List.append_assoc]
      exact .next (body _) (again others)
  | whileStops holds _ body =>
      refine .step (bind_eq_ok_iff.mpr ⟨_, holds, rfl⟩) ?_
      rw [if_pos rfl, List.append_assoc]
      exact .stop (body _)
  | ifThen holds _ branch | ifElseThen holds _ branch =>
      exact .step (bind_eq_ok_iff.mpr ⟨_, holds, rfl⟩) (branch others)
  | ifSkips misses => exact .step (bind_eq_ok_iff.mpr ⟨_, misses, rfl⟩) (.ends .here)
  | ifElseOtherwise misses _ otherwise =>
      exact .step (bind_eq_ok_iff.mpr ⟨_, misses, rfl⟩) (otherwise others)

end Arriving

section Returning

/-- Two lists of statements, run one after the other. -/
theorem Command.runs_all_append {body others : List Statement}
    (runs : Command.Runs (.all (body ++ others)) machine result after) :
    (∃ middle, Command.Runs (.all body) machine (.ok ()) middle ∧
        Command.Runs (.all others) middle result after) ∨
      ∃ halt, result = .error halt ∧ Command.Runs (.all body) machine (.error halt) after := by
  induction body generalizing machine with
  | nil => exact .inl ⟨machine, .done, runs⟩
  | cons first rest inductionHypothesis =>
      cases runs with
      | next ends goesOn =>
          obtain ⟨middle, runs, last⟩ | ⟨halt, same, runs⟩ := inductionHypothesis goesOn
          · exact .inl ⟨middle, .next ends runs, last⟩
          · exact .inr ⟨halt, same, .next ends runs⟩
      | stop stops => exact .inr ⟨_, rfl, .stop stops⟩

theorem Command.runs_one_of_all (runs : Command.Runs (.all [first]) machine result after) :
    Command.Runs (.one first) machine result after := by
  cases runs with
  | next ends done =>
      cases done
      exact ends
  | stop stops => exact stops

/-- A statement runs like the statements that its step leaves in its place. -/
theorem Statement.runs_of_step (steps : first.step machine = .ok (middle, more))
    (runs : Command.Runs (.all more) middle result after) :
    Command.Runs (.one first) machine result after := by
  cases kind : first.isElementary with
  | true =>
      obtain ⟨ends, rfl⟩ := Statement.runs_of_elementary kind steps
      cases runs
      exact ends
  | false =>
      cases machine_of_step kind steps
      cases first with
      | assign | write | writeln => cases kind
      | empty =>
          cases steps
          cases runs
          exact .empty
      | compound =>
          cases steps
          exact .compound runs
      | repeatUntil line body test condition =>
          cases steps
          obtain ⟨between, ends, branches⟩ | ⟨halt, rfl, stops⟩ := Command.runs_all_append runs
          · cases Command.runs_one_of_all branches with
            | ifElseThen holds skips =>
                cases skips
                exact .repeatEnds ends holds
            | ifElseOtherwise misses again => exact .repeatAgain ends misses again
            | ifElseFails fails => exact .repeatFails ends fails
          · exact .repeatStops stops
      | whileDo line test condition bodyLine body =>
          obtain ⟨flag, found, same⟩ := bind_eq_ok_iff.mp steps
          cases flag with
          | false =>
              cases same
              cases runs
              exact .whileEnds found
          | true =>
              cases same
              obtain ⟨between, ends, again⟩ | ⟨halt, rfl, stops⟩ := Command.runs_all_append runs
              · exact .whileAgain found ends (Command.runs_one_of_all again)
              · exact .whileStops found stops
      | ifThen =>
          obtain ⟨flag, found, same⟩ := bind_eq_ok_iff.mp steps
          cases flag with
          | false =>
              cases same
              cases runs
              exact .ifSkips found
          | true =>
              cases same
              exact .ifThen found (Command.runs_one_of_all runs)
      | ifElse =>
          obtain ⟨flag, found, same⟩ := bind_eq_ok_iff.mp steps
          cases flag with
          | false =>
              cases same
              exact .ifElseOtherwise found (Command.runs_one_of_all runs)
          | true =>
              cases same
              exact .ifElseThen found (Command.runs_one_of_all runs)

/-- A statement that cannot make its step halts. -/
theorem Statement.runs_of_fails (fails : first.step machine = .error halt) :
    Command.Runs (.one first) machine (.error halt) (machine.halted halt) := by
  have only {α : Type} {found : Except Halt α} {next : α → Machine × List Statement}
      (fails : (do return next (← found)) = Except.error halt) : found = .error halt := by
    obtain same | ⟨_, _, same⟩ := bind_eq_error_iff.mp fails
    · exact same
    · cases same
  cases first with
  | empty | compound | repeatUntil => cases fails
  | assign => exact .assignFails (only fails)
  | whileDo => exact .whileFails (only fails)
  | ifThen => exact .ifFails (only fails)
  | ifElse => exact .ifElseFails (only fails)
  | write => exact .writeFails (only fails)
  | writeln line argument =>
      cases argument with
      | none => cases fails
      | some argument => exact .writelnFails (only fails)

/-- A run that comes to stand before a statement that fails halts there. -/
theorem Progress.halts {failing : Statement}
    (goes : Progress statements machine completed (failing :: left) place)
    (fails : failing.step place = .error halt) :
    Command.Runs (.all statements) machine (.error halt) (place.halted halt) := by
  generalize same : failing :: left = rest at goes
  induction goes with
  | here =>
      cases same
      exact .stop (Statement.runs_of_fails fails)
  | step steps _ inductionHypothesis =>
      obtain ⟨between, ends, others⟩ | ⟨halt, same, stops⟩ :=
        Command.runs_all_append (inductionHypothesis fails same)
      · exact .next (Statement.runs_of_step steps ends) others
      · cases same
        exact .stop (Statement.runs_of_step steps stops)

end Returning

/-- What the report of a halt adds to the output: one line for a runtime error, and nothing for a
fault. -/
def Halt.report : Halt → String
  | .error found => found.render
  | .fault _ => ""

theorem Machine.halted_eq (machine : Machine) (halt : Halt) :
    machine.halted halt = machine.print halt.report := by
  cases halt with
  | error => rfl
  | fault => exact congrArg (Machine.mk machine.table) String.append_empty.symm

/-- A program halts exactly where a statement that its run comes to cannot make its step. It leaves
the table that the elementary statements completed before leave when they are run alone, and their
output with the report behind it. -/
theorem halted_run_leaves_completed_statements (program : Program) (table : SymbolTable)
    (halt : Halt) (after : Machine) :
    (∃ bound, execute bound program.toTree table = .ended (.error halt) after) ↔
      ∃ completed failing left place,
        Progress program.body (.start table) completed (failing :: left) place ∧
        failing.step place = .error halt ∧
        (∀ statement ∈ completed, statement.isElementary = true) ∧
        (∃ bound, execute bound { program with body := completed }.toTree table =
          .ended (.ok ()) place) ∧
        after.table = place.table ∧ after.output = place.output ++ halt.report := by
  constructor
  · rintro ⟨bound, ends⟩
    have arrives := (runs_of_execute ends).arrives []
    rw [Command.body, List.append_nil] at arrives
    cases arrives with
    | @stops completed left failing place _ goes fails =>
        refine ⟨completed, failing, left, place, goes, fails, goes.elementary,
          execute_of_runs goes.runs_completed, ?_⟩
        rw [Machine.halted_eq]
        exact ⟨rfl, rfl⟩
  · rintro ⟨completed, failing, left, place, goes, fails, -, -, sameTable, sameOutput⟩
    have same : place.halted halt = after := by
      rw [Machine.halted_eq, Machine.print, ← sameTable, ← sameOutput]
    exact execute_of_runs (same ▸ goes.halts fails)

end MiniPascal
