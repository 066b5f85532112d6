/-
This file shows that a run halts exactly where something fails that a statement asks for.
-/

import MiniPascal.Proofs.Parsing.Binding
import MiniPascal.Proofs.Running.BigStep

namespace MiniPascal

/-- What a statement asks for before it acts: the number or the truth value of an expression, or
the text of an argument. -/
inductive Query where
  | number (mark : Mark) (source : Expression)
  | truth (mark : Mark) (source : Expression)
  | text (argument : Argument)

/-- A query fails over a table when there is no answer but a halt. -/
def Query.Fails (table : SymbolTable) : Query → Halt → Prop
  | .number mark source, halt => mark.number (source.value table) = .error halt
  | .truth mark source, halt => mark.truth (source.value table) = .error halt
  | .text argument, halt => argument.text table = .error halt

def Query.variables : Query → List Variable
  | .number _ source => source.variables
  | .truth _ source => source.variables
  | .text argument => argument.variables

def Command.variables : Command → List Variable
  | .one statement => statement.variables
  | .all body => Statement.allVariables body

/-- A command that runs from a machine comes to ask something on another one. Nothing is said
about the answer. -/
inductive Command.Asks : Command → Machine → Query → Machine → Prop where
  | first {first : Statement} {others : List Statement} {machine place : Machine} {query : Query}
      (asks : Asks (.one first) machine query place) :
      Asks (.all (first :: others)) machine query place
  | later {first : Statement} {others : List Statement} {machine middle place : Machine}
      {query : Query} (ends : Runs (.one first) machine (.ok ()) middle)
      (asks : Asks (.all others) middle query place) :
      Asks (.all (first :: others)) machine query place
  | compound {line : Nat} {body : List Statement} {machine place : Machine} {query : Query}
      (asks : Asks (.all body) machine query place) :
      Asks (.one (.compound line body)) machine query place
  | assign {line : Nat} {target : Variable} {value : Expression} {machine : Machine} :
      Asks (.one (.assign line target value)) machine (.number target.mark value) machine
  | repeatBody {line : Nat} {body : List Statement} {test : Mark} {condition : Expression}
      {machine place : Machine} {query : Query} (asks : Asks (.all body) machine query place) :
      Asks (.one (.repeatUntil line body test condition)) machine query place
  | repeatTest {line : Nat} {body : List Statement} {test : Mark} {condition : Expression}
      {machine middle : Machine} (runs : Runs (.all body) machine (.ok ()) middle) :
      Asks (.one (.repeatUntil line body test condition)) machine (.truth test condition) middle
  | repeatAgain {line : Nat} {body : List Statement} {test : Mark} {condition : Expression}
      {machine middle place : Machine} {query : Query}
      (runs : Runs (.all body) machine (.ok ()) middle)
      (misses : test.truth (condition.value middle.table) = .ok false)
      (again : Asks (.one (.repeatUntil line body test condition)) middle query place) :
      Asks (.one (.repeatUntil line body test condition)) machine query place
  | whileTest {line bodyLine : Nat} {test : Mark} {condition : Expression}
      {body : List Statement} {machine : Machine} :
      Asks (.one (.whileDo line test condition bodyLine body)) machine (.truth test condition)
        machine
  | whileBody {line bodyLine : Nat} {test : Mark} {condition : Expression}
      {body : List Statement} {machine place : Machine} {query : Query}
      (holds : test.truth (condition.value machine.table) = .ok true)
      (asks : Asks (.all body) machine query place) :
      Asks (.one (.whileDo line test condition bodyLine body)) machine query place
  | whileAgain {line bodyLine : Nat} {test : Mark} {condition : Expression}
      {body : List Statement} {machine middle place : Machine} {query : Query}
      (holds : test.truth (condition.value machine.table) = .ok true)
      (runs : Runs (.all body) machine (.ok ()) middle)
      (again : Asks (.one (.whileDo line test condition bodyLine body)) middle query place) :
      Asks (.one (.whileDo line test condition bodyLine body)) machine query place
  | ifTest {line : Nat} {test : Mark} {condition : Expression} {branch : Statement}
      {machine : Machine} :
      Asks (.one (.ifThen line test condition branch)) machine (.truth test condition) machine
  | ifBranch {line : Nat} {test : Mark} {condition : Expression} {branch : Statement}
      {machine place : Machine} {query : Query}
      (holds : test.truth (condition.value machine.table) = .ok true)
      (asks : Asks (.one branch) machine query place) :
      Asks (.one (.ifThen line test condition branch)) machine query place
  | ifElseTest {line : Nat} {test : Mark} {condition : Expression}
      {branch otherwise : Statement} {machine : Machine} :
      Asks (.one (.ifElse line test condition branch otherwise)) machine (.truth test condition)
        machine
  | ifElseBranch {line : Nat} {test : Mark} {condition : Expression}
      {branch otherwise : Statement} {machine place : Machine} {query : Query}
      (holds : test.truth (condition.value machine.table) = .ok true)
      (asks : Asks (.one branch) machine query place) :
      Asks (.one (.ifElse line test condition branch otherwise)) machine query place
  | ifElseOtherwise {line : Nat} {test : Mark} {condition : Expression}
      {branch otherwise : Statement} {machine place : Machine} {query : Query}
      (misses : test.truth (condition.value machine.table) = .ok false)
      (asks : Asks (.one otherwise) machine query place) :
      Asks (.one (.ifElse line test condition branch otherwise)) machine query place
  | write {line : Nat} {argument : Argument} {machine : Machine} :
      Asks (.one (.write line argument)) machine (.text argument) machine
  | writeln {line : Nat} {argument : Argument} {machine : Machine} :
      Asks (.one (.writeln line (some argument))) machine (.text argument) machine

namespace Command

variable {command : Command} {machine place after : Machine} {query : Query}

/-- A run that halts has come to ask something that fails. -/
theorem Runs.fails {result : Except Halt Unit} (runs : command.Runs machine result after)
    {halt : Halt} (halts : result = .error halt) :
    ∃ query place, command.Asks machine query place ∧ query.Fails place.table halt ∧
      after = place.halted halt := by
  induction runs with
  | done | empty | assign | repeatEnds | whileEnds | ifSkips | write | writelnPlain | writeln =>
      cases halts
  | next ends _ _ others =>
      obtain ⟨query, place, asks, fails⟩ := others halts
      exact ⟨query, place, .later ends asks, fails⟩
  | stop _ first =>
      obtain ⟨query, place, asks, fails⟩ := first halts
      exact ⟨query, place, .first asks, fails⟩
  | compound _ body =>
      obtain ⟨query, place, asks, fails⟩ := body halts
      exact ⟨query, place, .compound asks, fails⟩
  | assignFails fails =>
      cases halts
      exact ⟨_, _, .assign, fails, rfl⟩
  | repeatAgain runs misses _ _ others =>
      obtain ⟨query, place, asks, fails⟩ := others halts
      exact ⟨query, place, .repeatAgain runs misses asks, fails⟩
  | repeatFails runs fails =>
      cases halts
      exact ⟨_, _, .repeatTest runs, fails, rfl⟩
  | repeatStops _ body =>
      obtain ⟨query, place, asks, fails⟩ := body halts
      exact ⟨query, place, .repeatBody asks, fails⟩
  | whileAgain holds runs _ _ others =>
      obtain ⟨query, place, asks, fails⟩ := others halts
      exact ⟨query, place, .whileAgain holds runs asks, fails⟩
  | whileFails fails =>
      cases halts
      exact ⟨_, _, .whileTest, fails, rfl⟩
  | whileStops holds _ body =>
      obtain ⟨query, place, asks, fails⟩ := body halts
      exact ⟨query, place, .whileBody holds asks, fails⟩
  | ifThen holds _ branch =>
      obtain ⟨query, place, asks, fails⟩ := branch halts
      exact ⟨query, place, .ifBranch holds asks, fails⟩
  | ifFails fails =>
      cases halts
      exact ⟨_, _, .ifTest, fails, rfl⟩
  | ifElseThen holds _ branch =>
      obtain ⟨query, place, asks, fails⟩ := branch halts
      exact ⟨query, place, .ifElseBranch holds asks, fails⟩
  | ifElseOtherwise misses _ otherwise =>
      obtain ⟨query, place, asks, fails⟩ := otherwise halts
      exact ⟨query, place, .ifElseOtherwise misses asks, fails⟩
  | ifElseFails fails =>
      cases halts
      exact ⟨_, _, .ifElseTest, fails, rfl⟩
  | writeFails fails =>
      cases halts
      exact ⟨_, _, .write, fails, rfl⟩
  | writelnFails fails =>
      cases halts
      exact ⟨_, _, .writeln, fails, rfl⟩

/-- What is asked and fails halts the run. -/
theorem Asks.halts (asks : command.Asks machine query place) {halt : Halt}
    (fails : query.Fails place.table halt) :
    command.Runs machine (.error halt) (place.halted halt) := by
  induction asks with
  | first _ first => exact .stop (first fails)
  | later ends _ others => exact .next ends (others fails)
  | compound _ body => exact .compound (body fails)
  | assign => exact .assignFails fails
  | repeatBody _ body => exact .repeatStops (body fails)
  | repeatTest runs => exact .repeatFails runs fails
  | repeatAgain runs misses _ others => exact .repeatAgain runs misses (others fails)
  | whileTest => exact .whileFails fails
  | whileBody holds _ body => exact .whileStops holds (body fails)
  | whileAgain holds runs _ others => exact .whileAgain holds runs (others fails)
  | ifTest => exact .ifFails fails
  | ifBranch holds _ branch => exact .ifThen holds (branch fails)
  | ifElseTest => exact .ifElseFails fails
  | ifElseBranch holds _ branch => exact .ifElseThen holds (branch fails)
  | ifElseOtherwise misses _ otherwise => exact .ifElseOtherwise misses (otherwise fails)
  | write => exact .writeFails fails
  | writeln => exact .writelnFails fails

/-- A run halts exactly where it comes to ask something that fails. -/
theorem runs_error_iff {halt : Halt} :
    command.Runs machine (.error halt) after ↔
      ∃ query place, command.Asks machine query place ∧ query.Fails place.table halt ∧
        after = place.halted halt := by
  constructor
  · exact fun runs => runs.fails rfl
  · rintro ⟨query, place, asks, fails, rfl⟩
    exact asks.halts fails

/-- What every write to the table keeps, a run keeps. -/
theorem Runs.keeps {result : Except Halt Unit} {holds : SymbolTable → Prop}
    (writes : ∀ table number target, holds table → holds (table.write number target))
    (runs : command.Runs machine result after) (start : holds machine.table) :
    holds after.table := by
  have halted (machine : Machine) (halt : Halt) (start : holds machine.table) :
      holds (machine.halted halt).table := by
    cases halt <;> exact start
  induction runs with
  | done | empty | whileEnds | ifSkips | write | writelnPlain | writeln => exact start
  | next _ _ first others => exact others (first start)
  | stop _ part | compound _ part | repeatStops _ part | whileStops _ _ part
  | ifThen _ _ part | ifElseThen _ _ part | ifElseOtherwise _ _ part => exact part start
  | assign => exact writes _ _ _ start
  | assignFails | whileFails | ifFails | ifElseFails | writeFails | writelnFails =>
      exact halted _ _ start
  | repeatEnds _ _ body => exact body start
  | repeatAgain _ _ _ body again => exact again (body start)
  | repeatFails _ _ body => exact halted _ _ (body start)
  | whileAgain _ _ _ body again => exact again (body start)

/-- What every write to the table keeps holds wherever something is asked. -/
theorem Asks.keeps {holds : SymbolTable → Prop}
    (writes : ∀ table number target, holds table → holds (table.write number target))
    (asks : command.Asks machine query place) (start : holds machine.table) :
    holds place.table := by
  induction asks with
  | assign | whileTest | ifTest | ifElseTest | write | writeln => exact start
  | first _ part | compound _ part | repeatBody _ part | whileBody _ _ part | ifBranch _ _ part
  | ifElseBranch _ _ part | ifElseOtherwise _ _ part => exact part start
  | later runs _ part | whileAgain _ runs _ part | repeatAgain runs _ _ part =>
      exact part (runs.keeps writes start)
  | repeatTest runs => exact runs.keeps writes start

/-- A command asks for variables of its own only. -/
theorem Asks.variables (asks : command.Asks machine query place) :
    ∀ source ∈ query.variables, source ∈ command.variables := by
  intro source inside
  induction asks with
  | assign => exact List.mem_cons_of_mem _ inside
  | whileTest | ifTest => exact List.mem_append_left _ inside
  | ifElseTest => exact List.mem_append_left _ (List.mem_append_left _ inside)
  | repeatTest => exact List.mem_append_right _ inside
  | write | writeln => exact inside
  | compound _ part => exact part inside
  | first _ part | repeatBody _ part => exact List.mem_append_left _ (part inside)
  | later _ _ part | whileBody _ _ part | ifBranch _ _ part | ifElseOtherwise _ _ part =>
      exact List.mem_append_right _ (part inside)
  | ifElseBranch _ _ part => exact List.mem_append_left _ (List.mem_append_right _ (part inside))
  | whileAgain _ _ _ part | repeatAgain _ _ _ part => exact part inside

end Command

end MiniPascal
