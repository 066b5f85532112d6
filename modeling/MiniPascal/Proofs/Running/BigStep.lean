/-
This file runs statements as they are written, by a relation between the machine before and the
machine behind.
-/

import MiniPascal.Proofs.Running.Meaning

namespace MiniPascal

/-- What is run: one statement, or all statements of a body one after the other. -/
inductive Command where
  | one (statement : Statement)
  | all (body : List Statement)

/-- A command runs from a machine to another one, to its end or up to a halt. -/
inductive Command.Runs : Command → Machine → Except Halt Unit → Machine → Prop where
  | done {machine : Machine} : Runs (.all []) machine (.ok ()) machine
  | next {first : Statement} {others : List Statement} {machine middle after : Machine}
      {result : Except Halt Unit} (ends : Runs (.one first) machine (.ok ()) middle)
      (goesOn : Runs (.all others) middle result after) :
      Runs (.all (first :: others)) machine result after
  | stop {first : Statement} {others : List Statement} {machine after : Machine} {halt : Halt}
      (stops : Runs (.one first) machine (.error halt) after) :
      Runs (.all (first :: others)) machine (.error halt) after
  | empty {line : Nat} {machine : Machine} : Runs (.one (.empty line)) machine (.ok ()) machine
  | compound {line : Nat} {body : List Statement} {machine after : Machine}
      {result : Except Halt Unit} (runs : Runs (.all body) machine result after) :
      Runs (.one (.compound line body)) machine result after
  | assign {line : Nat} {target : Variable} {value : Expression} {machine : Machine}
      {number : Float} (yields : target.mark.number (value.value machine.table) = .ok number) :
      Runs (.one (.assign line target value)) machine (.ok ())
        (machine.assign target.binding number)
  | assignFails {line : Nat} {target : Variable} {value : Expression} {machine : Machine}
      {halt : Halt} (fails : target.mark.number (value.value machine.table) = .error halt) :
      Runs (.one (.assign line target value)) machine (.error halt) (machine.halted halt)
  | repeatEnds {line : Nat} {body : List Statement} {test : Mark} {condition : Expression}
      {machine after : Machine} (runs : Runs (.all body) machine (.ok ()) after)
      (holds : test.truth (condition.value after.table) = .ok true) :
      Runs (.one (.repeatUntil line body test condition)) machine (.ok ()) after
  | repeatAgain {line : Nat} {body : List Statement} {test : Mark} {condition : Expression}
      {machine middle after : Machine} {result : Except Halt Unit}
      (runs : Runs (.all body) machine (.ok ()) middle)
      (misses : test.truth (condition.value middle.table) = .ok false)
      (again : Runs (.one (.repeatUntil line body test condition)) middle result after) :
      Runs (.one (.repeatUntil line body test condition)) machine result after
  | repeatFails {line : Nat} {body : List Statement} {test : Mark} {condition : Expression}
      {machine middle : Machine} {halt : Halt}
      (runs : Runs (.all body) machine (.ok ()) middle)
      (fails : test.truth (condition.value middle.table) = .error halt) :
      Runs (.one (.repeatUntil line body test condition)) machine (.error halt)
        (middle.halted halt)
  | repeatStops {line : Nat} {body : List Statement} {test : Mark} {condition : Expression}
      {machine after : Machine} {halt : Halt}
      (stops : Runs (.all body) machine (.error halt) after) :
      Runs (.one (.repeatUntil line body test condition)) machine (.error halt) after
  | whileEnds {line bodyLine : Nat} {test : Mark} {condition : Expression}
      {body : List Statement} {machine : Machine}
      (misses : test.truth (condition.value machine.table) = .ok false) :
      Runs (.one (.whileDo line test condition bodyLine body)) machine (.ok ()) machine
  | whileAgain {line bodyLine : Nat} {test : Mark} {condition : Expression}
      {body : List Statement} {machine middle after : Machine} {result : Except Halt Unit}
      (holds : test.truth (condition.value machine.table) = .ok true)
      (runs : Runs (.all body) machine (.ok ()) middle)
      (again : Runs (.one (.whileDo line test condition bodyLine body)) middle result after) :
      Runs (.one (.whileDo line test condition bodyLine body)) machine result after
  | whileFails {line bodyLine : Nat} {test : Mark} {condition : Expression}
      {body : List Statement} {machine : Machine} {halt : Halt}
      (fails : test.truth (condition.value machine.table) = .error halt) :
      Runs (.one (.whileDo line test condition bodyLine body)) machine (.error halt)
        (machine.halted halt)
  | whileStops {line bodyLine : Nat} {test : Mark} {condition : Expression}
      {body : List Statement} {machine after : Machine} {halt : Halt}
      (holds : test.truth (condition.value machine.table) = .ok true)
      (stops : Runs (.all body) machine (.error halt) after) :
      Runs (.one (.whileDo line test condition bodyLine body)) machine (.error halt) after
  | ifThen {line : Nat} {test : Mark} {condition : Expression} {branch : Statement}
      {machine after : Machine} {result : Except Halt Unit}
      (holds : test.truth (condition.value machine.table) = .ok true)
      (runs : Runs (.one branch) machine result after) :
      Runs (.one (.ifThen line test condition branch)) machine result after
  | ifSkips {line : Nat} {test : Mark} {condition : Expression} {branch : Statement}
      {machine : Machine} (misses : test.truth (condition.value machine.table) = .ok false) :
      Runs (.one (.ifThen line test condition branch)) machine (.ok ()) machine
  | ifFails {line : Nat} {test : Mark} {condition : Expression} {branch : Statement}
      {machine : Machine} {halt : Halt}
      (fails : test.truth (condition.value machine.table) = .error halt) :
      Runs (.one (.ifThen line test condition branch)) machine (.error halt)
        (machine.halted halt)
  | ifElseThen {line : Nat} {test : Mark} {condition : Expression}
      {branch otherwise : Statement} {machine after : Machine} {result : Except Halt Unit}
      (holds : test.truth (condition.value machine.table) = .ok true)
      (runs : Runs (.one branch) machine result after) :
      Runs (.one (.ifElse line test condition branch otherwise)) machine result after
  | ifElseOtherwise {line : Nat} {test : Mark} {condition : Expression}
      {branch otherwise : Statement} {machine after : Machine} {result : Except Halt Unit}
      (misses : test.truth (condition.value machine.table) = .ok false)
      (runs : Runs (.one otherwise) machine result after) :
      Runs (.one (.ifElse line test condition branch otherwise)) machine result after
  | ifElseFails {line : Nat} {test : Mark} {condition : Expression}
      {branch otherwise : Statement} {machine : Machine} {halt : Halt}
      (fails : test.truth (condition.value machine.table) = .error halt) :
      Runs (.one (.ifElse line test condition branch otherwise)) machine (.error halt)
        (machine.halted halt)
  | write {line : Nat} {argument : Argument} {machine : Machine} {text : String}
      (shows : argument.text machine.table = .ok text) :
      Runs (.one (.write line argument)) machine (.ok ()) (machine.print text)
  | writeFails {line : Nat} {argument : Argument} {machine : Machine} {halt : Halt}
      (fails : argument.text machine.table = .error halt) :
      Runs (.one (.write line argument)) machine (.error halt) (machine.halted halt)
  | writelnPlain {line : Nat} {machine : Machine} :
      Runs (.one (.writeln line none)) machine (.ok ()) (machine.print "\n")
  | writeln {line : Nat} {argument : Argument} {machine : Machine} {text : String}
      (shows : argument.text machine.table = .ok text) :
      Runs (.one (.writeln line (some argument))) machine (.ok ())
        ((machine.print text).print "\n")
  | writelnFails {line : Nat} {argument : Argument} {machine : Machine} {halt : Halt}
      (fails : argument.text machine.table = .error halt) :
      Runs (.one (.writeln line (some argument))) machine (.error halt) (machine.halted halt)

end MiniPascal
