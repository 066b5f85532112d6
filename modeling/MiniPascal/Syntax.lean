/-
This file holds the expressions, statements and programs that a text writes.
-/

import MiniPascal.SymbolTable

namespace MiniPascal

/-- The spelling of a token and its line. -/
structure Mark where
  text : String
  line : Nat
deriving DecidableEq, Repr

/-- A variable is read or assigned at its mark. -/
structure Variable where
  mark : Mark
  binding : Binding
deriving DecidableEq, Repr

inductive UnaryOperator where
  | negation
  | minus
  | plus
deriving DecidableEq, Repr

inductive BinaryOperator where
  | add
  | subtract
  | multiply
  | divide
  | modulus
  | conjunction
  | disjunction
  | equal
  | less
  | lessEqual
  | greaterEqual
  | greater
  | notEqual
deriving DecidableEq, Repr

/-- An operator stands at its mark, a literal at its own. -/
inductive Expression where
  | reference (source : Variable)
  | integer (mark : Mark) (number : Nat)
  | real (mark : Mark) (number : Float)
  | unary (operator : UnaryOperator) (mark : Mark) (operand : Expression)
  | binary (operator : BinaryOperator) (mark : Mark) (left right : Expression)

/-- An integer literal that lays out the output. -/
structure Width where
  mark : Mark
  number : Nat
deriving DecidableEq, Repr

/-- What a statement writes. -/
inductive Item where
  | reference (source : Variable)
  | string (mark : Mark) (content : String)
deriving DecidableEq, Repr

/-- The count of decimal places comes after a field width. -/
inductive Format where
  | plain
  | field (width : Width)
  | fixed (width places : Width)
deriving DecidableEq, Repr

structure Argument where
  item : Item
  format : Format
deriving DecidableEq, Repr

/-- A statement has the line of its first token; a test has the spelling of its keyword and the
line on which it is read. A loop or a branch without a statement is `empty`. -/
inductive Statement where
  | empty (line : Nat)
  | compound (line : Nat) (body : List Statement)
  | assign (line : Nat) (target : Variable) (value : Expression)
  | repeatUntil (line : Nat) (body : List Statement) (test : Mark) (condition : Expression)
  | whileDo (line : Nat) (test : Mark) (condition : Expression) (bodyLine : Nat)
      (body : List Statement)
  | ifThen (line : Nat) (test : Mark) (condition : Expression) (branch : Statement)
  | ifElse (line : Nat) (test : Mark) (condition : Expression) (branch otherwise : Statement)
  | write (line : Nat) (argument : Argument)
  | writeln (line : Nat) (argument : Option Argument)

/-- A property holds of every statement when it passes from the parts of a statement to the
whole. -/
@[elab_as_elim] theorem Statement.inductionOn {motive : Statement → Prop} (statement : Statement)
    (empty : ∀ line, motive (.empty line))
    (compound : ∀ line body, (∀ part ∈ body, motive part) → motive (.compound line body))
    (assign : ∀ line target value, motive (.assign line target value))
    (repeatUntil : ∀ line body test condition, (∀ part ∈ body, motive part) →
      motive (.repeatUntil line body test condition))
    (whileDo : ∀ line test condition bodyLine body, (∀ part ∈ body, motive part) →
      motive (.whileDo line test condition bodyLine body))
    (ifThen : ∀ line test condition branch, motive branch →
      motive (.ifThen line test condition branch))
    (ifElse : ∀ line test condition branch otherwise, motive branch → motive otherwise →
      motive (.ifElse line test condition branch otherwise))
    (write : ∀ line argument, motive (.write line argument))
    (writeln : ∀ line argument, motive (.writeln line argument)) : motive statement :=
  Statement.rec (motive_1 := motive) (motive_2 := fun body => ∀ part ∈ body, motive part)
    empty compound assign repeatUntil whileDo ifThen ifElse write writeln (by simp)
    (fun _ _ first others => by simpa using ⟨first, others⟩) statement

/-- A program without a readable name has none. -/
structure Program where
  line : Nat
  name : Option String
  bodyLine : Nat
  body : List Statement

end MiniPascal
