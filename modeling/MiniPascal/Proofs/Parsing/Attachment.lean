/-
This file shows that an else-branch belongs to the nearest conditional in front of it that lacks one,
whatever mistakes stand between them.
-/

import Mathlib
import MiniPascal.Proofs.Parsing.Traced
import MiniPascal.Proofs.Trees.Shape

namespace MiniPascal

/-- Every conditional on the chain of else-branches that starts at a node has an else-branch. -/
inductive Tree.Complete : Tree → Prop where
  | other {node : Tree} (other : node.kind ≠ .conditional) : Complete node
  | chained {node otherwise : Tree} (found : node.children[2]? = some otherwise)
      (complete : otherwise.Complete) : Complete node

/-- An else-branch of a node stands behind a complete branch. -/
def Tree.ElseBehindComplete (node : Tree) : Prop :=
  node.kind = .conditional → ∀ branch otherwise, node.children[1]? = some branch →
    node.children[2]? = some otherwise → branch.Complete

/-- A statement that an else-branch behind it would belong to. -/
def Statement.isOpen : Statement → Bool
  | .ifThen .. => true
  | .ifElse _ _ _ _ otherwise => otherwise.isOpen
  | _ => false

/-- A statement that stands for one that is missing or that has a mistake. -/
def Statement.isEmpty : Statement → Bool
  | .empty _ => true
  | _ => false

/-- In front of every else-branch in a statement is a branch that was read and that is not open. -/
inductive Statement.Attached : Statement → Prop where
  | empty {line : Nat} : Attached (.empty line)
  | compound {line : Nat} {body : List Statement} (parts : ∀ part ∈ body, part.Attached) :
      Attached (.compound line body)
  | assign {line : Nat} {target : Variable} {value : Expression} :
      Attached (.assign line target value)
  | repeatUntil {line : Nat} {body : List Statement} {test : Mark} {condition : Expression}
      (parts : ∀ part ∈ body, part.Attached) : Attached (.repeatUntil line body test condition)
  | whileDo {line bodyLine : Nat} {test : Mark} {condition : Expression} {body : List Statement}
      (parts : ∀ part ∈ body, part.Attached) :
      Attached (.whileDo line test condition bodyLine body)
  | ifThen {line : Nat} {test : Mark} {condition : Expression} {branch : Statement}
      (branchAttached : branch.Attached) : Attached (.ifThen line test condition branch)
  | ifElse {line : Nat} {test : Mark} {condition : Expression} {branch otherwise : Statement}
      (present : branch.isEmpty = false) (closed : branch.isOpen = false)
      (branchAttached : branch.Attached) (otherwiseAttached : otherwise.Attached) :
      Attached (.ifElse line test condition branch otherwise)
  | write {line : Nat} {argument : Argument} : Attached (.write line argument)
  | writeln {line : Nat} {argument : Option Argument} : Attached (.writeln line argument)

section Trees

variable {label : Label} {children : List Tree}

theorem Statement.complete_toTree {statement : Statement} (closed : statement.isOpen = false) :
    statement.toTree.Complete := by
  induction statement using Statement.inductionOn with
  | ifThen => cases closed
  | ifElse _ _ _ _ _ _ otherwise => exact .chained rfl (otherwise closed)
  | writeln _ argument => cases argument <;> exact .other nofun
  | _ => exact .other nofun

theorem Tree.ElseBehindComplete.other (other : label.kind ≠ .conditional) :
    (Tree.node label children).ElseBehindComplete := fun same => absurd same other

/-- No node of an expression is a conditional. -/
theorem Expression.elseBehindComplete (source : Expression) :
    ∀ node ∈ source.toTree.preorder, node.ElseBehindComplete := by
  induction source with
  | reference | integer | real => exact Tree.forall_mem_preorder.mpr ⟨.other nofun, nofun⟩
  | unary operator mark operand inductionHypothesis =>
      exact Tree.forall_mem_preorder.mpr
        ⟨.other nofun, List.forall_mem_singleton.mpr inductionHypothesis⟩
  | binary operator mark left right first second =>
      exact Tree.forall_mem_preorder.mpr
        ⟨.other nofun, List.forall_mem_cons.mpr ⟨first, List.forall_mem_singleton.mpr second⟩⟩

theorem testTree_elseBehindComplete (test : Mark) {condition : Tree}
    (parts : ∀ node ∈ condition.preorder, node.ElseBehindComplete) :
    ∀ node ∈ (testTree test condition).preorder, node.ElseBehindComplete :=
  Tree.forall_mem_preorder.mpr ⟨.other nofun, List.forall_mem_singleton.mpr parts⟩

theorem Argument.elseBehindComplete (argument : Argument) :
    ∀ tree ∈ argument.toTrees, ∀ node ∈ tree.preorder, node.ElseBehindComplete := by
  refine List.forall_mem_cons.mpr ⟨?_, ?_⟩
  · cases argument.item <;> exact Tree.forall_mem_preorder.mpr ⟨.other nofun, nofun⟩
  · rw [Format.toTrees_eq_map]
    exact List.forall_mem_map.mpr fun _ _ => Tree.forall_mem_preorder.mpr ⟨.other nofun, nofun⟩

theorem Statement.Attached.elseBehindComplete {statement : Statement}
    (attached : statement.Attached) :
    ∀ node ∈ statement.toTree.preorder, node.ElseBehindComplete := by
  have all {body : List Statement}
      (parts : ∀ part ∈ body, ∀ node ∈ part.toTree.preorder, node.ElseBehindComplete) :
      ∀ tree ∈ Statement.toTrees body, ∀ node ∈ tree.preorder, node.ElseBehindComplete := by
    rw [Statement.toTrees_eq_map]
    exact List.forall_mem_map.mpr parts
  have tested (test : Mark) (condition : Expression) :=
    testTree_elseBehindComplete test condition.elseBehindComplete
  induction attached with
  | empty => exact Tree.forall_mem_preorder.mpr ⟨.other nofun, nofun⟩
  | compound _ parts => exact Tree.forall_mem_preorder.mpr ⟨.other nofun, all parts⟩
  | @assign _ _ value =>
      exact Tree.forall_mem_preorder.mpr ⟨.other nofun, List.forall_mem_cons.mpr
        ⟨Tree.forall_mem_preorder.mpr ⟨.other nofun, nofun⟩,
          List.forall_mem_singleton.mpr value.elseBehindComplete⟩⟩
  | @repeatUntil _ _ test condition _ parts =>
      exact Tree.forall_mem_preorder.mpr ⟨.other nofun, List.forall_mem_append.mpr
        ⟨all parts, List.forall_mem_singleton.mpr (tested test condition)⟩⟩
  | @whileDo _ _ test condition _ _ parts =>
      refine Tree.forall_mem_preorder.mpr ⟨.other nofun, List.forall_mem_cons.mpr
        ⟨testTree_elseBehindComplete test ?_, List.forall_mem_singleton.mpr ?_⟩⟩
      · exact Tree.forall_mem_preorder.mpr
          ⟨.other nofun, List.forall_mem_singleton.mpr condition.elseBehindComplete⟩
      · exact Tree.forall_mem_preorder.mpr ⟨.other nofun, all parts⟩
  | @ifThen _ test condition _ _ branch =>
      refine Tree.forall_mem_preorder.mpr ⟨fun _ _ _ _ found => ?_, List.forall_mem_cons.mpr
        ⟨tested test condition, List.forall_mem_singleton.mpr branch⟩⟩
      cases found
  | @ifElse _ test condition _ _ _ closed _ _ branch otherwise =>
      refine Tree.forall_mem_preorder.mpr ⟨fun _ _ _ found _ => ?_, List.forall_mem_cons.mpr
        ⟨tested test condition, List.forall_mem_cons.mpr
          ⟨branch, List.forall_mem_singleton.mpr otherwise⟩⟩⟩
      obtain rfl := Option.some.inj found
      exact Statement.complete_toTree closed
  | @write _ argument =>
      exact Tree.forall_mem_preorder.mpr ⟨.other nofun, argument.elseBehindComplete⟩
  | @writeln _ argument =>
      cases argument with
      | none => exact Tree.forall_mem_preorder.mpr ⟨.other nofun, nofun⟩
      | some argument =>
          exact Tree.forall_mem_preorder.mpr ⟨.other nofun, argument.elseBehindComplete⟩

end Trees

namespace Parse

/-- A statement that was read and is not open, if the parser stands before an else-branch. -/
def ClosedBefore (state : ParseState) (found : Option Statement) : Prop :=
  state.stream.current.kind = .keyword .elseWord →
    ∃ statement, found = some statement ∧ statement.isEmpty = false ∧ statement.isOpen = false

variable {state : ParseState}

theorem closedBefore_of_closed {statement : Statement} (read : statement.isEmpty = false)
    (closed : statement.isOpen = false) : ClosedBefore state (some statement) :=
  fun _ => ⟨statement, rfl, read, closed⟩

/-- No statement ends before an else-branch. -/
theorem closedBefore_of_endsStatement (ends : endsStatement state.stream.current.kind = true)
    (found : Option Statement) : ClosedBefore state found := by
  intro same
  rw [same] at ends
  cases ends

end Parse

open Parse

/-- Attached statements are found, and the parser stops before an else-branch only when the last of them
is closed. A mistake is dropped where a statement ends, and not before an else-branch. -/
theorem StatementTrace.attached {construct : Construct} {state after : ParseState}
    {found : List Statement} (trace : StatementTrace construct state found after) :
    (∀ part ∈ found, part.Attached) ∧
      ((∀ terminal, construct ≠ .list terminal) → ClosedBefore after found.head?) := by
  have one {construct : Construct} {place : ParseState} {statement : Statement}
      (attached : statement.Attached) (closed : ClosedBefore place (some statement)) :
      (∀ part ∈ [statement], part.Attached) ∧
        ((∀ terminal, construct ≠ .list terminal) → ClosedBefore place [statement].head?) :=
    ⟨List.forall_mem_singleton.mpr attached, fun _ => closed⟩
  induction trace with
  | assign => exact one .assign (closedBefore_of_closed rfl rfl)
  | compound _ _ _ _ body => exact one (.compound body.1) (closedBefore_of_closed rfl rfl)
  | repeatUntil _ _ _ _ _ _ body => exact one (.repeatUntil body.1) (closedBefore_of_closed rfl rfl)
  | whileDo _ _ _ _ _ _ _ _ _ body => exact one (.whileDo body.1) (closedBefore_of_closed rfl rfl)
  | ifThen _ _ _ _ _ _ noElse branch =>
      refine one (.ifThen (List.forall_mem_singleton.mp branch.1)) fun same => ?_
      rw [same] at noElse
      cases noElse
  | ifElse _ _ _ _ _ _ elseKind _ _ branch otherwise =>
      obtain ⟨_, same, present, closed⟩ := branch.2 nofun elseKind
      obtain rfl := Option.some.inj same
      refine one (.ifElse present closed (List.forall_mem_singleton.mp branch.1)
        (List.forall_mem_singleton.mp otherwise.1)) fun behind => ?_
      obtain ⟨_, same, _, chain⟩ := otherwise.2 nofun behind
      obtain rfl := Option.some.inj same
      exact ⟨_, rfl, rfl, chain⟩
  | write => exact one .write (closedBefore_of_closed rfl rfl)
  | writeln | writelnPlain => exact one .writeln (closedBefore_of_closed rfl rfl)
  | gap kind => exact ⟨nofun, fun _ => closedBefore_of_endsStatement (by rw [kind]; rfl) _⟩
  | dropped recovers => exact ⟨nofun, fun _ => closedBefore_of_endsStatement recovers.settled _⟩
  | branch _ statement => exact ⟨statement.1, fun _ => statement.2 nofun⟩
  | emptyBranch _ statement =>
      refine one .empty fun same => ?_
      obtain ⟨_, missing, _⟩ := statement.2 nofun same
      cases missing
  | listEnd => exact ⟨nofun, fun other => absurd rfl (other _)⟩
  | listNext _ _ _ first others =>
      exact ⟨List.forall_mem_append.mpr ⟨first.1, others.1⟩, fun other => absurd rfl (other _)⟩

theorem ProgramTrace.attached {state after : ParseState} {program : Program}
    (trace : ProgramTrace state program after) : ∀ part ∈ program.body, part.Attached := by
  cases trace with
  | program _ _ _ _ body =>
      obtain ⟨_, _, _, statements, _⟩ := body.parts
      exact statements.attached.1

theorem Parse.program_attaches (state : ParseState) :
    program.Leads state fun found _ => ∀ part ∈ found.body, part.Attached :=
  (program_traces state).weaken fun _ _ _ ⟨_, _, trace⟩ => trace.attached

/-- Wherever the tree of a parsed text has a conditional with an else-branch, the branch in front of it
is complete: if it is a conditional it has an else-branch of its own, and so have all conditionals on
the chain of else-branches that starts there. That branch was read, and does not stand for one that is
missing or dropped for a mistake. -/
theorem else_belongs_to_nearest_conditional (text : String) (table : SymbolTable)
    (program : Program) (result : (parseProgram text table).result = .ok program) :
    (∀ node ∈ program.toTree.preorder, node.ElseBehindComplete) ∧
      ∀ part ∈ program.body, part.Attached := by
  have attached := (Parse.program_attaches _).reached program result
  refine ⟨?_, attached⟩
  refine Tree.forall_mem_preorder.mpr ⟨.other nofun, List.forall_mem_singleton.mpr ?_⟩
  refine Tree.forall_mem_preorder.mpr ⟨.other nofun, ?_⟩
  rw [Statement.toTrees_eq_map]
  exact List.forall_mem_map.mpr fun part inside => (attached part inside).elseBehindComplete

/-- A program of a conditional behind whose chain of two complete ones an else-branch stands, and of
one whose branch is dropped with the else-branch in it. -/
def chainedConditionals : Program :=
  ⟨1, some "p", 1, [
    .ifElse 2 ⟨"if", 2⟩ (.integer ⟨"1", 2⟩ 1)
      (.ifElse 2 ⟨"if", 2⟩ (.integer ⟨"2", 2⟩ 2) (.writeln 2 none)
        (.ifElse 2 ⟨"if", 2⟩ (.integer ⟨"3", 2⟩ 3) (.compound 2 []) (.writeln 2 none)))
      (.write 3 ⟨.string ⟨"'n'", 3⟩ "n", .plain⟩),
    .ifThen 4 ⟨"if", 4⟩ (.integer ⟨"1", 4⟩ 1) (.empty 4)]⟩

/-- The text of `chainedConditionals`. -/
def chainedText : String :=
  "program p; begin\nif 1 then if 2 then writeln else if 3 then begin end else writeln\n" ++
    "else write('n');\nif 1 then if ( then writeln else writeln end."

theorem chainedConditionals_attached :
    (parseProgram chainedText .empty).result = .ok chainedConditionals ∧
      (∀ node ∈ chainedConditionals.toTree.preorder, node.ElseBehindComplete) ∧
      ∀ part ∈ chainedConditionals.body, part.Attached := by
  have result : (parseProgram chainedText .empty).result = .ok chainedConditionals := by cbv
  exact ⟨result, else_belongs_to_nearest_conditional _ _ _ result⟩

end MiniPascal
