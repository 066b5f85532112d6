/-
This file shows that the line of text of an expression, of an assignment or of a writing statement
of a program is parsed to the same tree again.
-/

import MiniPascal.Proofs.Parsing.Reread
import MiniPascal.Proofs.Parsing.SpelledPrograms
import Mathlib

namespace MiniPascal

section Syntax

/-- Only an expression stands in the place of one. -/
theorem Tree.isExpression_of_standsAt {place : Place} {tree : Tree}
    (stands : tree.standsAt place = true) : tree.kind.isExpression = true := by
  unfold standsAt at stands
  split at stands <;> split at stands <;> first
    | contradiction
    | rename_i same
      simp only [kind, label, same, NodeKind.isExpression]

theorem NodeKind.isStatement_of_isExpression {kind : NodeKind}
    (expression : kind.isExpression = true) : kind.isStatement = false := by
  cases kind <;> first | rfl | cases expression

theorem Tree.OfSyntax.exists_expression {node : Tree} (part : node.OfSyntax)
    (stands : node.standsAt .whole = true) : ∃ source : Expression, source.toTree = node := by
  have kind := Tree.isExpression_of_standsAt stands
  cases part with
  | expression source => exact ⟨source, rfl⟩
  | statement statement =>
      have noStatement := NodeKind.isStatement_of_isExpression kind
      rw [Tree.kind, statement.isStatement_toTree] at noStatement
      cases noStatement
  | program | test | string => cases kind

theorem Tree.OfSyntax.exists_statement {node : Tree} (part : node.OfSyntax)
    (alone : node.standsAlone = true) : ∃ statement : Statement, statement.toTree = node := by
  cases part with
  | statement statement => exact ⟨statement, rfl⟩
  | expression source => cases source <;> cases alone
  | program | test | string => cases alone

end Syntax

/-- A statement at the parser. -/
def Parse.statement : Parse (Option Statement) := do statementWithin (← size)

/-- A parser of a part passes to the first token of its text. -/
def Parse.started {α : Type} (parse : Parse α) : Parse α := do
  advance
  parse

/-- A parser has found a value in all of its text, without a report, and its table is as before. -/
structure Parsed.Complete {α : Type} (parsed : Parsed α) (table : SymbolTable) (found : α) :
    Prop where
  result : parsed.result = .ok found
  quiet : parsed.errors = 0
  consumed : parsed.state.stream.current.kind = .endOfText ∧ parsed.state.stream.rest = []
  table : parsed.state.table = table

section Runs

open Parse

variable {text : String} {contents : List (Kind × String)} {table : SymbolTable}

/-- What a parser follows up to the end of its tokens it finds in all of its text. -/
theorem complete_of_follows {α : Type} {parse : Parse α} {found : α}
    (written : Lexeme.Writes text.toList contents)
    (follows : (Frame.ofText text).Allows [] →
      parse.on ((Frame.ofText text).before table (Scanner.ofText text).scan.tokens) =
        ⟨.ok found, (Frame.ofText text).before table []⟩) :
    (parse.started.onText text table).Complete table found := by
  obtain ⟨_, line, ends⟩ := scan_of_writes written
  have allows : (Frame.ofText text).Allows [] := fun _ => by
    rw [Frame.ofText, ends]
    rfl
  have start : advance.on ⟨.ofText text, [], table⟩ =
      ⟨.ok (), (Frame.ofText text).before table (Scanner.ofText text).scan.tokens⟩ := by
    obtain ⟨stream, next⟩ : ∃ stream, (Stream.ofText text).next = .ok stream := by
      rw [Stream.ofText]
      cases (Scanner.ofText text).scan.tokens with
      | nil => exact ⟨_, by rw [Stream.next, ends]⟩
      | cons => exact ⟨_, rfl⟩
    rw [on_advance, next]
    exact congrArg (Parsed.mk (.ok ())) (@starts_before (.ofText text) table _ _ next)
  have run : parse.started.onText text table =
      ⟨.ok found, (Frame.ofText text).before table []⟩ := by
    rw [onText, started, on_bind_ok start, follows allows]
  rw [run]
  exact ⟨rfl, rfl, ⟨rfl, rfl⟩, rfl⟩

/-- The text of a printed expression is parsed to the expression. -/
theorem Expression.Printed.parses {source : Expression} (printed : source.Printed table contents)
    (stands : source.toTree.standsAt .whole = true) :
    ∃ copy : Expression, copy.toTree.core = source.toTree.core ∧
      (Parse.expression.started.onText source.toTree.surface table).Complete table copy := by
  have written := printed.writes Lexeme.delimited_nil .done
  rw [List.append_nil, List.append_nil] at written
  have scanned := (scan_of_writes written).1
  obtain ⟨copy, same, reading⟩ := @reads _ _ _ printed .whole _ [] stands scanned fun _ => rfl
  refine ⟨copy, same, complete_of_follows written fun allows => ?_⟩
  have whole := reading.whole rfl
  rw [List.append_nil] at whole
  rw [Parse.expression, on_bind_ok (on_size _)]
  exact expressionWithin_follows _ _ whole (Frame.length_le_size _ _ _) allows

/-- The text of a printed statement is parsed to the statement. -/
theorem Statement.Printed.parses {statement : Statement}
    (printed : statement.Printed table contents)
    (alone : statement.toTree.standsAlone = true) :
    ∃ copy : Statement, copy.toTree.core = statement.toTree.core ∧
      (Parse.statement.started.onText statement.toTree.surface table).Complete table
        (some copy) := by
  have written := printed.writes
  obtain ⟨copy, same, reading⟩ := printed.reads alone (scan_of_writes written).1
  refine ⟨copy, same, complete_of_follows written fun allows => ?_⟩
  have optional : OptionalReading table (Scanner.ofText statement.toTree.surface).scan.tokens
    (some copy) table [] := reading
  rw [Parse.statement, on_bind_ok (on_size _)]
  exact statementWithin_follows _ _ optional (Frame.length_le_size _ _ _) allows

end Runs

/-- In a text that is parsed without a report, every part that stands as an expression, an
assignment or a writing statement is written in a line that is parsed over the same table. All of
the line is taken, nothing is reported, and the tree is the same apart from its lines and the
spelling of its negations. -/
theorem surface_parses_back (text : String) (start : SymbolTable) (program : Program)
    (table : SymbolTable) (parses : Parses text start program table) :
    ∀ node ∈ program.toTree.preorder,
      (node.standsAt .whole = true → ∃ copy : Expression, copy.toTree.core = node.core ∧
        (Parse.expression.started.onText node.surface table).Complete table copy) ∧
      (node.standsAlone = true → ∃ copy : Statement, copy.toTree.core = node.core ∧
        (Parse.statement.started.onText node.surface table).Complete table (some copy)) := by
  intro node inside
  have spelled := parses.spelled.part inside
  have formed := (Program.wellFormed_toTree (parseProgram_bound parses.result)).part inside
  have part := program.allOfSyntax node inside
  obtain ⟨_, quiet, rfl⟩ := parses
  constructor
  · intro stands
    obtain ⟨source, rfl⟩ := part.exists_expression stands
    obtain ⟨contents, printed⟩ := Expression.exists_printed spelled formed quiet
    exact printed.parses stands
  · intro alone
    obtain ⟨statement, rfl⟩ := part.exists_statement alone
    obtain ⟨contents, printed⟩ := Statement.exists_printed alone spelled formed quiet
    exact printed.parses alone

/-- A program with a sign before a sum and with negations behind operators. -/
def signedProgram : Program :=
  ⟨1, some "p", 1, [.assign 1 ⟨⟨"x", 1⟩, .cell "x" "x"⟩ (.integer ⟨"1", 1⟩ 1),
    .assign 1 ⟨⟨"x", 1⟩, .cell "x" "x"⟩ (.binary .subtract ⟨"-", 1⟩
      (.unary .minus ⟨"-", 1⟩ (.reference ⟨⟨"x", 1⟩, .cell "x" "x"⟩))
      (.binary .multiply ⟨"*", 1⟩ (.integer ⟨"2", 1⟩ 2) (.unary .negation ⟨"NOT", 1⟩
        (.reference ⟨⟨"x", 1⟩, .cell "x" "x"⟩))))]⟩

def signedProgramTable : SymbolTable := (SymbolTable.empty.enter "p").enter "x"

theorem parses_signedProgram : Parses "program p; begin x := 1; x := -x - 2 * NOT x end." .empty
    signedProgram signedProgramTable where
  result := by cbv
  quiet := by decide +kernel
  table := by cbv

/-- The second assignment. -/
def signedAssignment : Statement := signedProgram.body[1]

theorem signedAssignment_parses_back :
    Parses "program p; begin x := 1; x := -x - 2 * NOT x end." .empty signedProgram
      signedProgramTable ∧
    signedAssignment.toTree.surface = "x := (-x - (2 * not x))" ∧
    ∃ copy : Statement, copy.toTree.core = signedAssignment.toTree.core ∧
      (Parse.statement.started.onText "x := (-x - (2 * not x))" signedProgramTable).Complete
        signedProgramTable (some copy) := by
  have inside : signedAssignment.toTree ∈ signedProgram.toTree.preorder :=
    List.mem_of_getElem? (show signedProgram.toTree.preorder[5]? = _ from rfl)
  have same : signedAssignment.toTree.surface = "x := (-x - (2 * not x))" := by decide +kernel
  have back := (surface_parses_back _ _ _ _ parses_signedProgram _ inside).2 rfl
  rw [same] at back
  exact ⟨parses_signedProgram, same, back⟩

end MiniPascal
