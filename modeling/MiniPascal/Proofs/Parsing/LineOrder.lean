/-
This file shows that the lines of the nodes that a parser finds do not decrease in the order of the
source, however many mistakes there are.
-/

import Mathlib
import MiniPascal.Proofs.Parsing.Among
import MiniPascal.Proofs.Parsing.Traced
import MiniPascal.Proofs.Trees.SourceOrder

namespace MiniPascal

/-- Lines of tokens in order, none of which is behind the token at which a parser stands. -/
structure ParseState.Behind (text : String) (lines : List Nat) (state : ParseState) : Prop where
  among : state.stream.Among (Scanner.ofText text).scan
  sorted : lines.Pairwise (· ≤ ·)
  passed : ∀ line ∈ lines, line ≤ state.stream.current.line
  named : ∀ line ∈ lines, ∃ token ∈ tokensOf text, token.line = line

namespace ParseState.Behind

variable {text : String} {lines : List Nat} {state after : ParseState}

/-- The line of the current token is not before any line that is passed. -/
theorem here (met : state.Behind text lines) :
    state.Behind text (lines ++ [state.stream.current.line]) where
  among := met.among
  sorted := by
    refine List.pairwise_append.mpr ⟨met.sorted, List.pairwise_singleton _ _, ?_⟩
    exact fun line inside => List.forall_mem_singleton.mpr (met.passed line inside)
  passed := List.forall_mem_append.mpr ⟨met.passed, List.forall_mem_singleton.mpr (Nat.le_refl _)⟩
  named := List.forall_mem_append.mpr
    ⟨met.named, List.forall_mem_singleton.mpr ⟨_, met.among.mem, rfl⟩⟩

theorem step (met : state.Behind text lines) (step : ParseState.Step state after) :
    after.Behind text lines := by
  cases step with
  | pass next =>
      have later := met.among.line_le (tokensOf_sorted text) next
      exact ⟨met.among.next next, met.sorted,
        fun line inside => (met.passed line inside).trans later, met.named⟩
  | report => exact ⟨met.among, met.sorted, met.passed, met.named⟩
  | enter => exact ⟨met.among, met.sorted, met.passed, met.named⟩

/-- The parser comes to no token on an earlier line. -/
theorem steps (met : state.Behind text lines) (steps : ParseState.Steps state after) :
    after.Behind text lines :=
  steps.keep (Behind text lines) (fun _ _ one met => met.step one) met

theorem next {stream : Stream} (met : state.Behind text lines)
    (next : state.stream.next = .ok stream) :
    ParseState.Behind text lines { state with stream } := met.step (.pass next)

end ParseState.Behind

section Traces

variable {text : String} {lines : List Nat} {state after : ParseState}

theorem VariableTrace.ascends {source : Variable} (trace : VariableTrace state source after)
    (met : state.Behind text lines) : after.Behind text (lines ++ [source.mark.line]) := by
  cases trace with
  | known _ next => exact met.here.next next
  | unknown _ next => exact (met.here.step (.report state .undeclared)).next next

/-- The lines that are passed where a level starts: a chain goes on behind its left operand. -/
def Level.passed (lines : List Nat) : Level → List Nat
  | .chain _ left => lines ++ left.lines
  | _ => lines

theorem Rank.passed_operand (rank : Rank) (lines : List Nat) : rank.operand.passed lines = lines := by
  cases rank <;> rfl

theorem ExpressionTrace.ascends {level : Level} {found : Expression}
    (trace : ExpressionTrace level state found after)
    (met : state.Behind text (level.passed lines)) : after.Behind text (lines ++ found.lines) := by
  induction trace generalizing lines with
  | reference _ read => simpa [Level.passed] using read.ascends met
  | integer _ next | real _ next => simpa [Level.passed] using met.here.next next
  | group _ next _ _ behind inside => exact (inside (met.next next)).next behind
  | negation _ next _ inside => simpa [Level.passed] using inside (met.here.next next)
  | chainEnd => exact met
  | @chainNext rank _ _ _ _ _ _ _ _ _ next _ _ operand others =>
      have signMet := met.here.next next
      rw [← rank.passed_operand (_ ++ _)] at signMet
      exact others (by simpa [Level.passed] using operand signMet)
  | term _ _ factor others => exact others (factor met)
  | unsigned _ _ _ term others => exact others (term met)
  | signed _ next _ _ term others =>
      have operand := term (met.here.next next)
      exact others (by simpa [Level.passed] using operand)
  | alone _ _ simple => exact simple met
  | compared _ _ next _ first second => simpa using second ((first met).here.next next)

theorem ItemTrace.ascends {item : Item} (trace : ItemTrace state item after)
    (met : state.Behind text lines) : after.Behind text (lines ++ [item.line]) := by
  cases trace with
  | reference _ read => exact read.ascends met
  | string _ next | character _ next => exact met.here.next next

theorem WidthTrace.ascends {width : Width} (trace : WidthTrace state width after)
    (met : state.Behind text lines) : after.Behind text (lines ++ [width.mark.line]) := by
  cases trace with
  | integer _ next => exact met.here.next next

theorem FormatTrace.ascends {format : Format} (trace : FormatTrace state format after)
    (met : state.Behind text lines) :
    after.Behind text (lines ++ format.widths.map (·.mark.line)) := by
  cases trace with
  | plain => simpa [Format.widths] using met
  | field _ next width => exact width.ascends (met.next next)
  | fixed _ next width _ secondNext places =>
      have second := places.ascends ((width.ascends (met.next next)).next secondNext)
      simpa [Format.widths] using second

theorem ArgumentTrace.ascends {argument : Argument} (trace : ArgumentTrace state argument after)
    (met : state.Behind text lines) : after.Behind text (lines ++ argument.lines) := by
  cases trace with
  | argument next item format _ closeNext =>
      have written := format.ascends (item.ascends (met.next next))
      simpa [Argument.lines] using written.next closeNext

/-- A statement that is dropped leaves no line, and the parser does not go back. -/
theorem StatementTrace.ascends {construct : Construct} {found : List Statement}
    (trace : StatementTrace construct state found after) (met : state.Behind text lines) :
    after.Behind text (lines ++ Statement.allLines found) := by
  have one {place : ParseState} {lines : List Nat} {statement : Statement}
      (statementMet : place.Behind text (lines ++ statement.lines)) :
      place.Behind text (lines ++ Statement.allLines [statement]) := by
    simpa [Statement.allLines] using statementMet
  have none {place : ParseState} {lines : List Nat} (met : place.Behind text lines) :
      place.Behind text (lines ++ Statement.allLines []) := by simpa [Statement.allLines] using met
  induction trace generalizing lines with
  | @assign before _ _ _ _ _ next _ signNext value =>
      have target := ((met.here.here.step (.enter before)).next next).next signNext
      exact one (by simpa using value.ascends target)
  | compound _ next _ closing body =>
      exact one (by simpa using (body (met.here.next next)).steps closing.steps)
  | repeatUntil _ next _ _ testNext condition body =>
      have test := (body (met.here.next next)).here.next testNext
      exact one (by simpa using condition.ascends test)
  | whileDo _ next condition _ doNext _ beginNext _ closing body =>
      -- The test and its negation have the line of the token behind the keyword.
      have tested := condition.ascends (met.here.next next).here.here
      have entered := (tested.next doNext).here.next beginNext
      exact one (by simpa using (body entered).steps closing.steps)
  | ifThen _ next condition _ thenNext _ _ branch =>
      have tested := condition.ascends (met.here.next next).here
      have chosen := branch (tested.next thenNext)
      exact one (by simpa [Statement.allLines] using chosen)
  | ifElse _ next condition _ thenNext _ _ elseNext _ branch otherwise =>
      have tested := condition.ascends (met.here.next next).here
      have chosen := otherwise ((branch (tested.next thenNext)).next elseNext)
      exact one (by simpa [Statement.allLines] using chosen)
  | write _ next _ argument | writeln _ next _ argument =>
      exact one (by simpa using argument.ascends (met.here.next next))
  | writelnPlain _ next => exact one (by simpa using met.here.next next)
  | gap | listEnd => exact none met
  | dropped recovers => exact none (met.steps recovers.steps)
  | branch _ statement => exact statement met
  | emptyBranch trace => exact one (by simpa using met.here.steps trace.steps)
  | listNext _ gap _ first others =>
      have both := others ((first met).steps gap.steps)
      simpa [Statement.allLines] using both

theorem ProgramTrace.ascends {program : Program} (trace : ProgramTrace state program after)
    (met : state.Behind text lines) : after.Behind text (lines ++ program.toTree.sourceLines) := by
  cases trace with
  | @program _ _ _ begun _ _ _ line body opening name semicolon beginning bodyTrace period =>
      obtain ⟨entered, last, opens, statements, closing⟩ := bodyTrace.parts
      obtain rfl : line = begun.stream.current.line := bodyTrace.line
      have head := (opening.steps.trans name.steps).trans (semicolon.steps.trans beginning.steps)
      have found := statements.ascends ((met.here.steps head).here.steps opens.steps)
      have whole := found.steps (closing.steps.trans period.steps)
      simpa [Program.sourceLines_toTree] using whole

end Traces

/-- A parser that is behind some lines gets behind those of what it finds. -/
def Parse.Ascends {α : Type} (text : String) (parse : Parse α) (linesOf : α → List Nat) : Prop :=
  ∀ state lines, state.Behind text lines →
    parse.Leads state fun found after => after.Behind text (lines ++ linesOf found)

theorem Parse.programHere_ascends {text : String} :
    programHere.Ascends text fun found => found.toTree.sourceLines := fun state _ met =>
  (programHere_traces state).weaken fun _ _ _ trace => trace.ascends met

/-- In the order of the source, in which a binary operator stands between its operands and any other
node before its parts, the lines of the nodes of a parsed text do not decrease. All of them are lines of
the text. -/
theorem lines_follow_source (text : String) (table : SymbolTable) (program : Program)
    (result : (parseProgram text table).result = .ok program) :
    program.toTree.sourceOrder.Perm program.toTree.preorder ∧
      program.toTree.sourceOrder.Pairwise (·.label.line ≤ ·.label.line) ∧
      ∀ node ∈ program.toTree.sourceOrder,
        1 ≤ node.label.line ∧ node.label.line ≤ 1 + text.toList.count '\n' := by
  obtain ⟨fault, same⟩ | ⟨stream, among, same⟩ := parseProgram_cases text table
  · rw [same] at result
    cases result
  · rw [same] at result
    have start : ParseState.Behind text [] ⟨stream, [], table⟩ := ⟨among, .nil, nofun, nofun⟩
    have behind := (Parse.programHere_ascends _ _ start).reached program result
    refine ⟨program.toTree.sourceOrder_perm_preorder, List.pairwise_map.mp behind.sorted, ?_⟩
    intro node inside
    obtain ⟨token, found, same⟩ := behind.named _ (List.mem_map_of_mem inside)
    exact same ▸ line_bounds_of_mem_tokensOf found

/-- A program of a sum over two lines and of a conditional without a branch, between which a statement
is dropped. -/
def brokenProgram : Program :=
  ⟨1, some "p", 1, [
    .assign 2 ⟨⟨"x", 2⟩, .cell "x" "x"⟩
      (.binary .add ⟨"+", 3⟩ (.integer ⟨"1", 2⟩ 1) (.integer ⟨"2", 3⟩ 2)),
    .ifThen 5 ⟨"if", 5⟩ (.reference ⟨⟨"x", 5⟩, .cell "x" "x"⟩) (.empty 6)]⟩

theorem brokenProgram_lines :
    (parseProgram "program p; begin\nx := 1\n+ 2;\n5;\nif x then\nend" .empty).result =
        .ok brokenProgram ∧
      brokenProgram.toTree.sourceLines = [1, 1, 2, 2, 2, 3, 3, 5, 5, 5, 6] ∧
      brokenProgram.toTree.sourceOrder.Pairwise (·.label.line ≤ ·.label.line) := by
  have result : (parseProgram "program p; begin\nx := 1\n+ 2;\n5;\nif x then\nend"
      .empty).result = .ok brokenProgram := by cbv
  exact ⟨result, rfl, (lines_follow_source _ _ _ result).2.1⟩

end MiniPascal
