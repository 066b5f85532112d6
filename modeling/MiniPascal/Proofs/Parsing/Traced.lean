/-
This file shows that every parser of the grammar leaves a trace between the states at which it starts
and stops: no loop and no recursion stops before the tokens do.
-/

import MiniPascal.Proofs.Parsing.Trace

namespace MiniPascal

open ParseState

variable {state middle between after : ParseState} {stream : Stream} {bound : Nat}

/-- A token of the text that is passed leaves one token less. -/
theorem ParseState.left_pass {kind : Kind} (same : state.stream.current.kind = kind)
    (inside : kind.isEndOfText = false) (next : state.stream.next = .ok stream)
    (enough : state.left ≤ bound + 1) : ParseState.left { state with stream } ≤ bound :=
  Nat.le_of_lt_succ (Nat.lt_of_lt_of_le ((Stream.left_next next).2 (same ▸ inside)) enough)

/-- A run before the end of the text passes a token or stays before its first one. -/
theorem ParseState.Steps.stays (steps : Steps state after)
    (inside : state.stream.current.kind.isEndOfText = false) :
    after.left < state.left ∨ after.stream = state.stream := by
  refine steps.keep (fun last => last.left < state.left ∨ last.stream = state.stream) ?_ (.inr rfl)
  rintro last _ (next | _ | _) held
  · refine .inl (held.elim (Nat.lt_of_le_of_lt (Stream.left_next next).1) fun same => ?_)
    have less := (Stream.left_next next).2 (by rw [same]; exact inside)
    unfold ParseState.left
    rwa [← same]
  · exact held
  · exact held

/-- Semicolons that separate statements are passed. -/
theorem ParseState.Separates.left_lt (separates : state.Separates after)
    (semicolon : state.stream.current.kind = .symbol .semicolon) : after.left < state.left := by
  cases separates with
  | semicolons _ skips =>
      cases skips with
      | stop missed => exact absurd missed (by simp [semicolon, Kind.isSymbol])
      | pass _ next others =>
          refine Nat.lt_of_le_of_lt others.steps.left_le ((Stream.left_next next).2 ?_)
          rw [semicolon]
          rfl
  | missing starts => exact absurd starts (by rw [semicolon]; decide)
  | none missed => exact absurd semicolon missed

/-- Behind each round of a list there is one token less: where no statement is found the parser stands
before a semicolon, or is further on. -/
theorem StatementTrace.left_lt {terminal : Kind → Bool} {found : List Statement}
    (trace : StatementTrace .statement state found middle) (gap : middle.Separates between)
    (goesOn : Parse.endsList terminal state.stream.current.kind = false) :
    between.left < state.left := by
  simp only [Parse.endsList, Bool.or_eq_false_iff] at goesOn
  obtain ⟨⟨⟨-, inside⟩, noEnd⟩, noUntil⟩ := goesOn
  rcases trace.goesOn.2 rfl with none | less
  · have settled : Parse.endsStatement middle.stream.current.kind = true := by
      cases trace with
      | gap kind => rw [kind]; rfl
      | dropped recovers => exact recovers.settled
      | _ => cases none
    rcases trace.steps.stays inside with less | same
    · exact Nat.lt_of_le_of_lt gap.steps.left_le less
    · have here : middle.left = state.left := congrArg Stream.left same
      rw [Parse.endsStatement, same, noEnd, noUntil, inside] at settled
      rw [← here]
      exact gap.left_lt (by rw [same]; exact Kind.isSymbol_iff.mp (by simpa using settled))
  · exact Nat.lt_of_le_of_lt gap.steps.left_le less

namespace Parse

theorem operator?_inside {rank : Rank} {kind : Kind} {operator : BinaryOperator}
    (known : rank.operator? kind = some operator) : kind.isEndOfText = false := by
  cases kind <;> first | rfl | (cases rank <;> cases known)

theorem relational?_inside {kind : Kind} {operator : BinaryOperator}
    (known : relational? kind = some operator) : kind.isEndOfText = false := by
  cases kind <;> first | rfl | cases known

theorem sign?_inside {kind : Kind} {operator : UnaryOperator}
    (known : sign? kind = some operator) : kind.isEndOfText = false := by
  cases kind <;> first | rfl | cases known

section Expressions

/-- A parser leaves a trace of its level where at most `bound` tokens are left. -/
def TracesExpression (level : Level) (bound : Nat) (parse : Parse Expression) : Prop :=
  ∀ state : ParseState, parse.Leads state fun found after =>
    state.left ≤ bound → ExpressionTrace level state found after

theorem variableRead_traces (state : ParseState) :
    variableRead.Leads state (VariableTrace state) :=
  .variableRead (fun _ found _ next => .known found next) fun missing _ next =>
    .unknown missing next

variable {factor operand : Parse Expression}

theorem chain_traces (rank : Rank) (operandTraces : TracesExpression rank.operand bound operand)
    {count : Nat} (within : count ≤ bound) (left : Expression) :
    TracesExpression (.chain rank left) count (chain rank.operator? operand count left) := by
  intro state
  induction count generalizing left state with
  | zero =>
      refine .pure fun enough => .chainEnd ?_
      rw [isEndOfText_of_left (Nat.le_zero.mp enough)]
      cases rank <;> rfl
  | succ count inductionHypothesis =>
      refine .bind (.current fun _ => ?_)
      split
      case h_1 stops => exact .pure fun _ => .chainEnd stops
      case h_2 operator goesOn =>
        refine .bind (.mark fun stream next _ => ?_)
        refine .bind ((operandTraces _).weaken fun right middle toMiddle trace _ => ?_)
        refine (inductionHypothesis (by omega) _ middle).weaken fun _ _ _ others enough => ?_
        have fewer := left_pass rfl (operator?_inside goesOn) next enough
        exact .chainNext goesOn next (trace (by omega)) (others (toMiddle.within fewer))

theorem termOf_traces (factorTraces : TracesExpression .factor bound factor) :
    TracesExpression .term bound (termOf factor bound) := by
  intro state
  refine .bind ((factorTraces state).weaken fun first middle toMiddle trace _ => ?_)
  refine (chain_traces .multiplying factorTraces (Nat.le_refl _) first middle).weaken ?_
  exact fun _ _ _ others enough => .term (trace enough) (others (toMiddle.within enough))

theorem simpleExpressionOf_traces (factorTraces : TracesExpression .factor bound factor) :
    TracesExpression .simple bound (simpleExpressionOf factor bound) := by
  intro state
  have termTraces := termOf_traces factorTraces
  have chained := chain_traces .adding termTraces (Nat.le_refl _)
  refine .bind (.current fun _ => ?_)
  dsimp only
  split
  case h_1 noSign =>
    refine .bind ((termTraces state).weaken fun first middle toMiddle trace _ => ?_)
    exact (chained first middle).weaken fun _ _ _ others enough =>
      .unsigned noSign (trace enough) (others (toMiddle.within enough))
  case h_2 operator isSign =>
    refine .bind (.mark fun stream next toStream => ?_)
    refine .bind ((termTraces _).weaken fun operand middle toMiddle trace _ => ?_)
    refine .bind (.pure fun _ => (chained _ middle).weaken fun _ _ _ others enough => ?_)
    have fewer := toStream.within enough
    exact .signed isSign next (trace fewer) (others (toMiddle.within fewer))

theorem expressionOf_traces (factorTraces : TracesExpression .factor bound factor) :
    TracesExpression .whole bound (expressionOf factor bound) := by
  intro state
  have simpleTraces := simpleExpressionOf_traces factorTraces
  refine .bind ((simpleTraces state).weaken fun left middle toMiddle trace _ => ?_)
  refine .bind (.current fun _ => ?_)
  split
  case h_1 stops => exact .pure fun enough => .alone (trace enough) stops
  case h_2 operator compares =>
    refine .bind (.mark fun stream next toStream => ?_)
    refine .bind ((simpleTraces _).weaken fun right after _ second _ => .pure fun enough => ?_)
    have fewer := Steps.within (toMiddle.trans toStream) enough
    exact .compared (trace enough) compares next (second fewer)

theorem factorWithin_traces (bound : Nat) : TracesExpression .factor bound (factorWithin bound) := by
  induction bound with
  | zero => exact fun _ => .fail
  | succ bound inductionHypothesis =>
      intro state
      have insideTraces := expressionOf_traces inductionHypothesis
      refine .bind (.current fun _ => ?_)
      split
      case h_1 kind =>
        exact .bind ((variableRead_traces state).weaken fun _ _ _ read _ =>
          .pure fun _ => .reference kind read)
      case h_2 number kind => exact .bind (.mark fun _ next _ => .pure fun _ => .integer kind next)
      case h_3 number kind => exact .bind (.mark fun _ next _ => .pure fun _ => .real kind next)
      case h_4 opens =>
        refine .bind (.advance fun stream next _ => ?_)
        refine .bind ((insideTraces _).weaken fun inside middle _ trace _ => ?_)
        refine .bind (.require fun closes _ behind _ => .pure fun enough => ?_)
        have fewer := left_pass opens rfl next enough
        exact .group opens next (trace fewer) (Kind.isSymbol_iff.mp closes) behind
      case h_5 kind =>
        refine .bind (.mark fun stream next _ => ?_)
        exact .bind ((insideTraces _).weaken fun _ _ _ trace _ =>
          .pure fun enough => .negation kind next (trace (left_pass kind rfl next enough)))
      case h_6 => exact .fail

theorem expressionWithin_traces (bound : Nat) :
    TracesExpression .whole bound (expressionWithin bound) :=
  expressionOf_traces (factorWithin_traces bound)

end Expressions

section Writing

theorem item_traces (state : ParseState) : item.Leads state (ItemTrace state) := by
  refine .bind (.current fun _ => ?_)
  split
  case h_1 kind =>
    exact .bind ((variableRead_traces state).weaken fun _ _ _ read _ => .pure (.reference kind read))
  case h_2 content kind => exact .bind (.mark fun _ next _ => .pure (.string kind next))
  case h_3 content kind => exact .bind (.mark fun _ next _ => .pure (.character kind next))
  case h_4 => exact .fail

theorem width_traces (mistake : Mistake) (state : ParseState) :
    (width mistake).Leads state (WidthTrace state) := by
  refine .bind (.current fun _ => ?_)
  split
  case h_1 number kind => exact .bind (.mark fun _ next _ => .pure (.integer kind next))
  case h_2 => exact .fail

theorem format_traces (state : ParseState) : format.Leads state (FormatTrace state) := by
  refine .bind (.accept (fun stops _ => .pure (.plain stops)) fun colon stream next _ => ?_)
  replace colon := Kind.isSymbol_iff.mp colon
  refine .bind ((width_traces _ _).weaken fun field middle _ widthTrace _ => ?_)
  refine .bind (.accept (fun stops _ => .pure (.field colon next widthTrace stops)) ?_)
  intro second _ secondNext _
  exact .bind ((width_traces _ _).weaken fun places _ _ placesTrace _ =>
    .pure (.fixed colon next widthTrace (Kind.isSymbol_iff.mp second) secondNext placesTrace))

theorem argument_traces (state : ParseState) : argument.Leads state (ArgumentTrace state) := by
  refine .bind (.advance fun stream next _ => ?_)
  refine .bind ((item_traces _).weaken fun item middle _ itemTrace _ => ?_)
  refine .bind ((format_traces middle).weaken fun format behind _ formatTrace _ => ?_)
  exact .bind (.require fun closes _ closeNext _ =>
    .pure (.argument next itemTrace formatTrace (Kind.isSymbol_iff.mp closes) closeNext))

theorem write_traces (opens : state.stream.current.kind = .keyword .writeWord) :
    write.Leads state fun found => StatementTrace .statement state [found] := by
  refine .bind (.mark fun stream next _ => .bind (.check fun begins _ => ?_))
  exact .bind ((argument_traces _).weaken fun _ _ _ trace _ =>
    .pure (.write opens next (Kind.isSymbol_iff.mp begins) trace))

theorem writeln_traces (opens : state.stream.current.kind = .keyword .writelnWord) :
    writeln.Leads state fun found => StatementTrace .statement state [found] := by
  refine .bind (.mark fun stream next _ => .bind (.current fun _ => ?_))
  split
  case isTrue begins =>
    exact .bind ((argument_traces _).weaken fun _ _ _ trace _ =>
      .pure (.writeln opens next (Kind.isSymbol_iff.mp begins) trace))
  case isFalse stops => exact .pure (.writelnPlain opens next (Bool.eq_false_iff.mpr stops))

end Writing

section Statements

theorem separator_traces (state : ParseState) :
    separator.Leads state fun _ after => state.Separates after := by
  refine .bind (.current fun _ => ?_)
  dsimp only
  split
  case isTrue semicolon =>
    exact (Leads.skipAll rfl).weaken fun _ _ _ skips =>
      .semicolons (Kind.isSymbol_iff.mp semicolon) skips
  case isFalse missed =>
    split
    case isTrue starts =>
      exact (Leads.recover _).weaken fun _ _ _ recovers => .missing starts recovers
    case isFalse noStart =>
      exact .pure (.none (mt Kind.isSymbol_iff.mpr missed) (Bool.eq_false_iff.mpr noStart))

/-- An expected token is passed or missed. -/
theorem expect_traces (wanted : Kind → Bool) (mistake : Mistake) (state : ParseState) :
    (expect wanted mistake).Leads state fun _ after => state.Expects wanted after :=
  .expect (fun _ recovers => .absent recovers) fun found _ next => .present found next

/-- A token that a parser looks for without passing it. -/
theorem Leads.meet {α : Type} (wanted : Kind → Bool) {mistake : Mistake} {next : Parse α}
    {goal : α → ParseState → Prop}
    (reached : ∀ after, state.Meets wanted after → next.Leads after goal) :
    (do
      unless wanted (← Parse.current).kind do Parse.recover mistake
      next : Parse α).Leads state goal := by
  refine .bind (.current fun _ => ?_)
  dsimp only
  split
  case isTrue found => exact reached state (.present found)
  case isFalse =>
    exact .bind ((Leads.recover _).weaken fun _ _ _ recovers _ => reached _ (.absent recovers))

variable {statement : Parse (Option Statement)} {expression : Parse Expression}

/-- A parser of statements leaves a trace where at most `bound` tokens are left. -/
def TracesStatement (bound : Nat) (parse : Parse (Option Statement)) : Prop :=
  ∀ state : ParseState, parse.Leads state fun found after =>
    state.left ≤ bound → StatementTrace .statement state found.toList after

section Parts

variable (statementTraces : TracesStatement bound statement)

include statementTraces

theorem statementsWithin_traces (terminal : Keyword) {count : Nat} (within : count ≤ bound)
    (state : ParseState) :
    (statementsWithin statement (·.isKeyword terminal) count).Leads state fun found after =>
      state.left ≤ count → StatementTrace (.list terminal) state found after := by
  induction count generalizing state with
  | zero =>
      refine .pure fun enough => .listEnd ?_
      rw [isEndOfText_of_left (Nat.le_zero.mp enough)]
      rfl
  | succ count inductionHypothesis =>
      refine .bind (.current fun _ => ?_)
      split
      case isTrue ends => exact .pure fun _ => .listEnd ends
      case isFalse goesOn =>
        refine .bind ((statementTraces state).weaken fun first middle _ trace _ => ?_)
        refine .bind ((separator_traces middle).weaken fun _ between _ gap _ => ?_)
        refine .bind ((inductionHypothesis (by omega) between).weaken ?_)
        refine fun others _ _ othersTrace _ => .pure fun enough => ?_
        replace trace := trace (by omega)
        have less := trace.left_lt gap (Bool.eq_false_iff.mpr goesOn)
        exact .listNext trace gap (othersTrace (by omega))

theorem compoundOf_traces (state : ParseState) :
    (compoundOf statement bound).Leads state fun found after =>
      (∀ entered, state.Opens entered → entered.left ≤ bound) →
        BodyTrace state found.1 found.2 after := by
  have listed {entered : ParseState} (opens : state.Opens entered) :
      (do
        let body ← statementsWithin statement (·.isKeyword .endWord) bound
        expect (·.isKeyword .endWord) .expectingEnd
        return (state.stream.current.line, body) : Parse (Nat × List Statement)).Leads entered
          fun found after => (∀ entered, state.Opens entered → entered.left ≤ bound) →
            BodyTrace state found.1 found.2 after := by
    refine .bind ((statementsWithin_traces statementTraces .endWord (Nat.le_refl _) entered).weaken
      fun body last _ trace _ => ?_)
    exact .bind ((expect_traces _ _ last).weaken fun _ _ _ closing _ => .pure fun enough =>
      ⟨rfl, entered, last, opens, trace (enough entered opens), closing⟩)
  refine .bind (.current fun _ => .bind (.accept (fun missed _ => ?_) fun found _ next _ => ?_))
  · exact listed (.absent fun same => by simp [same, Kind.isKeyword] at missed)
  · exact listed (.present (Kind.isKeyword_iff.mp found) next)

/-- A branch without a statement is empty. -/
theorem branchOf_traces (state : ParseState) :
    (branchOf statement).Leads state fun found after =>
      state.left ≤ bound → StatementTrace .branch state [found] after := by
  refine .bind (.current fun _ => ?_)
  refine .bind ((statementTraces state).weaken fun found after _ trace _ => .pure fun enough => ?_)
  cases found with
  | none => exact .emptyBranch (trace enough)
  | some found => exact .branch (trace enough)

variable (expressionTraces : TracesExpression .whole bound expression)

include expressionTraces

theorem repeatOf_traces (opens : state.stream.current.kind = .keyword .repeatWord) :
    (repeatOf statement expression bound).Leads state fun found after =>
      state.left ≤ bound + 1 → StatementTrace .statement state [found] after := by
  refine .bind (.mark fun stream next _ => ?_)
  refine .bind ((statementsWithin_traces statementTraces .untilWord (Nat.le_refl _) _).weaken ?_)
  intro body middle toMiddle bodyTrace _
  refine .bind (.check fun ends _ => .bind (.mark fun _ testNext toTest => ?_))
  refine .bind ((expressionTraces _).weaken fun condition _ _ conditionTrace _ => ?_)
  refine .pure fun enough => ?_
  have fewer := left_pass opens rfl next enough
  have rest := Steps.within (toMiddle.trans toTest) fewer
  exact .repeatUntil opens next (bodyTrace fewer) (Kind.isKeyword_iff.mp ends) testNext
    (conditionTrace rest)

theorem whileOf_traces (opens : state.stream.current.kind = .keyword .whileWord) :
    (whileOf statement expression bound).Leads state fun found after =>
      state.left ≤ bound + 1 → StatementTrace .statement state [found] after := by
  refine .bind (.mark fun stream next _ => .bind (.current fun _ => ?_))
  refine .bind ((expressionTraces _).weaken fun condition middle toMiddle conditionTrace _ => ?_)
  refine .bind (.require fun does doStream doNext toDo => .bind (.check fun begins _ => ?_))
  refine .bind ((compoundOf_traces statementTraces _).weaken ?_)
  refine fun ⟨bodyLine, body⟩ after _ trace _ => .pure fun enough => ?_
  have fewer := left_pass opens rfl next enough
  have rest := Steps.within (toMiddle.trans toDo) fewer
  obtain ⟨line, entered, last, opened, bodyTrace, closing⟩ :=
    trace fun entered opened => opened.steps.within rest
  obtain rfl : bodyLine = doStream.current.line := line
  replace begins := Kind.isKeyword_iff.mp begins
  cases opened with
  | absent missed => exact absurd begins missed
  | present _ beginNext =>
      exact .whileDo opens next (conditionTrace fewer) (Kind.isKeyword_iff.mp does) doNext begins
        beginNext bodyTrace closing

theorem ifOf_traces (opens : state.stream.current.kind = .keyword .ifWord) :
    (ifOf statement expression).Leads state fun found after =>
      state.left ≤ bound + 1 → StatementTrace .statement state [found] after := by
  refine .bind (.mark fun stream next _ => .bind (.current fun _ => ?_))
  refine .bind ((expressionTraces _).weaken fun condition middle toMiddle conditionTrace _ => ?_)
  refine .bind (.require fun goes thenStream thenNext toThen => ?_)
  replace goes := Kind.isKeyword_iff.mp goes
  refine .bind ((branchOf_traces statementTraces _).weaken ?_)
  intro branch between toBetween branchTrace _
  have toBranch := toMiddle.trans toThen
  refine .bind (.accept (fun noElse _ => .pure fun enough => ?_) fun elses _ elseNext toElse => ?_)
  · have fewer := left_pass opens rfl next enough
    have rest := Steps.within toBranch fewer
    exact .ifThen opens next (conditionTrace fewer) goes thenNext (branchTrace rest) noElse
  · refine .bind ((branchOf_traces statementTraces _).weaken fun otherwise _ _ otherwiseTrace _ => ?_)
    refine .pure fun enough => ?_
    have fewer := left_pass opens rfl next enough
    have rest := Steps.within toBranch fewer
    have last := Steps.within (toBetween.trans toElse) rest
    exact .ifElse opens next (conditionTrace fewer) goes thenNext (branchTrace rest)
      (Kind.isKeyword_iff.mp elses) elseNext (otherwiseTrace last)

omit statementTraces in
theorem assignmentOf_traces (kind : state.stream.current.kind = .identifier) :
    (assignmentOf expression).Leads state fun found after =>
      state.left ≤ bound + 1 → StatementTrace .statement state [found] after := by
  refine .bind (.declare fun _ => .bind (.advance fun stream next _ => ?_))
  refine .bind (.require fun sign behind signNext toSign => ?_)
  refine .bind ((expressionTraces _).weaken fun value _ _ valueTrace _ => .pure fun enough => ?_)
  have fewer := toSign.within (left_pass kind rfl next enough)
  exact .assign kind next (Kind.isSymbol_iff.mp sign) signNext (valueTrace fewer)

end Parts

theorem statementOf_traces (statementTraces : TracesStatement bound statement) :
    TracesStatement (bound + 1) (statementOf statement bound) := by
  intro state
  have expressionTraces := expressionWithin_traces bound
  have one {parse : Parse Statement} (leads : parse.Leads state fun found after =>
      state.left ≤ bound + 1 → StatementTrace .statement state [found] after) :
      (do return some (← parse) : Parse (Option Statement)).Leads state fun found after =>
        state.left ≤ bound + 1 → StatementTrace .statement state found.toList after :=
    .bind (leads.weaken fun _ _ _ trace _ => .pure trace)
  refine .bind (.current fun _ => ?_)
  split
  case h_1 kind => exact one (assignmentOf_traces expressionTraces kind)
  case h_2 opens =>
    refine .bind ((compoundOf_traces statementTraces state).weaken ?_)
    refine fun ⟨line, body⟩ after _ trace _ => .pure fun enough => ?_
    obtain ⟨rfl, entered, last, opened, bodyTrace, closing⟩ := trace fun entered opened => by
      cases opened with
      | present _ next => exact left_pass opens rfl next enough
      | absent missed => exact absurd opens missed
    cases opened with
    | present _ next => exact .compound opens next bodyTrace closing
    | absent missed => exact absurd opens missed
  case h_3 opens => exact one (repeatOf_traces statementTraces expressionTraces opens)
  case h_4 opens => exact one (whileOf_traces statementTraces expressionTraces opens)
  case h_5 opens => exact one (ifOf_traces statementTraces expressionTraces opens)
  case h_6 opens => exact one ((write_traces opens).weaken fun _ _ _ trace _ => trace)
  case h_7 opens => exact one ((writeln_traces opens).weaken fun _ _ _ trace _ => trace)
  case h_8 semicolon => exact .pure fun _ => .gap semicolon
  case h_9 => exact .fail

/-- A statement with a mistake is dropped. -/
theorem statementWithin_traces (bound : Nat) : TracesStatement bound (statementWithin bound) := by
  induction bound with
  | zero => exact fun _ => .dropMistake .fail fun _ recovers _ => .dropped recovers
  | succ bound inductionHypothesis =>
      exact fun state => .dropMistake (statementOf_traces inductionHypothesis state)
        fun _ recovers _ => .dropped recovers

end Statements

section Programs

/-- The last part of the parser of programs, behind the head of the program. -/
def programBody (line : Nat) (name : Option String) : Parse Program := do
  let count ← size
  let (bodyLine, body) ← compoundOf (statementWithin count) count
  unless (← current).kind.isSymbol .period do recover .expectingPeriod
  return ⟨line, name, bodyLine, body⟩

/-- The parser of programs, standing before the first token of a text. -/
def programHere : Parse Program := do
  let line := (← current).line
  expect (·.isKeyword .programWord) .expectingProgram
  let name ← programName
  expect (·.isSymbol .semicolon) .missingSemicolon
  unless (← current).kind.isKeyword .beginWord do recover .expectingBegin
  programBody line name

theorem programName_traces (state : ParseState) : programName.Leads state (NameTrace state) := by
  refine .bind (.current fun _ => ?_)
  split
  case isTrue named =>
    refine .bind (.declare fun _ => .bind (.advance fun _ next _ => .pure ?_))
    exact .named (Kind.isIdentifier_iff.mp named) next
  case isFalse =>
    exact .bind ((Leads.recover _).weaken fun _ _ _ recovers _ => .pure (.missing recovers))

theorem programBody_traces (line : Nat) (name : Option String) (state : ParseState) :
    (programBody line name).Leads state fun found after => ∃ bodyLine body closed,
      found = ⟨line, name, bodyLine, body⟩ ∧ BodyTrace state bodyLine body closed ∧
        closed.Meets (·.isSymbol .period) after := by
  refine .bind (.bind (.get fun _ => .pure fun _ => ?_))
  refine .bind ((compoundOf_traces (statementWithin_traces _) state).weaken ?_)
  rintro ⟨bodyLine, body⟩ closed _ trace _
  have bodyTrace := trace fun entered opens => opens.steps.within state.left_le_size
  refine .meet (·.isSymbol .period) fun after period => .pure ?_
  exact ⟨bodyLine, body, closed, rfl, bodyTrace, period⟩

theorem programHere_traces (state : ParseState) :
    programHere.Leads state (ProgramTrace state) := by
  refine .bind (.current fun _ => ?_)
  refine .bind ((expect_traces _ _ state).weaken fun _ opened _ opening _ => ?_)
  refine .bind ((programName_traces opened).weaken fun name named _ nameTrace _ => ?_)
  refine .bind ((expect_traces _ _ named).weaken fun _ headed _ semicolon _ => ?_)
  refine .meet (·.isKeyword .beginWord) fun begun beginning => ?_
  refine (programBody_traces _ name begun).weaken ?_
  rintro _ after _ ⟨bodyLine, body, closed, rfl, bodyTrace, period⟩
  exact .program opening nameTrace semicolon beginning bodyTrace period

theorem program_traces (state : ParseState) :
    program.Leads state fun found after => ∃ stream, state.stream.next = .ok stream ∧
      ProgramTrace { state with stream } found after :=
  .bind (.advance fun stream next _ =>
    (programHere_traces { state with stream }).weaken fun _ _ _ trace => ⟨stream, next, trace⟩)

end Programs

end Parse

end MiniPascal
