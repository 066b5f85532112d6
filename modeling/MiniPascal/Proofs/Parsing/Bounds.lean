/-
This file shows that the bounds on the rounds of the parser and on the depth of its recursion cut
nothing: two bounds that both reach the end of the text give the same outcome, so that every loop
and every recursion ends by itself.
-/

import MiniPascal.Proofs.Parsing.Containment

namespace MiniPascal

open ParseState

namespace Parse

/-- Two parsers do the same wherever at most `limit` tokens are left. -/
def Agree {α : Type} (limit : Nat) (first second : Parse α) : Prop :=
  ∀ state, state.left ≤ limit → first.on state = second.on state

section Rules

variable {α β : Type} {limit : Nat} {state : ParseState} {first second : Parse α}
  {next other : α → Parse β}

theorem Agree.refl (parse : Parse α) : Agree limit parse parse := fun _ _ => rfl

theorem Agree.mono {smaller : Nat} (agree : Agree limit first second) (less : smaller ≤ limit) :
    Agree smaller first second := fun state small => agree state (Nat.le_trans small less)

/-- Two parsers do the same when their first parts do, and their second parts behind these. -/
theorem on_bind_same (same : first.on state = second.on state)
    (goesOn : ∀ value, (first.on state).result = .ok value →
      (next value).on (first.on state).state = (other value).on (first.on state).state) :
    (first >>= next).on state = (second >>= other).on state := by
  rw [on_bind, on_bind, ← same]
  cases result : (first.on state).result with
  | ok value => exact goesOn value result
  | error unwinding => rfl

theorem Agree.bind (agree : Agree limit first second) (proceeds : first.Proceeds)
    (goesOn : ∀ value, Agree limit (next value) (other value)) :
    Agree limit (first >>= next) (second >>= other) := by
  intro state small
  refine on_bind_same (agree state small) fun value _ => goesOn value _ ?_
  exact Nat.le_trans (proceeds.steps state).left_le small

/-- Behind a token that is passed there is one token less. -/
theorem on_bind_passes {wanted : Kind → Bool} (same : first.on state = second.on state)
    (passes : first.Passes wanted) (inside : wanted state.stream.current.kind = true)
    (small : state.left ≤ limit + 1) (goesOn : ∀ value, Agree limit (next value) (other value)) :
    (first >>= next).on state = (second >>= other).on state := by
  refine on_bind_same same fun value result => goesOn value _ ?_
  have less := passes.less state inside (by simp [result])
  omega

theorem on_current_bind {next : Token → Parse β} :
    (current >>= next).on state = (next state.stream.current).on state := rfl

end Rules

/-- All tokens of the given kinds are passed, however large the bound is. -/
theorem skipWhile_agree {skipped : Kind → Bool} (ended : skipped .endOfText = false)
    {limit count other : Nat} (enough : limit ≤ count) (alsoEnough : limit ≤ other) :
    Agree limit (skipWhile skipped count) (skipWhile skipped other) := by
  have stops {state : ParseState} (absent : skipped state.stream.current.kind = false)
      (count : Nat) : (skipWhile skipped count).on state = ⟨.ok (), state⟩ := by
    cases count with
    | zero => rfl
    | succ count =>
        rw [skipWhile, on_bind, on_accept, absent]
        rfl
  induction limit generalizing count other with
  | zero =>
      intro state small
      have absent : skipped state.stream.current.kind = false := by
        rw [isEndOfText_of_left (Nat.le_zero.mp small)]
        exact ended
      rw [stops absent, stops absent]
  | succ limit inductionHypothesis =>
      obtain ⟨count, rfl⟩ : ∃ less, count = less + 1 := Nat.exists_eq_succ_of_ne_zero (by omega)
      obtain ⟨other, rfl⟩ : ∃ less, other = less + 1 := Nat.exists_eq_succ_of_ne_zero (by omega)
      intro state small
      cases present : skipped state.stream.current.kind with
      | false => rw [stops present, stops present]
      | true =>
          refine on_bind_passes rfl (.accept ended) present small fun found => ?_
          cases found with
          | false => exact .refl _
          | true => exact inductionHypothesis (by omega) (by omega)

section Expressions

variable {factor otherFactor : Parse Expression} {limit count other : Nat}

/-- A chain ends before a token that is no operator. -/
theorem on_chain_ends {operator? : Kind → Option BinaryOperator} {operand : Parse Expression}
    {left : Expression} {state : ParseState} (none : operator? state.stream.current.kind = none)
    (count : Nat) : (chain operator? operand count left).on state = ⟨.ok left, state⟩ := by
  cases count with
  | zero => rfl
  | succ count =>
      rw [chain, on_current_bind, none]
      rfl

theorem chain_agree {operator? : Kind → Option BinaryOperator}
    (ended : operator? .endOfText = none) (agree : Agree limit factor otherFactor)
    (proceeds : factor.Proceeds) (enough : limit ≤ count) (alsoEnough : limit ≤ other)
    (left : Expression) :
    Agree limit (chain operator? factor count left) (chain operator? otherFactor other left) := by
  induction limit generalizing count other left with
  | zero =>
      intro state small
      have none : operator? state.stream.current.kind = none := by
        rw [isEndOfText_of_left (Nat.le_zero.mp small)]
        exact ended
      rw [on_chain_ends none, on_chain_ends none]
  | succ limit inductionHypothesis =>
      obtain ⟨count, rfl⟩ : ∃ less, count = less + 1 := Nat.exists_eq_succ_of_ne_zero (by omega)
      obtain ⟨other, rfl⟩ : ∃ less, other = less + 1 := Nat.exists_eq_succ_of_ne_zero (by omega)
      intro state small
      cases found : operator? state.stream.current.kind with
      | none => rw [on_chain_ends found, on_chain_ends found]
      | some operator =>
          have inside : (!state.stream.current.kind.isEndOfText) = true := by
            rw [Bool.not_eq_true']
            refine Bool.eq_false_iff.mpr fun atEnd => ?_
            rw [Kind.isEndOfText_iff.mp atEnd, ended] at found
            cases found
          have less := agree.mono (Nat.le_succ limit)
          rw [chain, chain, on_current_bind, on_current_bind, found]
          refine on_bind_passes rfl .mark inside small fun mark => less.bind proceeds fun right => ?_
          exact inductionHypothesis less (by omega) (by omega) _

theorem termOf_agree (agree : Agree limit factor otherFactor) (proceeds : factor.Proceeds)
    (enough : limit ≤ count) (alsoEnough : limit ≤ other) :
    Agree limit (termOf factor count) (termOf otherFactor other) :=
  agree.bind proceeds fun _ => chain_agree rfl agree proceeds enough alsoEnough _

theorem simpleExpressionOf_agree (agree : Agree limit factor otherFactor)
    (proceeds : factor.Proceeds) (enough : limit ≤ count) (alsoEnough : limit ≤ other) :
    Agree limit (simpleExpressionOf factor count) (simpleExpressionOf otherFactor other) := by
  have terms := termOf_agree agree proceeds enough alsoEnough
  have termProceeds := termOf_proceeds proceeds count
  have ended : adding? .endOfText = none := rfl
  have goesOn (first : Expression) := chain_agree ended terms termProceeds enough alsoEnough first
  refine (Agree.refl current).bind .current fun token => ?_
  dsimp only
  split
  · exact terms.bind termProceeds goesOn
  · refine (Agree.refl mark).bind .mark fun mark => ?_
    exact terms.bind termProceeds fun operand => (Agree.refl _).bind (.pure _) goesOn

theorem expressionOf_agree (agree : Agree limit factor otherFactor) (proceeds : factor.Proceeds)
    (enough : limit ≤ count) (alsoEnough : limit ≤ other) :
    Agree limit (expressionOf factor count) (expressionOf otherFactor other) := by
  have simple := simpleExpressionOf_agree agree proceeds enough alsoEnough
  have simpleProceeds := simpleExpressionOf_proceeds proceeds count
  refine simple.bind simpleProceeds fun left => (Agree.refl current).bind .current fun token => ?_
  split
  · exact .refl _
  · exact (Agree.refl mark).bind .mark fun mark => simple.bind simpleProceeds fun _ => .refl _

/-- A factor that may hold an expression of the given factors. -/
def factorOf (factor : Parse Expression) (count : Nat) : Parse Expression := do
  match (← current).kind with
  | .identifier => return .reference (← variableRead)
  | .integer number => return .integer (← mark) number
  | .real number => return .real (← mark) number
  | .symbol .leftParenthesis => do
      advance
      let expression ← expressionOf factor count
      require (·.isSymbol .rightParenthesis) .expectingClosing
      return expression
  | .keyword .notWord => do
      let mark ← mark
      let operand ← expressionOf factor count
      return .unary .negation mark operand
  | _ => fail .unexpectedToken

theorem factorWithin_succ (count : Nat) :
    factorWithin (count + 1) = factorOf (factorWithin count) count := rfl

/-- No factor stands at the end of the text. -/
theorem on_factorOf_end {state : ParseState} (atEnd : state.stream.current.kind = .endOfText) :
    (factorOf factor count).on state = (fail .unexpectedToken).on state := by
  rw [factorOf, on_current_bind, atEnd]

theorem on_factorOf_same {state : ParseState} (agree : Agree limit factor otherFactor)
    (proceeds : factor.Proceeds) (enough : limit ≤ count) (alsoEnough : limit ≤ other)
    (small : state.left ≤ limit + 1) :
    (factorOf factor count).on state = (factorOf otherFactor other).on state := by
  have expressions := expressionOf_agree agree proceeds enough alsoEnough
  have expressionProceeds := expressionOf_proceeds proceeds count
  rw [factorOf, factorOf, on_current_bind, on_current_bind]
  split
  case h_4 found =>
    refine on_bind_passes rfl .advance (by rw [found]; rfl) small fun _ => ?_
    exact expressions.bind expressionProceeds fun _ => .refl _
  case h_5 found =>
    refine on_bind_passes rfl .mark (by rw [found]; rfl) small fun mark => ?_
    exact expressions.bind expressionProceeds fun _ => .refl _
  all_goals rfl

/-- The factors inside a factor stand behind its first token. -/
theorem on_factorOf_descends {state : ParseState} (proceeds : factor.Proceeds)
    (below : ∀ place, place.left < state.left → factor.on place = otherFactor.on place)
    (enough : state.left ≤ count + 1) :
    (factorOf factor count).on state = (factorOf otherFactor count).on state := by
  cases left : state.left with
  | zero =>
      have atEnd := isEndOfText_of_left left
      rw [on_factorOf_end atEnd, on_factorOf_end atEnd]
  | succ limit =>
      have agree : Agree limit factor otherFactor := fun place small => below place (by omega)
      exact on_factorOf_same agree proceeds (by omega) (by omega) (by omega)

theorem factorWithin_agree (enough : limit ≤ count) (alsoEnough : limit ≤ other) :
    Agree limit (factorWithin count) (factorWithin other) := by
  induction limit generalizing count other with
  | zero =>
      have ends (count : Nat) {state : ParseState}
          (atEnd : state.stream.current.kind = .endOfText) :
          (factorWithin count).on state = (fail .unexpectedToken).on state := by
        cases count with
        | zero => rfl
        | succ count => exact on_factorOf_end atEnd
      intro state small
      have atEnd := isEndOfText_of_left (Nat.le_zero.mp small)
      rw [ends count atEnd, ends other atEnd]
  | succ limit inductionHypothesis =>
      obtain ⟨count, rfl⟩ : ∃ less, count = less + 1 := Nat.exists_eq_succ_of_ne_zero (by omega)
      obtain ⟨other, rfl⟩ : ∃ less, other = less + 1 := Nat.exists_eq_succ_of_ne_zero (by omega)
      have fewer := Nat.le_of_succ_le_succ enough
      have alsoFewer := Nat.le_of_succ_le_succ alsoEnough
      intro state small
      rw [factorWithin_succ, factorWithin_succ]
      exact on_factorOf_same (inductionHypothesis fewer alsoFewer) (factorWithin_proceeds count)
        fewer alsoFewer small

theorem expressionWithin_agree (enough : limit ≤ count) (alsoEnough : limit ≤ other) :
    Agree limit (expressionWithin count) (expressionWithin other) :=
  expressionOf_agree (factorWithin_agree enough alsoEnough) (factorWithin_proceeds count) enough
    alsoEnough

end Expressions

section Statements

variable {statement otherStatement : Parse (Option Statement)}
  {expression otherExpression : Parse Expression} {limit count other : Nat} {state : ParseState}

theorem roundOf_agree (agree : Agree limit statement otherStatement)
    (proceeds : statement.Proceeds) : Agree limit (roundOf statement) (roundOf otherStatement) :=
  agree.bind proceeds fun _ => .refl _

/-- A list that ends before its token is empty. -/
theorem on_statementsWithin_ends {terminal : Kind → Bool}
    (ends : endsList terminal state.stream.current.kind = true) (count : Nat) :
    (statementsWithin statement terminal count).on state = ⟨.ok [], state⟩ := by
  cases count with
  | zero => rfl
  | succ count =>
      rw [statementsWithin, on_current_bind, if_pos ends]
      rfl

theorem statementsWithin_agree {terminal : Kind → Bool}
    (agree : Agree limit statement otherStatement)
    (passes : (roundOf statement).Passes (!endsList terminal ·)) (proceeds : statement.Proceeds)
    (enough : limit ≤ count) (alsoEnough : limit ≤ other) :
    Agree limit (statementsWithin statement terminal count)
      (statementsWithin otherStatement terminal other) := by
  induction limit generalizing count other with
  | zero =>
      intro state small
      have ends : endsList terminal state.stream.current.kind = true := by
        rw [isEndOfText_of_left (Nat.le_zero.mp small)]
        simp [endsList, Kind.isEndOfText]
      rw [on_statementsWithin_ends ends, on_statementsWithin_ends ends]
  | succ limit inductionHypothesis =>
      obtain ⟨count, rfl⟩ : ∃ less, count = less + 1 := Nat.exists_eq_succ_of_ne_zero (by omega)
      obtain ⟨other, rfl⟩ : ∃ less, other = less + 1 := Nat.exists_eq_succ_of_ne_zero (by omega)
      intro state small
      cases ends : endsList terminal state.stream.current.kind with
      | true => rw [on_statementsWithin_ends ends, on_statementsWithin_ends ends]
      | false =>
          have others := inductionHypothesis (agree.mono (Nat.le_succ limit))
            (Nat.le_of_succ_le_succ enough) (Nat.le_of_succ_le_succ alsoEnough)
          rw [statementsWithin_succ, statementsWithin_succ, on_current_bind, on_current_bind, ends]
          refine on_bind_passes (roundOf_agree agree proceeds state small) passes (by rw [ends]; rfl)
            small fun first => ?_
          exact others.bind (statementsWithin_proceeds proceeds terminal count) fun _ => .refl _

/-- Two parsers of statements that agree, the first of which proceeds and goes round in lists. -/
structure StatementsAgree (limit : Nat) (first second : Parse (Option Statement)) : Prop where
  agree : Agree limit first second
  proceeds : first.Proceeds
  passes : ∀ terminal, (roundOf first).Passes (!endsList terminal ·)

theorem StatementsAgree.lists (statements : StatementsAgree limit statement otherStatement)
    (terminal : Kind → Bool) (enough : limit ≤ count) (alsoEnough : limit ≤ other) :
    Agree limit (statementsWithin statement terminal count)
      (statementsWithin otherStatement terminal other) :=
  statementsWithin_agree statements.agree (statements.passes terminal) statements.proceeds enough
    alsoEnough

/-- Behind its first word a compound statement has the same body. -/
theorem compoundOf_rest_agree (statements : StatementsAgree limit statement otherStatement)
    (enough : limit ≤ count) (alsoEnough : limit ≤ other) (line : Nat) :
    Agree limit
      (do
        let body ← statementsWithin statement (·.isKeyword .endWord) count
        expect (·.isKeyword .endWord) .expectingEnd
        return (line, body))
      (do
        let body ← statementsWithin otherStatement (·.isKeyword .endWord) other
        expect (·.isKeyword .endWord) .expectingEnd
        return (line, body)) :=
  (statements.lists _ enough alsoEnough).bind
    (statementsWithin_proceeds statements.proceeds _ count) fun _ => .refl _

theorem compoundOf_agree (statements : StatementsAgree limit statement otherStatement)
    (enough : limit ≤ count) (alsoEnough : limit ≤ other) :
    Agree limit (compoundOf statement count) (compoundOf otherStatement other) :=
  (Agree.refl current).bind .current fun token => (Agree.refl _).bind (.accept _) fun _ =>
    compoundOf_rest_agree statements enough alsoEnough token.line

theorem on_compoundOf_same (statements : StatementsAgree limit statement otherStatement)
    (enough : limit ≤ count) (alsoEnough : limit ≤ other)
    (opens : state.stream.current.kind = .keyword .beginWord) (small : state.left ≤ limit + 1) :
    (compoundOf statement count).on state = (compoundOf otherStatement other).on state := by
  rw [compoundOf, compoundOf, on_current_bind, on_current_bind]
  exact on_bind_passes rfl (.accept rfl) (by rw [opens]; rfl) small fun _ =>
    compoundOf_rest_agree statements enough alsoEnough _

theorem on_assignmentOf_same (expressions : Agree limit expression otherExpression)
    (proceeds : expression.Proceeds) (inside : (!state.stream.current.kind.isEndOfText) = true)
    (small : state.left ≤ limit + 1) :
    (assignmentOf expression).on state = (assignmentOf otherExpression).on state := by
  refine on_bind_same rfl fun target result => ?_
  refine on_bind_passes rfl .advance inside small fun _ => ?_
  exact (Agree.refl _).bind (.require _ _) fun _ => expressions.bind proceeds fun _ => .refl _

theorem on_repeatOf_same (statements : StatementsAgree limit statement otherStatement)
    (expressions : Agree limit expression otherExpression) (proceeds : expression.Proceeds)
    (enough : limit ≤ count) (alsoEnough : limit ≤ other)
    (inside : (!state.stream.current.kind.isEndOfText) = true) (small : state.left ≤ limit + 1) :
    (repeatOf statement expression count).on state =
      (repeatOf otherStatement otherExpression other).on state := by
  refine on_bind_passes rfl .mark inside small fun opening => ?_
  refine (statements.lists _ enough alsoEnough).bind
    (statementsWithin_proceeds statements.proceeds _ count) fun body => ?_
  refine (Agree.refl _).bind (.check _ _) fun _ => (Agree.refl mark).bind .mark fun test => ?_
  exact expressions.bind proceeds fun _ => .refl _

theorem on_whileOf_same (statements : StatementsAgree limit statement otherStatement)
    (expressions : Agree limit expression otherExpression) (proceeds : expression.Proceeds)
    (enough : limit ≤ count) (alsoEnough : limit ≤ other)
    (inside : (!state.stream.current.kind.isEndOfText) = true) (small : state.left ≤ limit + 1) :
    (whileOf statement expression count).on state =
      (whileOf otherStatement otherExpression other).on state := by
  have compounds := compoundOf_agree statements enough alsoEnough
  have compoundProceeds := (compoundOf_passes statements.proceeds count).toProceeds
  refine on_bind_passes rfl .mark inside small fun opening => ?_
  refine (Agree.refl current).bind .current fun token => expressions.bind proceeds fun _ => ?_
  refine (Agree.refl _).bind (.require _ _) fun _ => (Agree.refl _).bind (.check _ _) fun _ => ?_
  exact compounds.bind compoundProceeds fun _ => .refl _

theorem branchOf_agree (statements : StatementsAgree limit statement otherStatement) :
    Agree limit (branchOf statement) (branchOf otherStatement) :=
  (Agree.refl current).bind .current fun _ =>
    statements.agree.bind statements.proceeds fun _ => .refl _

theorem on_ifOf_same (statements : StatementsAgree limit statement otherStatement)
    (expressions : Agree limit expression otherExpression) (proceeds : expression.Proceeds)
    (inside : (!state.stream.current.kind.isEndOfText) = true) (small : state.left ≤ limit + 1) :
    (ifOf statement expression).on state = (ifOf otherStatement otherExpression).on state := by
  have branches := branchOf_agree statements
  have branchProceeds := branchOf_proceeds statements.proceeds
  refine on_bind_passes rfl .mark inside small fun opening => ?_
  refine (Agree.refl current).bind .current fun token => expressions.bind proceeds fun _ => ?_
  refine (Agree.refl _).bind (.require _ _) fun _ => branches.bind branchProceeds fun _ => ?_
  refine (Agree.refl _).bind (.accept _) fun found => ?_
  cases found with
  | false => exact .refl _
  | true => exact branches.bind branchProceeds fun _ => .refl _

theorem on_statementOf_same (statements : StatementsAgree limit statement otherStatement)
    (enough : limit ≤ count) (alsoEnough : limit ≤ other) (small : state.left ≤ limit + 1) :
    (statementOf statement count).on state = (statementOf otherStatement other).on state := by
  have expressions := expressionWithin_agree enough alsoEnough
  have proceeds := expressionWithin_proceeds count
  have yields {first second : Parse Statement} (same : first.on state = second.on state) :
      (do return some (← first) : Parse (Option Statement)).on state =
        (do return some (← second) : Parse (Option Statement)).on state :=
    on_bind_same same fun _ _ => rfl
  rw [statementOf, statementOf, on_current_bind, on_current_bind]
  split
  case h_1 found =>
    exact yields (on_assignmentOf_same expressions proceeds (by rw [found]; rfl) small)
  case h_2 found =>
    exact on_bind_same (on_compoundOf_same statements enough alsoEnough found small) fun _ _ => rfl
  case h_3 found =>
    exact yields (on_repeatOf_same statements expressions proceeds enough alsoEnough
      (by rw [found]; rfl) small)
  case h_4 found =>
    exact yields (on_whileOf_same statements expressions proceeds enough alsoEnough
      (by rw [found]; rfl) small)
  case h_5 found =>
    exact yields (on_ifOf_same statements expressions proceeds (by rw [found]; rfl) small)
  all_goals rfl

/-- The statements inside a statement stand behind its first token. -/
theorem on_statementOf_descends {statement otherStatement : Parse (Option Statement)}
    (proceeds : statement.Proceeds)
    (passes : ∀ terminal, (roundOf statement).Passes (!endsList terminal ·))
    (below : ∀ place, place.left < state.left → statement.on place = otherStatement.on place)
    (enough : state.left ≤ count + 1) :
    (statementOf statement count).on state = (statementOf otherStatement count).on state := by
  cases left : state.left with
  | zero =>
      rw [statementOf, statementOf, on_current_bind, on_current_bind, isEndOfText_of_left left]
  | succ limit =>
      have agree : Agree limit statement otherStatement := fun place small => below place (by omega)
      exact on_statementOf_same ⟨agree, proceeds, passes⟩ (by omega) (by omega) (by omega)

theorem on_dropMistake_same {first second : Parse (Option Statement)}
    (same : first.on state = second.on state) :
    (dropMistake first).on state = (dropMistake second).on state := by
  rw [dropMistake, dropMistake, on_tryCatch, on_tryCatch, same]

theorem statementWithin_agree (enough : limit ≤ count) (alsoEnough : limit ≤ other) :
    Agree limit (statementWithin count) (statementWithin other) := by
  induction limit generalizing count other with
  | zero =>
      have ends (count : Nat) {state : ParseState}
          (atEnd : state.stream.current.kind = .endOfText) :
          (statementWithin count).on state = (dropMistake (fail .unexpectedToken)).on state := by
        cases count with
        | zero => rfl
        | succ count =>
            refine on_dropMistake_same ?_
            rw [statementOf, on_current_bind, atEnd]
      intro state small
      have atEnd := isEndOfText_of_left (Nat.le_zero.mp small)
      rw [ends count atEnd, ends other atEnd]
  | succ limit inductionHypothesis =>
      obtain ⟨count, rfl⟩ : ∃ less, count = less + 1 := Nat.exists_eq_succ_of_ne_zero (by omega)
      obtain ⟨other, rfl⟩ : ∃ less, other = less + 1 := Nat.exists_eq_succ_of_ne_zero (by omega)
      have fewer := Nat.le_of_succ_le_succ enough
      have alsoFewer := Nat.le_of_succ_le_succ alsoEnough
      have statements : StatementsAgree limit (statementWithin count) (statementWithin other) :=
        ⟨inductionHypothesis fewer alsoFewer, (statementWithin_passes count).toProceeds,
          fun terminal => round_passes terminal count⟩
      intro state small
      exact on_dropMistake_same (on_statementOf_same statements fewer alsoFewer small)

end Statements

end Parse

end MiniPascal
