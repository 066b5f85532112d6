/-
This file shows that no mistake escapes from the lists of statements and from the parser of programs,
and that every round of a list passes a token.
-/

import MiniPascal.Proofs.Parsing.Progress

namespace MiniPascal

open ParseState

namespace Parse

/-- A parser that no mistake leaves: each of them is dropped inside. -/
def Contains {α : Type} (parse : Parse α) : Prop :=
  ∀ state mistake, (parse.on state).result ≠ .error (.mistake mistake)

section Containment

variable {α β : Type} {parse : Parse α} {next : α → Parse β}

theorem Contains.of_yields (yields : ∀ state, ∃ value, (parse.on state).result = .ok value) :
    parse.Contains := by
  intro state mistake unwinds
  obtain ⟨value, result⟩ := yields state
  rw [result] at unwinds
  cases unwinds

theorem Contains.pure (value : α) : Contains (Pure.pure value) :=
  .of_yields fun _ => ⟨value, rfl⟩

theorem Contains.get : Contains (get : Parse ParseState) := .of_yields fun state => ⟨state, rfl⟩

theorem Contains.current : Contains current := .of_yields fun state => ⟨state.stream.current, rfl⟩

theorem Contains.bind (first : parse.Contains) (second : ∀ value, (next value).Contains) :
    (parse >>= next).Contains := by
  intro state mistake
  rw [on_bind]
  cases result : (parse.on state).result with
  | ok value => exact second value _ mistake
  | error unwinding =>
      intro unwinds
      exact first state mistake (by rw [result]; exact congrArg _ (Except.error.inj unwinds))

theorem Contains.ite {condition : Bool} {first second : Parse α} (left : first.Contains)
    (right : second.Contains) : (if condition then first else second : Parse α).Contains := by
  cases condition
  · exact right
  · exact left

theorem Contains.advance : Contains advance := by
  intro state mistake unwinds
  rw [on_advance] at unwinds
  cases next : state.stream.next <;> rw [next] at unwinds <;> cases unwinds

theorem Contains.accept (wanted : Kind → Bool) : Contains (accept wanted) :=
  .bind .current fun _ => .ite (.bind .advance fun _ => .pure true) (.pure false)

theorem Contains.skipWhile (skipped : Kind → Bool) (count : Nat) :
    Contains (skipWhile skipped count) := by
  induction count with
  | zero => exact .pure ()
  | succ count inductionHypothesis =>
      exact .bind (.accept skipped) fun _ => .ite inductionHypothesis (.pure ())

theorem Contains.skipAll (skipped : Kind → Bool) : Contains (skipAll skipped) :=
  .bind .get fun _ => .skipWhile skipped _

theorem Contains.recover (mistake : Mistake) : Contains (recover mistake) :=
  .bind (.of_yields fun _ => ⟨(), rfl⟩) fun _ => .skipAll _

theorem Contains.expect (wanted : Kind → Bool) (mistake : Mistake) :
    Contains (expect wanted mistake) :=
  .bind (.accept wanted) fun found => by
    cases found
    · exact .recover mistake
    · exact .pure ()

theorem Contains.dropMistake (parse : Parse (Option Statement)) :
    (Parse.dropMistake parse).Contains := by
  intro state mistake
  rw [Parse.dropMistake, on_tryCatch]
  intro unwinds
  cases result : (parse.on state).result with
  | ok value =>
      rw [result] at unwinds
      cases unwinds
  | error unwinding =>
      rw [result] at unwinds
      cases unwinding <;> cases unwinds

theorem Contains.separator : Contains separator :=
  .bind .current fun _ => .ite (.skipAll _) (.ite (.recover _) (.pure ()))

theorem Contains.statementWithin (count : Nat) : (statementWithin count).Contains := by
  cases count <;> exact .dropMistake _

theorem Contains.statementsWithin {statement : Parse (Option Statement)}
    (contains : statement.Contains) (terminal : Kind → Bool) (count : Nat) :
    (statementsWithin statement terminal count).Contains := by
  induction count with
  | zero => exact .pure []
  | succ count inductionHypothesis =>
      exact .bind .current fun _ => .ite (.pure []) (.bind contains fun _ =>
        .bind .separator fun _ => .bind inductionHypothesis fun _ => .pure _)

theorem Contains.compoundOf {statement : Parse (Option Statement)}
    (contains : statement.Contains) (count : Nat) : (compoundOf statement count).Contains :=
  .bind .current fun _ => .bind (.accept _) fun _ => .bind (.statementsWithin contains _ _)
    fun _ => .bind (.expect _ _) fun _ => .pure _

theorem Contains.programName : Contains programName :=
  .bind .current fun _ => .ite (.bind (.of_yields fun _ => ⟨_, rfl⟩) fun _ =>
    .bind .advance fun _ => .pure _) (.bind (.recover _) fun _ => .pure _)

theorem Contains.programBody (line : Nat) (name : Option String) :
    (programBody line name).Contains := by
  refine .bind (.bind .get fun _ => .pure _) fun count => ?_
  refine .bind (.compoundOf (.statementWithin count) count) fun found => ?_
  exact .bind .current fun _ => .ite (.pure _) (.bind (.recover _) fun _ => .pure _)

/-- No mistake leaves the parser of programs. -/
theorem Contains.program : Contains program :=
  .bind .advance fun _ => .bind .current fun _ => .bind (.expect _ _) fun _ =>
    .bind .programName fun name => .bind (.expect _ _) fun _ => .bind .current fun _ =>
      .ite (.programBody _ name) (.bind (.recover _) fun _ => .programBody _ name)

end Containment

/-- The parser of programs ends with a program, or with the fault that ends the tokens. -/
theorem program_total (state : ParseState) :
    (∃ found, (program.on state).result = .ok found) ∨
      ∃ fault, state.stream.ending = .fault fault ∧
        (program.on state).result = .error (.fault fault) := by
  cases result : (program.on state).result with
  | ok found => exact .inl ⟨found, rfl⟩
  | error unwinding =>
      cases unwinding with
      | mistake mistake => exact absurd result (Contains.program state mistake)
      | fault fault => exact .inr ⟨fault, program_proceeds.fault state fault result, rfl⟩

section Rounds

variable {state : ParseState}

/-- Nothing is skipped before a token of another kind. -/
theorem on_skipAll_absent {skipped : Kind → Bool}
    (absent : skipped state.stream.current.kind = false) :
    (skipAll skipped).on state = ⟨.ok (), state⟩ := by
  rw [skipAll, on_bind]
  change (skipWhile skipped (state.stream.rest.length + 1)).on state = _
  rw [skipWhile, on_bind, on_accept, absent]
  rfl

/-- Before a semicolon a statement is empty, and the parser does not move. -/
theorem on_statementWithin_semicolon (found : state.stream.current.kind = .symbol .semicolon)
    (count : Nat) : ((statementWithin count).on state).state.stream = state.stream := by
  cases count with
  | zero =>
      rw [statementWithin, dropMistake, on_tryCatch, fail, on_bind, recover, on_bind, on_report]
      dsimp only
      rw [on_skipAll_absent (by change (!endsStatement state.stream.current.kind) = false; rw [found]; rfl)]
      rfl
  | succ count =>
      rw [statementWithin, dropMistake, on_tryCatch, statementOf, on_bind, on_current]
      dsimp only
      rw [found]
      rfl

/-- One round of a list of statements: a statement, and what stands between it and the next one. -/
def roundOf (statement : Parse (Option Statement)) : Parse (Option Statement) := do
  let found ← statement
  separator
  return found

/-- A list of statements goes round until it ends before its current token. -/
theorem statementsWithin_succ (statement : Parse (Option Statement)) (terminal : Kind → Bool)
    (count : Nat) :
    statementsWithin statement terminal (count + 1) = (do
      if endsList terminal (← current).kind then return []
      let first ← roundOf statement
      let others ← statementsWithin statement terminal count
      return first.toList ++ others) := by
  simp only [statementsWithin, roundOf, bind_assoc, pure_bind]

theorem roundOf_proceeds {statement : Parse (Option Statement)}
    (statementProceeds : statement.Proceeds) : (roundOf statement).Proceeds :=
  .bind statementProceeds fun _ => .bind separator_proceeds fun _ => .pure _

/-- Semicolons are passed between statements. -/
theorem separator_passes : separator.Passes (·.isSymbol .semicolon) := by
  refine .byCurrent fun token => ?_
  dsimp only
  split
  case isTrue found => exact ⟨_, .skipAll rfl, fun _ => found⟩
  case isFalse other =>
    exact ⟨_, (Proceeds.ite (.recover _) (.pure ())).passes, fun found => absurd found other⟩

/-- A list that does not end before a token meets a semicolon or a token that a statement
passes. -/
theorem endsStatement_of_endsList {terminal : Kind → Bool} {kind : Kind}
    (goesOn : (!endsList terminal kind) = true) (noSemicolon : kind ≠ .symbol .semicolon) :
    (!endsStatement kind) = true := by
  have other : kind.isSymbol .semicolon = false := by
    rw [Bool.eq_false_iff]
    exact fun found => noSemicolon (Kind.isSymbol_iff.mp found)
  simp only [endsList, endsStatement, other, Bool.not_eq_true', Bool.or_eq_false_iff] at goesOn ⊢
  obtain ⟨⟨⟨_, inside⟩, noEnd⟩, noUntil⟩ := goesOn
  exact ⟨⟨⟨trivial, noEnd⟩, noUntil⟩, inside⟩

/-- A round passes a token unless the list ends before it. -/
theorem round_passes (terminal : Kind → Bool) (count : Nat) :
    (roundOf (statementWithin count)).Passes (!endsList terminal ·) := by
  have statementPasses := statementWithin_passes count
  refine ⟨roundOf_proceeds statementPasses.toProceeds, fun state goesOn => ?_⟩
  by_cases found : state.stream.current.kind = .symbol .semicolon
  · have still := on_statementWithin_semicolon found count
    rw [roundOf, on_bind]
    cases result : ((statementWithin count).on state).result with
    | ok statement =>
        intro faultless
        have less := (separator_passes.bind fun _ => .pure statement).less
          ((statementWithin count).on state).state (by rw [still, found]; rfl) faultless
        unfold left at less ⊢
        rw [still] at less
        exact less
    | error unwinding =>
        intro faultless
        cases unwinding with
        | mistake mistake => exact absurd result (Contains.statementWithin count state mistake)
        | fault fault => exact absurd rfl (faultless fault)
  · exact (statementPasses.bind fun _ => .bind separator_proceeds fun _ => .pure _).less state
      (endsStatement_of_endsList goesOn found)

end Rounds

end Parse

end MiniPascal
