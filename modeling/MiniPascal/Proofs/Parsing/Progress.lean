/-
This file measures what a parser has left before the end of its text, and shows that every part of
the parser goes on towards this end, whatever the mistakes are.
-/

import MiniPascal.Proofs.Parsing.Traced

namespace MiniPascal

theorem Stream.ending_next {stream after : Stream} (next : stream.next = .ok after) :
    after.ending = stream.ending := by
  obtain ⟨current, rest, ending⟩ := stream
  cases rest with
  | cons token rest =>
      cases next
      rfl
  | nil =>
      cases ending with
      | fault => cases next
      | endOfText line =>
          cases next
          rfl

namespace ParseState

variable {before after : ParseState}

theorem Steps.ending_eq (steps : Steps before after) :
    after.stream.ending = before.stream.ending := by
  refine steps.keep (fun state => state.stream.ending = before.stream.ending) ?_ rfl
  rintro state _ (next | _ | _) same
  · exact (Stream.ending_next next).trans same
  · exact same
  · exact same

end ParseState

open ParseState

namespace Parse

/-- The parser goes on by steps, and meets no fault but the one that ends its tokens. -/
structure Proceeds {α : Type} (parse : Parse α) : Prop where
  steps : ∀ state, Steps state (parse.on state).state
  fault : ∀ state fault, (parse.on state).result = .error (.fault fault) →
    state.stream.ending = .fault fault

/-- A parser that proceeds, and that passes a token of the wanted kinds unless it meets a fault. -/
structure Passes {α : Type} (parse : Parse α) (wanted : Kind → Bool) : Prop
    extends parse.Proceeds where
  less : ∀ state, wanted state.stream.current.kind = true →
    (∀ fault, (parse.on state).result ≠ .error (.fault fault)) →
      (parse.on state).state.left < state.left

section Rules

variable {α β : Type} {parse : Parse α} {next : α → Parse β} {wanted narrower : Kind → Bool}

/-- A parser that always yields something only has to go on by steps. -/
theorem Proceeds.of_yields (steps : ∀ state, Steps state (parse.on state).state)
    (yields : ∀ state, ∃ value, (parse.on state).result = .ok value) : parse.Proceeds where
  steps := steps
  fault state fault fails := by
    obtain ⟨value, result⟩ := yields state
    rw [result] at fails
    cases fails

theorem Proceeds.pure (value : α) : Proceeds (Pure.pure value) :=
  .of_yields (fun _ => .refl) fun _ => ⟨value, rfl⟩

theorem Proceeds.throw (mistake : Mistake) : Proceeds (throw (.mistake mistake) : Parse α) where
  steps _ := .refl
  fault _ _ fails := by
    rw [on_throw] at fails
    cases fails

theorem Proceeds.get : Proceeds (get : Parse ParseState) :=
  .of_yields (fun _ => .refl) fun state => ⟨state, rfl⟩

theorem Proceeds.current : Proceeds current :=
  .of_yields (fun _ => .refl) fun state => ⟨state.stream.current, rfl⟩

theorem Proceeds.report (complaint : Complaint) : Proceeds (report complaint) :=
  .of_yields (fun state => .single (.report state complaint)) fun _ => ⟨(), rfl⟩

theorem Proceeds.declare : Proceeds declare :=
  .of_yields (fun state => .single (.enter state)) fun _ => ⟨_, rfl⟩

theorem Proceeds.bind (first : parse.Proceeds) (second : ∀ value, (next value).Proceeds) :
    (parse >>= next).Proceeds := by
  constructor
  · intro state
    rw [on_bind]
    cases (parse.on state).result with
    | ok value => exact (first.steps state).trans ((second value).steps _)
    | error unwinding => exact first.steps state
  · intro state fault
    rw [on_bind]
    cases result : (parse.on state).result with
    | ok value =>
        intro fails
        rw [← (first.steps state).ending_eq]
        exact (second value).fault _ fault fails
    | error unwinding =>
        intro fails
        exact first.fault state fault (by rw [result]; exact congrArg _ (Except.error.inj fails))

theorem Passes.weaken (passes : parse.Passes wanted)
    (implies : ∀ kind, narrower kind = true → wanted kind = true) : parse.Passes narrower where
  toProceeds := passes.toProceeds
  less state inside := passes.less state (implies _ inside)

/-- What the first parser passes is passed. -/
theorem Passes.bind (first : parse.Passes wanted) (second : ∀ value, (next value).Proceeds) :
    (parse >>= next).Passes wanted where
  toProceeds := first.toProceeds.bind second
  less := by
    intro state inside
    have less := first.less state inside
    rw [on_bind]
    cases result : (parse.on state).result with
    | ok value =>
        intro _
        have behind := ((second value).steps (parse.on state).state).left_le
        exact Nat.lt_of_le_of_lt behind (less (by simp [result]))
    | error unwinding => exact fun faultless => less (by simpa [result] using faultless)

/-- What the second parser passes is passed when the first one does not move. -/
theorem Passes.after (second : ∀ value, (next value).Passes wanted) (first : parse.Proceeds)
    (still : ∀ state, (parse.on state).state.stream = state.stream)
    (yields : ∀ state, ∃ value, (parse.on state).result = .ok value) :
    (parse >>= next).Passes wanted where
  toProceeds := first.bind fun value => (second value).toProceeds
  less := by
    intro state inside
    obtain ⟨value, result⟩ := yields state
    have less := (second value).less (parse.on state).state (by rw [still]; exact inside)
    rw [on_bind, result]
    unfold left at less ⊢
    rw [still] at less
    exact less

/-- The current token decides how the parser goes on, and what it passes. -/
theorem Passes.byCurrent {next : Token → Parse β}
    (passes : ∀ token, ∃ inner : Kind → Bool, (next token).Passes inner ∧
      (wanted token.kind = true → inner token.kind = true)) :
    (Parse.current >>= next).Passes wanted where
  toProceeds := .bind .current fun token =>
    let ⟨_, passes, _⟩ := passes token
    passes.toProceeds
  less := by
    intro state inside
    obtain ⟨inner, passes, implies⟩ := passes state.stream.current
    exact passes.less state (implies inside)

/-- Nothing is said about what a parser passes. -/
theorem Proceeds.passes (proceeds : parse.Proceeds) : parse.Passes fun _ => false :=
  ⟨proceeds, fun _ none => by cases none⟩

theorem Proceeds.advance : Proceeds advance := by
  constructor
  · intro state
    rw [on_advance]
    cases next : state.stream.next with
    | ok stream => exact .single (.pass next)
    | error fault => exact .refl
  · intro state fault
    rw [on_advance]
    cases next : state.stream.next with
    | ok stream => exact nofun
    | error found =>
        intro same
        cases same
        obtain ⟨⟨current, rest, ending⟩, diagnostics, table⟩ := state
        cases rest with
        | cons => cases next
        | nil =>
            cases ending <;> cases next
            rfl

theorem Passes.advance : Passes advance (!·.isEndOfText) where
  toProceeds := .advance
  less := by
    intro state inside faultless
    rw [on_advance] at faultless ⊢
    cases next : state.stream.next with
    | ok stream => exact (Stream.left_next next).2 (by simpa using inside)
    | error fault =>
        rw [next] at faultless
        exact absurd rfl (faultless fault)

theorem Proceeds.mark : Proceeds mark := .bind .current fun _ => .bind .advance fun _ => .pure _

theorem Passes.mark : Passes mark (!·.isEndOfText) :=
  .after (fun _ => Passes.advance.bind fun _ => .pure _) .current (fun _ => rfl)
    fun state => ⟨state.stream.current, rfl⟩

theorem Proceeds.ite {condition : Bool} {first second : Parse α} (left : first.Proceeds)
    (right : second.Proceeds) : (if condition then first else second : Parse α).Proceeds := by
  cases condition
  · exact right
  · exact left

/-- Kinds that do not include the end of the text. -/
theorem Passes.ofInside (passes : parse.Passes (!·.isEndOfText))
    (ended : wanted .endOfText = false) : parse.Passes wanted := by
  refine passes.weaken fun kind inside => ?_
  cases atEnd : kind.isEndOfText with
  | false => rfl
  | true =>
      rw [Kind.isEndOfText_iff.mp atEnd, ended] at inside
      cases inside

theorem Proceeds.accept (wanted : Kind → Bool) : Proceeds (accept wanted) :=
  .bind .current fun _ => .ite (.bind .advance fun _ => .pure true) (.pure false)

theorem Passes.accept (ended : wanted .endOfText = false) : Passes (accept wanted) wanted := by
  refine .byCurrent fun token => ?_
  cases accepted : wanted token.kind with
  | false => exact ⟨fun _ => false, (Proceeds.pure false).passes, id⟩
  | true =>
      refine ⟨wanted, (Passes.advance.ofInside ended).bind fun _ => .pure true, fun _ => accepted⟩

theorem Proceeds.skipWhile (skipped : Kind → Bool) (count : Nat) :
    Proceeds (skipWhile skipped count) := by
  induction count with
  | zero => exact .pure ()
  | succ count inductionHypothesis =>
      exact .bind (.accept skipped) fun _ => .ite inductionHypothesis (.pure ())

theorem Proceeds.skipAll (skipped : Kind → Bool) : Proceeds (skipAll skipped) :=
  .bind .get fun _ => .skipWhile skipped _

theorem Passes.skipAll (ended : wanted .endOfText = false) : Passes (skipAll wanted) wanted := by
  refine .after (fun state => ?_) .get (fun _ => rfl) fun state => ⟨state, rfl⟩
  exact (Passes.accept ended).bind fun _ => .ite (.skipWhile wanted _) (.pure ())

theorem Proceeds.recover (mistake : Mistake) : Proceeds (recover mistake) :=
  .bind (.report _) fun _ => .skipAll _

/-- Recovery passes a token unless a statement ends before it. -/
theorem Passes.recover (mistake : Mistake) : Passes (recover mistake) (!endsStatement ·) :=
  .after (fun _ => .skipAll rfl) (.report _) (fun _ => rfl) fun _ => ⟨(), rfl⟩

theorem Proceeds.fail (mistake : Mistake) : Proceeds (fail mistake : Parse α) :=
  .bind (.recover mistake) fun _ => .throw mistake

theorem Passes.fail (mistake : Mistake) : Passes (fail mistake : Parse α) (!endsStatement ·) :=
  (Passes.recover mistake).bind fun _ => .throw mistake

theorem Proceeds.require (wanted : Kind → Bool) (mistake : Mistake) :
    Proceeds (require wanted mistake) :=
  .bind (.accept wanted) fun found => by
    cases found
    · exact .fail mistake
    · exact .pure ()

theorem Proceeds.expect (wanted : Kind → Bool) (mistake : Mistake) :
    Proceeds (expect wanted mistake) :=
  .bind (.accept wanted) fun found => by
    cases found
    · exact .recover mistake
    · exact .pure ()

theorem Proceeds.check (wanted : Kind → Bool) (mistake : Mistake) :
    Proceeds (check wanted mistake) :=
  .bind .current fun _ => .ite (.pure ()) (.fail mistake)

theorem Proceeds.variableRead : Proceeds variableRead := by
  refine .bind .current fun token => .bind .get fun state => ?_
  dsimp only
  split
  · exact .bind (.pure _) fun _ => .bind .advance fun _ => .pure _
  · exact .bind (.report _) fun _ => .bind (.pure _) fun _ => .bind .advance fun _ => .pure _

end Rules

section Expressions

variable {factor operand : Parse Expression}

theorem chain_proceeds {operator? : Kind → Option BinaryOperator} (operandProceeds : operand.Proceeds)
    (count : Nat) (left : Expression) : (chain operator? operand count left).Proceeds := by
  induction count generalizing left with
  | zero => exact .pure left
  | succ count inductionHypothesis =>
      refine .bind .current fun token => ?_
      split
      · exact .pure left
      · exact .bind .mark fun _ => .bind operandProceeds fun _ => inductionHypothesis _

theorem termOf_proceeds (factorProceeds : factor.Proceeds) (count : Nat) :
    (termOf factor count).Proceeds :=
  .bind factorProceeds fun _ => chain_proceeds factorProceeds count _

theorem simpleExpressionOf_proceeds (factorProceeds : factor.Proceeds) (count : Nat) :
    (simpleExpressionOf factor count).Proceeds := by
  have termProceeds := termOf_proceeds factorProceeds count
  refine .bind .current fun token => ?_
  dsimp only
  split
  · exact .bind termProceeds fun _ => chain_proceeds termProceeds count _
  · exact .bind .mark fun _ => .bind termProceeds fun _ => .bind (.pure _) fun _ =>
      chain_proceeds termProceeds count _

theorem expressionOf_proceeds (factorProceeds : factor.Proceeds) (count : Nat) :
    (expressionOf factor count).Proceeds := by
  have simpleProceeds := simpleExpressionOf_proceeds factorProceeds count
  refine .bind simpleProceeds fun _ => .bind .current fun token => ?_
  split
  · exact .pure _
  · exact .bind .mark fun _ => .bind simpleProceeds fun _ => .pure _

theorem factorWithin_proceeds (count : Nat) : (factorWithin count).Proceeds := by
  induction count with
  | zero => exact .fail _
  | succ count inductionHypothesis =>
      have expressionProceeds := expressionOf_proceeds inductionHypothesis count
      refine .bind .current fun token => ?_
      split
      · exact .bind .variableRead fun _ => .pure _
      · exact .bind .mark fun _ => .pure _
      · exact .bind .mark fun _ => .pure _
      · exact .bind .advance fun _ => .bind expressionProceeds fun _ =>
          .bind (.require _ _) fun _ => .pure _
      · exact .bind .mark fun _ => .bind expressionProceeds fun _ => .pure _
      · exact .fail _

theorem expressionWithin_proceeds (count : Nat) : (expressionWithin count).Proceeds :=
  expressionOf_proceeds (factorWithin_proceeds count) count

end Expressions

section Statements

variable {statement : Parse (Option Statement)} {expression : Parse Expression}

theorem separator_proceeds : separator.Proceeds :=
  .bind .current fun _ => .ite (.skipAll _) (.ite (.recover _) (.pure ()))

theorem statementsWithin_proceeds (statementProceeds : statement.Proceeds)
    (terminal : Kind → Bool) (count : Nat) :
    (statementsWithin statement terminal count).Proceeds := by
  induction count with
  | zero => exact .pure []
  | succ count inductionHypothesis =>
      exact .bind .current fun _ => .ite (.pure []) (.bind statementProceeds fun _ =>
        .bind separator_proceeds fun _ => .bind inductionHypothesis fun _ => .pure _)

/-- Behind its first word a compound statement goes on. -/
theorem compoundOf_passes (statementProceeds : statement.Proceeds) (count : Nat) :
    (compoundOf statement count).Passes (·.isKeyword .beginWord) := by
  refine .after (fun token => ?_) .current (fun _ => rfl) fun state => ⟨state.stream.current, rfl⟩
  exact (Passes.accept rfl).bind fun _ => .bind (statementsWithin_proceeds statementProceeds _ _)
    fun _ => .bind (.expect _ _) fun _ => .pure _

theorem assignmentOf_passes (expressionProceeds : expression.Proceeds) :
    (assignmentOf expression).Passes (!·.isEndOfText) := by
  refine .after (fun target => ?_) .declare (fun _ => rfl) fun _ => ⟨_, rfl⟩
  exact Passes.advance.bind fun _ => .bind (.require _ _) fun _ =>
    .bind expressionProceeds fun _ => .pure _

theorem repeatOf_passes (statementProceeds : statement.Proceeds)
    (expressionProceeds : expression.Proceeds) (count : Nat) :
    (repeatOf statement expression count).Passes (!·.isEndOfText) :=
  Passes.mark.bind fun _ => .bind (statementsWithin_proceeds statementProceeds _ _) fun _ =>
    .bind (.check _ _) fun _ => .bind .mark fun _ => .bind expressionProceeds fun _ => .pure _

theorem whileOf_passes (statementProceeds : statement.Proceeds)
    (expressionProceeds : expression.Proceeds) (count : Nat) :
    (whileOf statement expression count).Passes (!·.isEndOfText) :=
  Passes.mark.bind fun _ => .bind .current fun _ => .bind expressionProceeds fun _ =>
    .bind (.require _ _) fun _ => .bind (.check _ _) fun _ =>
      .bind (compoundOf_passes statementProceeds count).toProceeds fun _ => .pure _

theorem branchOf_proceeds (statementProceeds : statement.Proceeds) :
    (branchOf statement).Proceeds :=
  .bind .current fun _ => .bind statementProceeds fun _ => .pure _

theorem ifOf_passes (statementProceeds : statement.Proceeds)
    (expressionProceeds : expression.Proceeds) :
    (ifOf statement expression).Passes (!·.isEndOfText) :=
  have branchProceeds := branchOf_proceeds statementProceeds
  Passes.mark.bind fun _ => .bind .current fun _ => .bind expressionProceeds fun _ =>
    .bind (.require _ _) fun _ => .bind branchProceeds fun _ => .bind (.accept _) fun _ =>
      .ite (.bind branchProceeds fun _ => .pure _) (.pure _)

theorem item_proceeds : item.Proceeds := by
  refine .bind .current fun token => ?_
  split
  · exact .bind .variableRead fun _ => .pure _
  · exact .bind .mark fun _ => .pure _
  · exact .bind .mark fun _ => .pure _
  · exact .fail _

theorem width_proceeds (mistake : Mistake) : (width mistake).Proceeds := by
  refine .bind .current fun token => ?_
  split
  · exact .bind .mark fun _ => .pure _
  · exact .fail _

theorem format_proceeds : format.Proceeds :=
  .bind (.accept _) fun _ => .ite (.bind (width_proceeds _) fun _ => .bind (.accept _) fun _ =>
    .ite (.bind (width_proceeds _) fun _ => .pure _) (.pure _)) (.pure _)

theorem argument_proceeds : argument.Proceeds :=
  .bind .advance fun _ => .bind item_proceeds fun _ => .bind format_proceeds fun _ =>
    .bind (.require _ _) fun _ => .pure _

theorem write_passes : write.Passes (!·.isEndOfText) :=
  Passes.mark.bind fun _ => .bind (.check _ _) fun _ => .bind argument_proceeds fun _ => .pure _

theorem writeln_passes : writeln.Passes (!·.isEndOfText) :=
  Passes.mark.bind fun _ => .bind .current fun _ =>
    .ite (.bind argument_proceeds fun _ => .pure _) (.pure _)

/-- A statement passes its first token unless a statement ends before it. -/
theorem statementOf_passes (statementProceeds : statement.Proceeds) (count : Nat) :
    (statementOf statement count).Passes (!endsStatement ·) := by
  have expressionProceeds := expressionWithin_proceeds count
  refine .byCurrent fun token => ?_
  have yields {parse : Parse Statement} (passes : parse.Passes (!·.isEndOfText))
      (found : token.kind.isEndOfText = false) : ∃ inner : Kind → Bool,
      (do return some (← parse) : Parse (Option Statement)).Passes inner ∧
        ((!endsStatement token.kind) = true → inner token.kind = true) :=
    ⟨_, passes.bind fun _ => .pure _, fun _ => by simp [found]⟩
  split
  case h_1 found => exact yields (assignmentOf_passes expressionProceeds) (by rw [found]; rfl)
  case h_2 found =>
    exact ⟨_, (compoundOf_passes statementProceeds count).bind fun _ => .pure _,
      fun _ => by rw [found]; rfl⟩
  case h_3 found =>
    exact yields (repeatOf_passes statementProceeds expressionProceeds count) (by rw [found]; rfl)
  case h_4 found =>
    exact yields (whileOf_passes statementProceeds expressionProceeds count) (by rw [found]; rfl)
  case h_5 found =>
    exact yields (ifOf_passes statementProceeds expressionProceeds) (by rw [found]; rfl)
  case h_6 found => exact yields write_passes (by rw [found]; rfl)
  case h_7 found => exact yields writeln_passes (by rw [found]; rfl)
  case h_8 found =>
    refine ⟨fun _ => false, (Proceeds.pure none).passes, fun ends => ?_⟩
    rw [found] at ends
    cases ends
  case h_9 => exact ⟨_, .fail _, id⟩

/-- A dropped mistake leaves the parser where it is. -/
theorem Passes.dropMistake {parse : Parse (Option Statement)} {wanted : Kind → Bool}
    (passes : parse.Passes wanted) : (dropMistake parse).Passes wanted := by
  have same (state : ParseState) : ((Parse.dropMistake parse).on state).state = (parse.on state).state ∧
      ∀ fault, ((Parse.dropMistake parse).on state).result = .error (.fault fault) ↔
        (parse.on state).result = .error (.fault fault) := by
    rw [Parse.dropMistake, on_tryCatch]
    cases result : (parse.on state).result with
    | ok value => exact ⟨rfl, fun _ => by simp⟩
    | error unwinding => cases unwinding <;> exact ⟨rfl, fun _ => by simp⟩
  constructor
  · constructor
    · intro state
      rw [(same state).1]
      exact passes.steps state
    · intro state fault fails
      exact passes.fault state fault (((same state).2 fault).mp fails)
  · intro state inside faultless
    rw [(same state).1]
    exact passes.less state inside fun fault fails =>
      faultless fault (((same state).2 fault).mpr fails)

theorem statementWithin_passes (count : Nat) :
    (statementWithin count).Passes (!endsStatement ·) := by
  induction count with
  | zero => exact (Passes.fail _).dropMistake
  | succ count inductionHypothesis =>
      exact (statementOf_passes inductionHypothesis.toProceeds count).dropMistake

theorem programName_proceeds : programName.Proceeds :=
  .bind .current fun _ => .ite (.bind .declare fun _ => .bind .advance fun _ => .pure _)
    (.bind (.recover _) fun _ => .pure _)

theorem programBody_proceeds (line : Nat) (name : Option String) :
    (programBody line name).Proceeds := by
  refine .bind (.bind .get fun _ => .pure _) fun count => ?_
  refine .bind (compoundOf_passes (statementWithin_passes count).toProceeds count).toProceeds
    fun found => ?_
  exact .bind .current fun _ => .ite (.pure _) (.bind (.recover _) fun _ => .pure _)

theorem program_proceeds : program.Proceeds :=
  .bind .advance fun _ => .bind .current fun _ => .bind (.expect _ _) fun _ =>
    .bind programName_proceeds fun name => .bind (.expect _ _) fun _ => .bind .current fun _ =>
      .ite (programBody_proceeds _ name) (.bind (.recover _) fun _ => programBody_proceeds _ name)

end Statements

end Parse

end MiniPascal
