/-
This file follows a parser step by step: it passes tokens, reports, and enters names. Every mistake
that it ends with is reported, and leaves it where a statement ends.
-/

import MiniPascal.Parse.Statement
import Mathlib.Logic.Relation

namespace MiniPascal

/-- The tokens that are left to pass, the current one included. -/
def Stream.left (stream : Stream) : Nat :=
  stream.rest.length + if stream.current.kind.isEndOfText then 0 else 1

def ParseState.left (state : ParseState) : Nat := state.stream.left

theorem ParseState.left_le_size (state : ParseState) : state.left ≤ state.stream.size := by
  unfold left Stream.left Stream.size
  split <;> omega

/-- Where nothing is left is the end of the text. -/
theorem ParseState.isEndOfText_of_left {state : ParseState} (none : state.left = 0) :
    state.stream.current.kind = .endOfText := by
  unfold left Stream.left at none
  cases ended : state.stream.current.kind.isEndOfText with
  | true => exact Kind.isEndOfText_iff.mp ended
  | false => simp [ended] at none

/-- To go on to the next token leaves no more than before, and less behind a token of the text. -/
theorem Stream.left_next {stream after : Stream} (next : stream.next = .ok after) :
    after.left ≤ stream.left ∧
      (stream.current.kind.isEndOfText = false → after.left < stream.left) := by
  obtain ⟨current, rest, ending⟩ := stream
  cases rest with
  | cons token rest =>
      cases next
      unfold left
      dsimp only
      rw [List.length_cons]
      constructor
      · split <;> split <;> omega
      · intro inside
        rw [inside]
        split <;> simp only [Bool.false_eq_true, if_false] <;> omega
  | nil =>
      cases ending with
      | fault fault => cases next
      | endOfText line =>
          cases next
          constructor
          · exact Nat.zero_le _
          · intro inside
            replace inside : current.kind.isEndOfText = false := inside
            simp only [left, inside, Bool.false_eq_true, if_false]
            exact Nat.succ_pos _

/-- The count of the diagnostics that are written so far. -/
def ParseState.errors (state : ParseState) : Nat := state.diagnostics.length

/-- A parser passes its current token, reports something at it, or enters its text as a name. -/
inductive ParseState.Step : ParseState → ParseState → Prop
  | pass {state : ParseState} {stream : Stream} (next : state.stream.next = .ok stream) :
      Step state { state with stream }
  | report (state : ParseState) (complaint : Complaint) :
      Step state { state with diagnostics := state.diagnostics ++
        [⟨complaint, state.stream.current.line, state.stream.current.text⟩] }
  | enter (state : ParseState) :
      Step state { state with table := state.table.enter state.stream.current.text }

/-- Any number of steps. -/
abbrev ParseState.Steps : ParseState → ParseState → Prop := Relation.ReflTransGen ParseState.Step

namespace ParseState

/-- Whatever every step keeps is kept by a whole run. -/
theorem Steps.keep (property : ParseState → Prop)
    (step : ∀ before after, Step before after → property before → property after)
    {before after : ParseState} (steps : Steps before after) (start : property before) :
    property after := by
  induction steps with
  | refl => exact start
  | tail _ last inductionHypothesis => exact step _ _ last inductionHypothesis

/-- A run only adds diagnostics. -/
theorem Steps.diagnostics_prefix {before after : ParseState} (steps : Steps before after) :
    before.diagnostics <+: after.diagnostics := by
  refine steps.keep (fun state => before.diagnostics <+: state.diagnostics) ?_
    (List.prefix_refl _)
  rintro middle _ (_ | _ | _) held
  · exact held
  · exact held.trans (List.prefix_append _ _)
  · exact held

theorem Steps.errors_le {before after : ParseState} (steps : Steps before after) :
    before.errors ≤ after.errors := steps.diagnostics_prefix.length_le

/-- A run leaves no more than before. -/
theorem Steps.left_le {before after : ParseState} (steps : Steps before after) :
    after.left ≤ before.left := by
  refine steps.keep (fun state => state.left ≤ before.left) ?_ (Nat.le_refl _)
  rintro state _ (next | _ | _) less
  · exact Nat.le_trans (Stream.left_next next).1 less
  · exact less
  · exact less

theorem Steps.within {before after : ParseState} {bound : Nat} (steps : Steps before after)
    (enough : before.left ≤ bound) : after.left ≤ bound := Nat.le_trans steps.left_le enough

/-- A run that reports nothing reports nothing in any part of it. -/
theorem Steps.quiet_parts {before middle after : ParseState} (first : Steps before middle)
    (second : Steps middle after) (quiet : after.errors = before.errors) :
    middle.errors = before.errors ∧ after.errors = middle.errors := by
  have firstCount := first.errors_le
  have secondCount := second.errors_le
  omega

/-- A run of one token. -/
theorem Steps.pass {state : ParseState} {stream : Stream} (next : state.stream.next = .ok stream) :
    Steps state { state with stream } := .single (.pass next)

/-- Tokens of the given kinds are passed, up to one of another kind. -/
inductive Skips (skipped : Kind → Bool) : ParseState → ParseState → Prop where
  | stop {state : ParseState} (missed : skipped state.stream.current.kind = false) :
      Skips skipped state state
  | pass {state after : ParseState} {stream : Stream}
      (found : skipped state.stream.current.kind = true) (next : state.stream.next = .ok stream)
      (others : Skips skipped { state with stream } after) : Skips skipped state after

/-- A mistake is reported, and tokens are passed up to where a statement ends. -/
structure Recovers (state after : ParseState) : Prop where
  steps : Steps state after
  reported : state.errors < after.errors
  settled : Parse.endsStatement after.stream.current.kind = true

namespace Skips

variable {skipped : Kind → Bool} {state after : ParseState}

theorem steps (skips : state.Skips skipped after) : Steps state after := by
  induction skips with
  | stop => exact .refl
  | pass _ next _ others => exact (Steps.pass next).trans others

theorem stops (skips : state.Skips skipped after) :
    skipped after.stream.current.kind = false := by
  induction skips with
  | stop missed => exact missed
  | pass _ _ _ others => exact others

/-- Passing tokens reports nothing. -/
theorem errors_eq (skips : state.Skips skipped after) : after.errors = state.errors := by
  induction skips with
  | stop => rfl
  | pass _ _ _ others => exact others

end Skips

end ParseState

open ParseState

/-- From a state a parser goes on by steps, reports the mistake that it may end with and then stands
where a statement ends, and reaches the goal with every result. -/
structure Parse.Leads {α : Type} (parse : Parse α) (state : ParseState)
    (goal : α → ParseState → Prop) : Prop where
  steps : Steps state (parse.on state).state
  reported : ∀ mistake, (parse.on state).result = .error (.mistake mistake) →
    state.errors < (parse.on state).state.errors
  settled : ∀ mistake, (parse.on state).result = .error (.mistake mistake) →
    endsStatement (parse.on state).state.stream.current.kind = true
  reached : ∀ value, (parse.on state).result = .ok value → goal value (parse.on state).state

namespace Parse.Leads

variable {α β : Type} {state : ParseState}

theorem weaken {parse : Parse α} {goal weaker : α → ParseState → Prop}
    (leads : parse.Leads state goal)
    (implies : ∀ value after, Steps state after → goal value after → weaker value after) :
    parse.Leads state weaker where
  steps := leads.steps
  reported := leads.reported
  settled := leads.settled
  reached value result := implies value _ leads.steps (leads.reached value result)

theorem pure {value : α} {goal : α → ParseState → Prop} (reached : goal value state) :
    Parse.Leads (Pure.pure value) state goal where
  steps := .refl
  reported _ result := by simp at result
  settled _ result := by simp at result
  reached other result := by
    simp only [on_pure, Except.ok.injEq] at result
    exact result ▸ reached

/-- The second parser starts where the first one stops, behind all of its steps. -/
theorem bind {first : Parse α} {next : α → Parse β} {goal : β → ParseState → Prop}
    (leads : first.Leads state fun value middle =>
      Steps state middle → (next value).Leads middle goal) :
    (first >>= next).Leads state goal := by
  cases result : (first.on state).result with
  | error unwinding =>
      constructor <;> simp only [on_bind, result]
      · exact leads.steps
      · intro mistake same
        exact leads.reported mistake (by rw [result]; exact congrArg _ (Except.error.inj same))
      · intro mistake same
        exact leads.settled mistake (by rw [result]; exact congrArg _ (Except.error.inj same))
      · intro value same
        cases same
  | ok value =>
      have second := leads.reached value result leads.steps
      have behind := leads.steps.errors_le
      constructor <;> simp only [on_bind, result]
      · exact leads.steps.trans second.steps
      · intro mistake same
        exact Nat.lt_of_le_of_lt behind (second.reported mistake same)
      · exact second.settled
      · exact second.reached

theorem current {goal : Token → ParseState → Prop} (reached : goal state.stream.current state) :
    Parse.current.Leads state goal where
  steps := .refl
  reported _ result := by simp at result
  settled _ result := by simp at result
  reached token result := by
    simp only [on_current, Except.ok.injEq] at result
    exact result ▸ reached

theorem get {goal : ParseState → ParseState → Prop} (reached : goal state state) :
    Parse.Leads (MonadState.get : Parse ParseState) state goal where
  steps := .refl
  reported _ result := by simp at result
  settled _ result := by simp at result
  reached found result := by
    simp only [on_get, Except.ok.injEq] at result
    exact result ▸ reached

theorem advance {goal : Unit → ParseState → Prop}
    (reached : ∀ stream, state.stream.next = .ok stream → goal () { state with stream }) :
    Parse.advance.Leads state goal := by
  cases next : state.stream.next with
  | error fault =>
      constructor <;> simp only [on_advance, next]
      · exact .refl
      · intro mistake same
        cases same
      · intro mistake same
        cases same
      · intro value same
        cases same
  | ok stream =>
      constructor <;> simp only [on_advance, next]
      · exact .single (.pass next)
      · intro mistake same
        cases same
      · intro mistake same
        cases same
      · intro _ _
        exact reached stream next

theorem report {complaint : Complaint} {goal : Unit → ParseState → Prop}
    (reached : goal () { state with diagnostics := state.diagnostics ++
      [⟨complaint, state.stream.current.line, state.stream.current.text⟩] }) :
    (Parse.report complaint).Leads state goal where
  steps := .single (.report state complaint)
  reported _ result := by simp at result
  settled _ result := by simp at result
  reached _ _ := reached

theorem accept {wanted : Kind → Bool} {goal : Bool → ParseState → Prop}
    (absent : wanted state.stream.current.kind = false → goal false state)
    (present : wanted state.stream.current.kind = true →
      ∀ stream, state.stream.next = .ok stream → goal true { state with stream }) :
    (Parse.accept wanted).Leads state goal := by
  refine bind (current fun _ => ?_)
  split
  case isTrue found =>
    exact bind (advance fun stream next _ => pure (present found stream next))
  case isFalse missed => exact pure (absent (by simpa using missed))

/-- Skipping stops at a token of another kind: there is a round for every token that is left. -/
theorem skipWhile {skipped : Kind → Bool} (ended : skipped .endOfText = false) {count : Nat}
    (enough : state.left ≤ count) :
    (Parse.skipWhile skipped count).Leads state fun _ after => state.Skips skipped after := by
  induction count generalizing state with
  | zero => exact pure (.stop (by rw [isEndOfText_of_left (Nat.le_zero.mp enough), ended]))
  | succ count inductionHypothesis =>
      refine bind (accept (fun missed _ => pure (.stop missed)) fun found stream next _ => ?_)
      have inside : state.stream.current.kind.isEndOfText = false := by
        refine Bool.eq_false_iff.mpr fun atEnd => ?_
        rw [Kind.isEndOfText_iff.mp atEnd, ended] at found
        cases found
      have fewer : ParseState.left { state with stream } ≤ count :=
        Nat.le_of_lt_succ (Nat.lt_of_lt_of_le ((Stream.left_next next).2 inside) enough)
      exact (inductionHypothesis fewer).weaken fun _ _ _ others => .pass found next others

theorem skipAll {skipped : Kind → Bool} (ended : skipped .endOfText = false) :
    (Parse.skipAll skipped).Leads state fun _ after => state.Skips skipped after :=
  bind (get fun _ => skipWhile ended state.left_le_size)

theorem recover (mistake : Mistake) :
    (Parse.recover mistake).Leads state fun _ after => state.Recovers after := by
  refine bind (report fun written => (skipAll rfl).weaken fun _ after toAfter skips => ?_)
  refine ⟨written.trans toAfter, ?_, by simpa using skips.stops⟩
  rw [skips.errors_eq]
  simp [errors]

theorem fail {mistake : Mistake} {goal : α → ParseState → Prop} :
    (Parse.fail mistake : Parse α).Leads state goal := by
  have recovery : (Parse.recover mistake).Leads state fun _ after => state.Recovers after :=
    recover mistake
  rw [Parse.fail]
  cases result : ((Parse.recover mistake).on state).result with
  | error unwinding =>
      constructor <;> simp only [on_bind, result]
      · exact recovery.steps
      · intro found same
        exact recovery.reported found (by rw [result]; exact congrArg _ (Except.error.inj same))
      · intro found same
        exact recovery.settled found (by rw [result]; exact congrArg _ (Except.error.inj same))
      · intro value same
        cases same
  | ok value =>
      have recovers := recovery.reached value result
      constructor <;> simp only [on_bind, result, on_throw]
      · exact recovery.steps
      · exact fun _ _ => recovers.reported
      · exact fun _ _ => recovers.settled
      · intro value same
        cases same

theorem require {wanted : Kind → Bool} {mistake : Mistake} {goal : Unit → ParseState → Prop}
    (present : wanted state.stream.current.kind = true →
      ∀ stream, state.stream.next = .ok stream → goal () { state with stream }) :
    (Parse.require wanted mistake).Leads state goal :=
  bind (accept (fun _ _ => fail) fun found stream next _ => pure (present found stream next))

theorem expect {wanted : Kind → Bool} {mistake : Mistake} {goal : Unit → ParseState → Prop}
    (absent : ∀ after, state.Recovers after → goal () after)
    (present : wanted state.stream.current.kind = true →
      ∀ stream, state.stream.next = .ok stream → goal () { state with stream }) :
    (Parse.expect wanted mistake).Leads state goal := by
  refine bind (accept (fun _ _ => ?_) fun found stream next _ => pure (present found stream next))
  exact (recover mistake).weaken fun _ after _ recovers => absent after recovers

theorem check {wanted : Kind → Bool} {mistake : Mistake} {goal : Unit → ParseState → Prop}
    (present : wanted state.stream.current.kind = true → goal () state) :
    (Parse.check wanted mistake).Leads state goal := by
  refine bind (current fun _ => ?_)
  split
  case isTrue found => exact pure (present found)
  case isFalse => exact fail

theorem mark {goal : Mark → ParseState → Prop}
    (reached : ∀ stream, state.stream.next = .ok stream →
      goal ⟨state.stream.current.text, state.stream.current.line⟩ { state with stream }) :
    Parse.mark.Leads state goal :=
  bind (current fun _ => bind (advance fun stream next _ => pure (reached stream next)))

theorem declare {goal : Variable → ParseState → Prop}
    (reached : goal
      ⟨⟨state.stream.current.text, state.stream.current.line⟩,
        (state.table.entered state.stream.current.text).binding⟩
      { state with table := state.table.enter state.stream.current.text }) :
    Parse.declare.Leads state goal where
  steps := .single (.enter state)
  reported _ result := by cases result
  settled _ result := by cases result
  reached _ result := by
    cases result
    exact reached

theorem variableRead {goal : Variable → ParseState → Prop}
    (known : ∀ cell, state.table.lookup? state.stream.current.text = some cell →
      ∀ stream, state.stream.next = .ok stream →
        goal ⟨⟨state.stream.current.text, state.stream.current.line⟩, cell.binding⟩
          { state with stream })
    (unknown : state.table.lookup? state.stream.current.text = none →
      ∀ stream, state.stream.next = .ok stream →
        goal ⟨⟨state.stream.current.text, state.stream.current.line⟩,
            .detached state.stream.current.text⟩
          { state with
            stream
            diagnostics := state.diagnostics ++
              [⟨.undeclared, state.stream.current.line, state.stream.current.text⟩] }) :
    Parse.variableRead.Leads state goal := by
  refine bind (current fun _ => bind (get fun _ => ?_))
  split
  case h_1 cell found =>
    exact bind (pure fun _ => bind (advance fun stream next _ => pure (known cell found stream next)))
  case h_2 missed =>
    exact bind (report fun _ => bind (pure fun _ => bind
      (advance fun stream next _ => pure (unknown missed stream next))))

/-- A dropped mistake is a reported one, and is dropped where a statement ends. -/
theorem dropMistake {parse : Parse (Option Statement)}
    {goal : Option Statement → ParseState → Prop} (leads : parse.Leads state goal)
    (dropped : ∀ after, state.Recovers after → goal none after) :
    (Parse.dropMistake parse).Leads state goal := by
  cases result : (parse.on state).result with
  | ok value =>
      constructor <;> simp only [Parse.dropMistake, on_tryCatch, result]
      · exact leads.steps
      · intro mistake same
        cases same
      · intro mistake same
        cases same
      · intro other same
        cases same
        exact leads.reached value result
  | error unwinding =>
      cases unwinding with
      | mistake found =>
          have written := leads.reported found result
          have settled := leads.settled found result
          constructor <;> simp only [Parse.dropMistake, on_tryCatch, result, on_pure]
          · exact leads.steps
          · intro mistake same
            cases same
          · intro mistake same
            cases same
          · intro other same
            cases same
            exact dropped _ ⟨leads.steps, written, settled⟩
      | fault fault =>
          constructor <;> simp only [Parse.dropMistake, on_tryCatch, result, on_throw]
          · exact leads.steps
          · intro mistake same
            cases same
          · intro mistake same
            cases same
          · intro other same
            cases same

end Parse.Leads

end MiniPascal
