/-
This file shows that the parser of expressions, as long as it reports nothing, finds exactly the
readings.
-/

import MiniPascal.Proofs.Parsing.Standing
import MiniPascal.Proofs.Parsing.Traced

namespace MiniPascal

open ParseState Parse

section Sound

variable {frame : Frame} {table : SymbolTable} {tokens : List Token} {state after : ParseState}

theorem VariableTrace.reading {source : Variable} (trace : VariableTrace state source after)
    (kind : state.stream.current.kind = .identifier) (quiet : after.errors = state.errors)
    (stands : state = frame.before table tokens) :
    ∃ token rest cell, tokens = token :: rest ∧ token.kind = .identifier ∧
      table.lookup? token.text = some cell ∧ source = ⟨token.mark, cell.binding⟩ ∧
      after = frame.before table rest := by
  subst stands
  cases trace with
  | known known next =>
      obtain ⟨token, rest, rfl, named, rfl⟩ := Frame.passes_kind kind next rfl
      exact ⟨token, rest, _, rfl, named, known, rfl, rfl⟩
  | unknown => exact absurd quiet (by simp [ParseState.errors])

/-- What is found without a report is read. -/
theorem ExpressionTrace.reading {level : Level} {found : Expression}
    (trace : ExpressionTrace level state found after) (quiet : after.errors = state.errors)
    (stands : state = frame.before table tokens) :
    ∃ rest, ExpressionReading table level tokens found rest ∧ after = frame.before table rest := by
  induction trace generalizing tokens with
  | reference kind read =>
      obtain ⟨token, rest, cell, rfl, named, known, rfl, same⟩ := read.reading kind quiet stands
      exact ⟨rest, .reference named known, same⟩
  | integer kind next =>
      subst stands
      obtain ⟨token, rest, rfl, kind, rfl⟩ := Frame.passes_kind kind next rfl
      exact ⟨rest, .integer kind, rfl⟩
  | real kind next =>
      subst stands
      obtain ⟨token, rest, rfl, kind, rfl⟩ := Frame.passes_kind kind next rfl
      exact ⟨rest, .real kind, rfl⟩
  | group opens next _ closes behind inside =>
      subst stands
      obtain ⟨opening, rest, rfl, opens, rfl⟩ := Frame.passes_kind opens next rfl
      obtain ⟨middle, reading, rfl⟩ := inside quiet rfl
      obtain ⟨closing, last, rfl, closes, rfl⟩ := Frame.passes_kind closes behind rfl
      exact ⟨last, .group opens reading closes, rfl⟩
  | negation kind next _ inside =>
      subst stands
      obtain ⟨token, rest, rfl, kind, rfl⟩ := Frame.passes_kind kind next rfl
      obtain ⟨last, reading, same⟩ := inside quiet rfl
      exact ⟨last, .negation kind reading, same⟩
  | chainEnd stops =>
      subst stands
      exact ⟨tokens, .chainEnd (by simpa using stops), rfl⟩
  | chainNext goesOn next operandTrace othersTrace operand others =>
      subst stands
      rw [Frame.before_kind] at goesOn
      obtain ⟨sign, rest, rfl, rfl, _⟩ := Frame.passes next (operator?_inside goesOn)
      obtain ⟨quietOperand, quietOthers⟩ := operandTrace.steps.quiet_parts othersTrace.steps quiet
      obtain ⟨middle, operandReading, rfl⟩ := operand quietOperand rfl
      obtain ⟨last, othersReading, same⟩ := others quietOthers rfl
      exact ⟨last, .chainNext goesOn operandReading othersReading, same⟩
  | term factorTrace othersTrace factor others =>
      obtain ⟨quietFactor, quietOthers⟩ := factorTrace.steps.quiet_parts othersTrace.steps quiet
      obtain ⟨middle, factorReading, rfl⟩ := factor quietFactor stands
      obtain ⟨last, othersReading, same⟩ := others quietOthers rfl
      exact ⟨last, .term factorReading othersReading, same⟩
  | unsigned noSign termTrace othersTrace term others =>
      obtain ⟨quietTerm, quietOthers⟩ := termTrace.steps.quiet_parts othersTrace.steps quiet
      obtain ⟨middle, termReading, rfl⟩ := term quietTerm stands
      obtain ⟨last, othersReading, same⟩ := others quietOthers rfl
      exact ⟨last, .unsigned (by simpa [stands] using noSign) termReading othersReading, same⟩
  | signed isSign next termTrace othersTrace term others =>
      subst stands
      rw [Frame.before_kind] at isSign
      obtain ⟨sign, rest, rfl, rfl, _⟩ := Frame.passes next (sign?_inside isSign)
      obtain ⟨quietTerm, quietOthers⟩ := termTrace.steps.quiet_parts othersTrace.steps quiet
      obtain ⟨middle, termReading, rfl⟩ := term quietTerm rfl
      obtain ⟨last, othersReading, same⟩ := others quietOthers rfl
      exact ⟨last, .signed isSign termReading othersReading, same⟩
  | alone _ stops simple =>
      obtain ⟨rest, simpleReading, rfl⟩ := simple quiet stands
      exact ⟨rest, .alone simpleReading (by simpa using stops), rfl⟩
  | compared firstTrace compares next secondTrace first second =>
      obtain ⟨quietFirst, quietSecond⟩ :=
        firstTrace.steps.quiet_parts (secondTrace.steps.head (.pass next)) quiet
      obtain ⟨middle, firstReading, rfl⟩ := first quietFirst stands
      rw [Frame.before_kind] at compares
      obtain ⟨sign, rest, rfl, rfl, _⟩ := Frame.passes next (relational?_inside compares)
      obtain ⟨last, secondReading, same⟩ := second quietSecond rfl
      exact ⟨last, .compared firstReading compares secondReading, same⟩

end Sound

namespace Parse

/-- A parser follows every reading of a level over at most `bound` tokens. -/
def FollowsExpression (frame : Frame) (level : Level) (bound : Nat)
    (parse : Parse Expression) : Prop :=
  ∀ ⦃table tokens found rest⦄, ExpressionReading table level tokens found rest →
    tokens.length ≤ bound → frame.Allows rest →
      parse.on (frame.before table tokens) = ⟨.ok found, frame.before table rest⟩

section Complete

variable {frame : Frame} {factor operand : Parse Expression} {bound : Nat}

theorem allows_of_reading {table : SymbolTable} {level : Level} {tokens rest : List Token}
    {found : Expression} (reading : ExpressionReading table level tokens found rest)
    (allows : frame.Allows rest) : frame.Allows tokens := allows.of_suffix reading.suffix

theorem chain_follows (rank : Rank) (operandFollows : FollowsExpression frame rank.operand bound operand)
    {count : Nat} (within : count ≤ bound) (left : Expression) :
    FollowsExpression frame (.chain rank left) count (chain rank.operator? operand count left) := by
  intro table tokens found rest reading short allows
  induction count generalizing left tokens with
  | zero =>
      obtain rfl := List.length_eq_zero_iff.mp (Nat.le_zero.mp short)
      cases reading
      rfl
  | succ count inductionHypothesis =>
      rw [chain, on_bind_ok (on_current _)]
      cases reading with
      | chainEnd stops =>
          simp only [Frame.before_kind, stops]
          rfl
      | @chainNext _ operator _ right _ sign tokens middle _ goesOn operandReading others =>
          have allowsMiddle := allows_of_reading others allows
          have allowsTokens := allows_of_reading operandReading allowsMiddle
          have left := operandReading.suffix.length_le
          simp only [List.length_cons] at short
          simp only [Frame.before_kind, nextKind, goesOn]
          rw [on_bind_ok (mark_run allowsTokens),
            on_bind_ok (operandFollows operandReading (by omega) allowsMiddle)]
          exact inductionHypothesis (by omega) _ others (by omega)

theorem termOf_follows (factorFollows : FollowsExpression frame .factor bound factor) :
    FollowsExpression frame .term bound (termOf factor bound) := by
  intro table tokens found rest reading short allows
  cases reading with
  | term factorReading others =>
      have left := factorReading.suffix.length_le
      rw [termOf, on_bind_ok (factorFollows factorReading short (allows_of_reading others allows))]
      exact chain_follows .multiplying factorFollows (Nat.le_refl bound) _ others (by omega) allows

theorem simpleExpressionOf_follows (factorFollows : FollowsExpression frame .factor bound factor) :
    FollowsExpression frame .simple bound (simpleExpressionOf factor bound) := by
  have termFollows := termOf_follows factorFollows
  intro table tokens found rest reading short allows
  rw [simpleExpressionOf, on_bind_ok (on_current _)]
  cases reading with
  | unsigned noSign termReading others =>
      have left := termReading.suffix.length_le
      simp only [Frame.before_kind, noSign]
      rw [on_bind_ok (termFollows termReading short (allows_of_reading others allows))]
      exact chain_follows .adding termFollows (Nat.le_refl bound) _ others (by omega) allows
  | signed isSign termReading others =>
      have allowsMiddle := allows_of_reading others allows
      have left := termReading.suffix.length_le
      simp only [List.length_cons] at short
      simp only [Frame.before_kind, nextKind, isSign]
      rw [on_bind_ok (mark_run (allows_of_reading termReading allowsMiddle)),
        on_bind_ok (termFollows termReading (by omega) allowsMiddle), on_bind_ok (on_pure _ _)]
      exact chain_follows .adding termFollows (Nat.le_refl bound) _ others (by omega) allows

theorem expressionOf_follows (factorFollows : FollowsExpression frame .factor bound factor) :
    FollowsExpression frame .whole bound (expressionOf factor bound) := by
  have simpleFollows := simpleExpressionOf_follows factorFollows
  intro table tokens found rest reading short allows
  rw [expressionOf]
  cases reading with
  | alone simpleReading stops =>
      rw [on_bind_ok (simpleFollows simpleReading short allows), on_bind_ok (on_current _)]
      simp only [Frame.before_kind, stops]
      rfl
  | compared firstReading compares secondReading =>
      have left := firstReading.suffix.length_le
      simp only [List.length_cons] at left
      rw [on_bind_ok (simpleFollows firstReading short Frame.allows_cons),
        on_bind_ok (on_current _)]
      simp only [Frame.before_kind, nextKind, compares]
      rw [on_bind_ok (mark_run (allows_of_reading secondReading allows)),
        on_bind_ok (simpleFollows secondReading (by omega) allows)]
      rfl

theorem factorWithin_follows (frame : Frame) (bound : Nat) :
    FollowsExpression frame .factor bound (factorWithin bound) := by
  induction bound with
  | zero =>
      intro table tokens found rest reading short
      obtain rfl := List.length_eq_zero_iff.mp (Nat.le_zero.mp short)
      cases reading
  | succ bound inductionHypothesis =>
      have insideFollows := expressionOf_follows inductionHypothesis
      intro table tokens found rest reading short allows
      rw [factorWithin, on_bind_ok (on_current _)]
      cases reading with
      | reference kind known =>
          simp only [Frame.before_kind, nextKind, kind]
          rw [on_bind_ok (variableRead_run allows known)]
          rfl
      | integer kind | real kind =>
          simp only [Frame.before_kind, nextKind, kind]
          rw [on_bind_ok (mark_run allows)]
          rfl
      | group opens inside closes =>
          simp only [List.length_cons] at short
          simp only [Frame.before_kind, nextKind, opens]
          rw [on_bind_ok (advance_run (allows_of_reading inside Frame.allows_cons)),
            on_bind_ok (insideFollows inside (by omega) Frame.allows_cons),
            on_bind_ok (require_run allows (Kind.isSymbol_iff.mpr closes))]
          rfl
      | negation kind behind =>
          simp only [List.length_cons] at short
          simp only [Frame.before_kind, nextKind, kind]
          rw [on_bind_ok (mark_run (allows_of_reading behind allows)),
            on_bind_ok (insideFollows behind (by omega) allows)]
          rfl

theorem expressionWithin_follows (frame : Frame) (bound : Nat) :
    FollowsExpression frame .whole bound (expressionWithin bound) :=
  expressionOf_follows (factorWithin_follows frame bound)

end Complete

end Parse

end MiniPascal
