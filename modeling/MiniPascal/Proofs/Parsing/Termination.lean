/-
This file shows that parsing ends on every text, with a program and without a mistake that escapes,
and that it ends by itself: no loop and no recursion is cut short.
-/

import MiniPascal.Proofs.Parsing.Bounds
import MiniPascal.Proofs.Scanning.Literals

namespace MiniPascal

open Parse

/-- A part of the parser passes a token, unless the tokens end with a fault. -/
def Parse.PassesAt {α : Type} (parse : Parse α) (state : ParseState) : Prop :=
  (parse.on state).state.left < state.left ∨ ∃ fault, state.stream.ending = .fault fault

/-- From a state the parser goes down to fewer tokens: every round of a loop that does not stop passes
one, and a factor or a statement depends on the factors and statements inside it only where less is
left. -/
structure ParseState.Descends (state : ParseState) : Prop where
  skips : ∀ skipped : Kind → Bool, skipped .endOfText = false →
    skipped state.stream.current.kind = true → (accept skipped).PassesAt state
  operators : ∀ operator? : Kind → Option BinaryOperator, operator? .endOfText = none →
    operator? state.stream.current.kind ≠ none → mark.PassesAt state
  rounds : ∀ terminal count, endsList terminal state.stream.current.kind = false →
    (roundOf (statementWithin count)).PassesAt state
  factors : ∀ factor other : Parse Expression, factor.Proceeds →
    (∀ place, place.left < state.left → factor.on place = other.on place) →
      ∀ count, state.left ≤ count + 1 →
        (factorOf factor count).on state = (factorOf other count).on state
  statements : ∀ statement other : Parse (Option Statement), statement.Proceeds →
    (∀ terminal, (roundOf statement).Passes (!endsList terminal ·)) →
      (∀ place, place.left < state.left → statement.on place = other.on place) →
        ∀ count, state.left ≤ count + 1 →
          (statementOf statement count).on state = (statementOf other count).on state

theorem Parse.Passes.at {α : Type} {parse : Parse α} {wanted : Kind → Bool}
    (passes : parse.Passes wanted) {state : ParseState}
    (goesOn : wanted state.stream.current.kind = true) : parse.PassesAt state := by
  by_cases faulty : ∃ fault, (parse.on state).result = .error (.fault fault)
  · obtain ⟨fault, result⟩ := faulty
    exact .inr ⟨fault, passes.fault state fault result⟩
  · exact .inl (passes.less state goesOn fun fault result => faulty ⟨fault, result⟩)

theorem ParseState.descends (state : ParseState) : state.Descends where
  skips skipped ended goesOn := (Passes.accept ended).at goesOn
  operators operator? ended goesOn := by
    refine Passes.mark.at ?_
    rw [Bool.not_eq_true']
    refine Bool.eq_false_iff.mpr fun atEnd => goesOn ?_
    rw [Kind.isEndOfText_iff.mp atEnd, ended]
  rounds terminal count goesOn := (round_passes terminal count).at (by rw [goesOn]; rfl)
  factors _ _ proceeds below _ enough := on_factorOf_descends proceeds below enough
  statements _ _ proceeds passes below _ enough :=
    on_statementOf_descends proceeds passes below enough

/-- Two bounds are as good as each other before a state: on the rounds of every loop, and on the depth
of the recursion. -/
structure ParseState.SameWithin (state : ParseState) (count other : Nat) : Prop where
  skips : ∀ skipped : Kind → Bool, skipped .endOfText = false →
    (skipWhile skipped count).on state = (skipWhile skipped other).on state
  chains : ∀ operator? : Kind → Option BinaryOperator, operator? .endOfText = none → ∀ left,
    (chain operator? (factorWithin count) count left).on state =
      (chain operator? (factorWithin other) other left).on state
  factors : (factorWithin count).on state = (factorWithin other).on state
  expressions : (expressionWithin count).on state = (expressionWithin other).on state
  statements : (statementWithin count).on state = (statementWithin other).on state
  lists : ∀ terminal, (statementsWithin (statementWithin count) terminal count).on state =
    (statementsWithin (statementWithin other) terminal other).on state

/-- Bounds that reach the end of the text cut nothing. -/
theorem ParseState.sameWithin {state : ParseState} {count other : Nat} (enough : state.left ≤ count)
    (alsoEnough : state.left ≤ other) : state.SameWithin count other := by
  have statements : StatementsAgree state.left (statementWithin count) (statementWithin other) :=
    ⟨statementWithin_agree enough alsoEnough, (statementWithin_passes count).toProceeds,
      fun terminal => round_passes terminal count⟩
  have here := Nat.le_refl state.left
  exact {
    skips := fun skipped ended => skipWhile_agree ended enough alsoEnough state here
    chains := fun operator? ended left => chain_agree ended
      (factorWithin_agree enough alsoEnough) (factorWithin_proceeds count) enough alsoEnough left
      state here
    factors := factorWithin_agree enough alsoEnough state here
    expressions := expressionWithin_agree enough alsoEnough state here
    statements := statements.agree state here
    lists := fun terminal => statements.lists terminal enough alsoEnough state here }

/-- The parser finds a program in every text, unless it meets an integer literal with too many
digits. -/
theorem parseProgram_total (text : String) (table : SymbolTable) :
    (∃ program, (parseProgram text table).result = .ok program) ∨
      ¬(Scanner.ofText text).IntegersFit ∧ ∃ digits, integerDigitLimit < digits ∧
        (parseProgram text table).result = .error (.fault (.integerTooLong digits)) := by
  obtain found | ⟨fault, ends, result⟩ := program_total ⟨.ofText text, [], table⟩
  · exact .inl found
  · obtain ⟨long, digits, more, rfl⟩ := Scanner.fault_of_scan ends
    exact .inr ⟨long, digits, more, result⟩

/-- Every text whose integer literals fit is parsed to a program, over every table; no mistake
escapes, and the tokens end without a fault. The loops and the recursion of the parser go down to
fewer tokens. And no bound on the rounds of a loop or on the depth of the recursion matters once it
reaches the end of the text, as all bounds of the parser do: the loops and the recursion end by
themselves. -/
theorem parsing_ends (text : String) (fits : (Scanner.ofText text).IntegersFit)
    (table : SymbolTable) :
    (∃ program, (parseProgram text table).result = .ok program) ∧
    (∀ fault, (Stream.ofText text).ending ≠ .fault fault) ∧
    ∀ state : ParseState, state.Descends ∧ state.left ≤ state.stream.size ∧
      ∀ count other, state.left ≤ count → state.left ≤ other → state.SameWithin count other := by
  refine ⟨?_, fun fault ends => ?_, fun state => ⟨state.descends, state.left_le_size, ?_⟩⟩
  · exact (parseProgram_total text table).resolve_right fun long => long.1 fits
  · exact (Scanner.fault_of_scan ends).1 fits
  · exact fun count other => ParseState.sameWithin

/-- A text in which the closing words do not match the opening ones. -/
theorem parsing_ends_mismatched :
    (Scanner.ofText "program p; begin repeat end; until until begin end (").IntegersFit ∧
      ∃ program, (parseProgram "program p; begin repeat end; until until begin end ("
        .empty).result = .ok program := by
  have fits : (Scanner.ofText
      "program p; begin repeat end; until until begin end (").IntegersFit :=
    .of_length (by decide)
  exact ⟨fits, (parsing_ends _ fits .empty).1⟩

end MiniPascal
