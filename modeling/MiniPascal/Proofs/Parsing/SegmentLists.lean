/-
This file shows that errors stay inside their segment of a list of statements: the list reaches the
token behind every segment, and what a segment gives depends only on itself and this token.
-/

import MiniPascal.Proofs.Parsing.SegmentRuns
import MiniPascal.Proofs.Parsing.StatementFollowing
import Mathlib.Data.List.TakeWhile

namespace MiniPascal

open Parse ParseState

/-- A list of statements is closed by these words. -/
def Keyword.closesList : Keyword → Bool
  | .endWord => true
  | .untilWord => true
  | _ => false

/-- The parser of a list of statements up to a terminal. Compound statements and REPEAT loops of every
depth use it, with a count that reaches the end of the text. -/
def Parse.listWithin (terminal : Keyword) (count : Nat) : Parse (List Statement) :=
  statementsWithin (statementWithin count) (·.isKeyword terminal) count

/-- Statements that have been found come before the others. -/
def Parsed.prepend (found : List Statement) (parsed : Parsed (List Statement)) :
    Parsed (List Statement) :=
  ⟨parsed.result.map (found ++ ·), parsed.state⟩

@[simp] theorem Parsed.prepend_nil (parsed : Parsed (List Statement)) :
    parsed.prepend [] = parsed := by
  obtain ⟨⟨⟩ | ⟨⟩, state⟩ := parsed <;> rfl

section Lists

variable {terminal : Keyword} {bound rounds count : Nat} {state middle after : ParseState}
  {left : List Token}

theorem endsList_eq (closes : terminal.closesList = true) (kind : Kind) :
    endsList (·.isKeyword terminal) kind = (endsStatement kind && !kind.isSymbol .semicolon) := by
  cases terminal with
  | endWord | untilWord =>
      cases kind with
      | symbol mark => cases mark <;> rfl
      | keyword word => cases word <;> rfl
      | _ => rfl
  | _ => cases closes

/-- All bounds that reach the end of the text give the same list. -/
theorem on_statementsWithin_eq (enough : state.left ≤ bound) (enoughRounds : state.left ≤ rounds)
    (enoughCount : state.left ≤ count) :
    (statementsWithin (statementWithin bound) (·.isKeyword terminal) rounds).on state =
      (listWithin terminal count).on state := by
  have statements : StatementsAgree state.left (statementWithin bound) (statementWithin count) :=
    ⟨statementWithin_agree enough enoughCount, (statementWithin_passes bound).toProceeds,
      fun terminal => round_passes terminal bound⟩
  exact statements.lists _ enoughRounds enoughCount state (Nat.le_refl _)

/-- A list with a statement goes on behind it. -/
theorem on_statementsWithin_round {found : Option Statement}
    (goesOn : endsList (·.isKeyword terminal) state.stream.current.kind = false)
    (statement : (statementWithin bound).on state = ⟨.ok found, middle⟩) :
    (statementsWithin (statementWithin bound) (·.isKeyword terminal) (rounds + 1)).on state =
      ((separator >>= fun _ =>
        statementsWithin (statementWithin bound) (·.isKeyword terminal) rounds).on middle).prepend
          found.toList := by
  rw [statementsWithin, on_current_bind, goesOn, if_neg Bool.false_ne_true, on_bind_ok statement,
    ← bind_assoc, on_bind]
  cases result : ((separator >>= fun _ =>
    statementsWithin (statementWithin bound) (·.isKeyword terminal) rounds).on middle).result with
  | ok others => simp [Parsed.prepend, result, Except.map]
  | error unwinding => simp [Parsed.prepend, result, Except.map]

/-- Before a semicolon a statement is empty. -/
theorem on_statementWithin_empty (found : state.stream.current.kind = .symbol .semicolon) :
    (statementWithin (bound + 1)).on state = ⟨.ok none, state⟩ := by
  rw [statementWithin, dropMistake, on_tryCatch, statementOf, on_current_bind, found]
  rfl

/-- No statement starts with a token of another kind. -/
theorem on_statementOf_unexpected {statement : Parse (Option Statement)}
    (noStart : startsStatement state.stream.current.kind = false)
    (noSemicolon : state.stream.current.kind.isSymbol .semicolon = false) :
    (statementOf statement count).on state =
      (fail .unexpectedToken : Parse (Option Statement)).on state := by
  rw [statementOf, on_current_bind]
  cases kind : state.stream.current.kind with
  | symbol mark =>
      rw [kind] at noSemicolon
      cases mark <;> first | rfl | cases noSemicolon
  | keyword word =>
      rw [kind] at noStart
      cases word <;> first | rfl | cases noStart
  | identifier =>
      rw [kind] at noStart
      cases noStart
  | _ => rfl

/-- A separator passes nothing before a token that neither separates statements nor starts one. -/
theorem on_separator_absent (noStart : startsStatement state.stream.current.kind = false)
    (noSemicolon : state.stream.current.kind.isSymbol .semicolon = false) :
    separator.on state = ⟨.ok (), state⟩ := by
  rw [separator, on_current_bind]
  dsimp only
  rw [noSemicolon, noStart]
  rfl

end Lists

/-- What is left of a segment behind a statement is reported at its first token. -/
def leftoverErrors : List Token → List Diagnostic
  | [] => []
  | token :: _ =>
      [⟨.mistake (if startsStatement token.kind then .missingSemicolon else .unexpectedToken),
        token.line, token.text⟩]

namespace Border

variable {terminal : Keyword} {bound rounds count : Nat} {state middle after : ParseState}
  {tokens left : List Token}

theorem left_front_cons (border : Border) {token : Token} (inner : token.kind.isInner = true)
    (tokens : List Token) :
    border.rest.length < (border.front (token :: tokens)).left := by
  have inside : token.kind.isEndOfText = false := by
    cases ended : token.kind.isEndOfText with
    | false => rfl
    | true =>
        rw [Kind.isEndOfText_iff.mp ended] at inner
        cases inner
  simp only [front, Stream.left, Stream.before, List.cons_append, List.length_append, inside]
  simp only [Bool.false_eq_true, if_false]
  omega

theorem noStart_of_endsStatement {kind : Kind} (ends : endsStatement kind = true) :
    startsStatement kind = false := by
  cases kind with
  | symbol | endOfText => rfl
  | keyword word => cases word <;> first | rfl | cases ends
  | _ => cases ends

/-- Behind a statement that leaves nothing of its segment the list goes on at the border. -/
theorem on_border (border : Border) (closes : terminal.closesList = true)
    (stands : state.stream = border.front []) (enough : state.left ≤ bound + 1)
    (enoughRounds : state.left ≤ rounds) (enoughCount : state.left ≤ count) :
    (separator >>= fun _ =>
        statementsWithin (statementWithin (bound + 1)) (·.isKeyword terminal) rounds).on state =
      (listWithin terminal count).on state := by
  have ends : endsStatement state.stream.current.kind = true := by
    rw [stands]
    exact border.current_ends
  cases semicolon : state.stream.current.kind.isSymbol .semicolon with
  | true =>
      have goesOn : endsList (·.isKeyword terminal) state.stream.current.kind = false := by
        rw [endsList_eq closes, semicolon, Bool.not_true, Bool.and_false]
      have empty : (statementWithin (bound + 1)).on state = ⟨.ok none, state⟩ :=
        on_statementWithin_empty (Kind.isSymbol_iff.mp semicolon)
      have round := @on_statementsWithin_round _ _ rounds _ _ _ goesOn empty
      rw [Option.toList, Parsed.prepend_nil] at round
      rw [← round]
      exact on_statementsWithin_eq enough (Nat.le_succ_of_le enoughRounds) enoughCount
  | false =>
      rw [on_bind_ok (on_separator_absent (noStart_of_endsStatement ends) semicolon)]
      exact on_statementsWithin_eq enough enoughRounds enoughCount

/-- The start of another statement lacks a semicolon before it. -/
theorem on_separator_missing (border : Border)
    (inner : ∀ token ∈ tokens, token.kind.isInner = true)
    (stands : state.stream = border.front tokens)
    (starts : startsStatement state.stream.current.kind = true) :
    separator.on state = ⟨.ok (), border.recovered .missingSemicolon state⟩ := by
  rw [← border.on_recover inner stands, separator, on_current_bind]
  have noSemicolon : state.stream.current.kind.isSymbol .semicolon = false := by
    refine Bool.eq_false_iff.mpr fun semicolon => ?_
    rw [Kind.isSymbol_iff.mp semicolon] at starts
    cases starts
  dsimp only
  rw [noSemicolon, starts]
  rfl

/-- Before any other token a statement is a mistake. -/
theorem on_statementWithin_unexpected (border : Border)
    (inner : ∀ token ∈ tokens, token.kind.isInner = true)
    (stands : state.stream = border.front tokens)
    (noStart : startsStatement state.stream.current.kind = false)
    (noSemicolon : state.stream.current.kind.isSymbol .semicolon = false) :
    (statementWithin (bound + 1)).on state =
      ⟨.ok none, border.recovered .unexpectedToken state⟩ := by
  rw [statementWithin, dropMistake, on_tryCatch, on_statementOf_unexpected noStart noSemicolon,
    fail, on_bind, border.on_recover inner stands]
  rfl

/-- From a state the rest of a segment is passed: the list goes on at the border, with the errors
that have been added on the way. -/
structure Passes (border : Border) (state after : ParseState) (errors : List Diagnostic) :
    Prop where
  steps : Steps state after
  stands : after.stream = border.front []
  added : after.mistakes = state.mistakes ++ errors

theorem Passes.recovered (border : Border)
    (inner : ∀ token ∈ tokens, token.kind.isInner = true)
    (stands : state.stream = border.front tokens) (mistake : Mistake) :
    border.Passes state (border.recovered mistake state)
      [⟨.mistake mistake, state.stream.current.line, state.stream.current.text⟩] where
  steps := by
    have steps := (Proceeds.recover mistake).steps state
    rwa [border.on_recover inner stands] at steps
  stands := rfl
  added := border.mistakes_recovered mistake state

/-- What a statement leaves of its segment is passed up to the border. -/
theorem on_leftover (border : Border) (inner : ∀ token ∈ left, token.kind.isInner = true)
    (stands : middle.stream = border.front left) :
    ∃ after, border.Passes middle after (leftoverErrors left) ∧
      ∀ terminal bound rounds count, terminal.closesList = true → middle.left ≤ bound + 1 →
        middle.left ≤ rounds → middle.left ≤ count →
          (separator >>= fun _ =>
              statementsWithin (statementWithin (bound + 1)) (·.isKeyword terminal) rounds).on
                middle = (listWithin terminal count).on after := by
  cases left with
  | nil =>
      refine ⟨middle, ⟨.refl, stands, (List.append_nil _).symm⟩, ?_⟩
      intro terminal bound rounds count closes enough enoughRounds enoughCount
      exact border.on_border closes stands enough enoughRounds enoughCount
  | cons token left =>
      have current : middle.stream.current = token := by
        rw [stands]
        rfl
      have innerToken := inner token List.mem_cons_self
      have inside := Kind.endsStatement_of_isInner innerToken
      have shorter : (border.front []).left < middle.left := by
        rw [ParseState.left, stands]
        exact Nat.lt_of_le_of_lt (Stream.left_before_le _ _) (border.left_front_cons innerToken left)
      rw [leftoverErrors, ← current]
      rw [← current] at inside
      cases starts : startsStatement middle.stream.current.kind with
      | true =>
          refine ⟨_, .recovered border inner stands .missingSemicolon, ?_⟩
          intro terminal bound rounds count closes enough enoughRounds enoughCount
          rw [on_bind_ok (border.on_separator_missing inner stands starts)]
          have less : (border.recovered .missingSemicolon middle).left ≤ middle.left :=
            Nat.le_of_lt shorter
          exact on_statementsWithin_eq (Nat.le_trans less enough) (Nat.le_trans less enoughRounds)
            (Nat.le_trans less enoughCount)
      | false =>
          refine ⟨_, .recovered border inner stands .unexpectedToken, ?_⟩
          intro terminal bound rounds count closes enough enoughRounds enoughCount
          obtain ⟨rounds, rfl⟩ : ∃ less, rounds = less + 1 :=
            Nat.exists_eq_succ_of_ne_zero (by omega)
          have goesOn : endsList (·.isKeyword terminal) middle.stream.current.kind = false := by
            rw [endsList_eq closes, inside, Bool.false_and]
          have noSemicolon : middle.stream.current.kind.isSymbol .semicolon = false := by
            simp only [endsStatement, Bool.or_eq_false_iff] at inside
            exact inside.1.1.1
          have empty : (statementWithin (bound + 1)).on middle = ⟨.ok none, _⟩ :=
            border.on_statementWithin_unexpected inner stands starts noSemicolon
          rw [on_bind_ok (on_separator_absent starts noSemicolon),
            on_statementsWithin_round goesOn empty, Option.toList, Parsed.prepend_nil]
          have less : (border.recovered .unexpectedToken middle).left < middle.left := shorter
          exact border.on_border closes rfl (by omega) (by omega) (by omega)

/-- From a state before a segment the list adopts at most one statement, reports at most one mistake
and goes on at the border. -/
structure Reaches (border : Border) (state : ParseState) (found : Option Statement)
    (errors : List Diagnostic) (after : ParseState) : Prop extends
    border.Passes state after errors where
  single : errors.length ≤ 1
  goesOn : ∀ terminal count, terminal.closesList = true → state.left ≤ count →
    (listWithin terminal count).on state = ((listWithin terminal count).on after).prepend found.toList

theorem Reaches.nothing (border : Border) (stands : state.stream = border.front []) :
    border.Reaches state none [] state where
  steps := .refl
  stands := stands
  added := (List.append_nil _).symm
  single := Nat.zero_le _
  goesOn _ _ _ _ := (Parsed.prepend_nil _).symm

/-- A statement is adopted, and what it leaves is passed. -/
theorem Reaches.ofStatement (border : Border) {found : Option Statement}
    {errors : List Diagnostic} (inside : endsStatement state.stream.current.kind = false)
    (enough : state.left ≤ bound)
    (statement : (statementWithin (bound + 1)).on state = ⟨.ok found, middle⟩)
    (inner : ∀ token ∈ left, token.kind.isInner = true)
    (stands : middle.stream = border.front left)
    (added : middle.mistakes = state.mistakes ++ errors)
    (single : (errors ++ leftoverErrors left).length ≤ 1) :
    ∃ after, border.Reaches state found (errors ++ leftoverErrors left) after := by
  obtain ⟨after, passes, tail⟩ := border.on_leftover inner stands
  have steps := (statementWithin_passes (bound + 1)).steps state
  rw [statement] at steps
  have less : middle.left ≤ state.left := steps.left_le
  refine ⟨after, ⟨⟨steps.trans passes.steps, passes.stands, ?_⟩, single, ?_⟩⟩
  · rw [passes.added, added, List.append_assoc]
  · intro terminal count closes short
    have goesOn : endsList (·.isKeyword terminal) state.stream.current.kind = false := by
      rw [endsList_eq closes, inside, Bool.false_and]
    have round := @on_statementsWithin_round terminal (bound + 1) bound _ _ _ goesOn statement
    rw [tail terminal bound bound count closes (by omega) (by omega) (by omega)] at round
    rw [← round]
    exact (on_statementsWithin_eq (by omega) (by omega) short).symm

end Border

/-- From two states before the same segment the lists adopt the same statement and report the same
mistake, whatever comes behind the token at the border and whichever names are known. -/
theorem Borders.Beside.reaches {borders : Borders} {tokens : List Token} {state copy : ParseState}
    (beside : borders.Beside tokens state copy) :
    ∃ found twin errors after afterCopy, Option.Rel Statement.Alike found twin ∧
      borders.one.Reaches state found errors after ∧
        borders.other.Reaches copy twin errors afterCopy := by
  cases tokens with
  | nil =>
      exact ⟨none, none, [], state, copy, .none, .nothing _ beside.stands,
        .nothing _ beside.standsCopy⟩
  | cons token tokens =>
      have inside : endsStatement state.stream.current.kind = false := by
        rw [beside.stands]
        exact Kind.endsStatement_of_isInner (beside.inner token List.mem_cons_self)
      have insideCopy : endsStatement copy.stream.current.kind = false := by
        rw [beside.current, inside]
      let bound := max state.left copy.left
      have enough : state.left ≤ bound := Nat.le_max_left _ _
      have enoughCopy : copy.left ≤ bound := Nat.le_max_right _ _
      have outcome := Borders.Coincides.statementWithin (bound + 1) beside
      have contained := Contains.statementWithin (bound + 1) state
      unfold Borders.Runs at outcome
      generalize run : (Parse.statementWithin (bound + 1)).on state = parsed at outcome contained
      generalize runCopy : (Parse.statementWithin (bound + 1)).on copy = copied at outcome
      cases outcome with
      | @quiet found twin left middle middleCopy leaves related =>
          have single : ([] ++ leftoverErrors left).length ≤ 1 := by
            cases left <;> simp [leftoverErrors]
          obtain ⟨after, reached⟩ := Border.Reaches.ofStatement borders.one inside enough run
            leaves.beside.inner leaves.beside.stands leaves.added single
          obtain ⟨afterCopy, reachedCopy⟩ := Border.Reaches.ofStatement borders.other insideCopy
            enoughCopy runCopy leaves.beside.inner leaves.beside.standsCopy leaves.addedCopy single
          exact ⟨found, twin, _, after, afterCopy, related, reached, reachedCopy⟩
      | failed => exact absurd rfl (contained _)
      | @recovered found twin error middle middleCopy _ leaves related =>
          have single : ([error] ++ leftoverErrors []).length ≤ 1 := Nat.le_refl _
          obtain ⟨after, reached⟩ := Border.Reaches.ofStatement borders.one inside enough run
            leaves.beside.inner leaves.beside.stands leaves.added single
          obtain ⟨afterCopy, reachedCopy⟩ := Border.Reaches.ofStatement borders.other insideCopy
            enoughCopy runCopy leaves.beside.inner leaves.beside.standsCopy leaves.addedCopy single
          exact ⟨found, twin, _, after, afterCopy, related, reached, reachedCopy⟩

/-- Semicolons before a list of statements are passed. -/
theorem on_listWithin_semicolons {terminal : Keyword} {count : Nat} {state : ParseState}
    {ending : Ending} {tokens : List Token} (closes : terminal.closesList = true)
    (stands : state.stream = .before ending tokens)
    (clean : behindSemicolons tokens = [] → ending = .endOfText ending.line)
    (enough : state.left ≤ count) :
    (listWithin terminal count).on state =
      (listWithin terminal count).on
        { state with stream := .before ending (behindSemicolons tokens) } := by
  have kind : state.stream.current.kind = nextKind tokens := by
    rw [stands]
    cases tokens <;> rfl
  cases semicolon : (nextKind tokens).isSymbol .semicolon with
  | false =>
      rw [behindSemicolons_eq_self semicolon, ← stands]
  | true =>
      let frame : Frame := ⟨ending, state.diagnostics⟩
      have placed : state = frame.before state.table tokens :=
        congrArg (ParseState.mk · state.diagnostics state.table) stands
      have gap : separator.on state =
          ⟨.ok (), { state with stream := .before ending (behindSemicolons tokens) }⟩ := by
        rw [placed]
        exact separator_run (.inl semicolon) clean
      have steps := separator_proceeds.steps state
      rw [gap] at steps
      have less := Nat.le_trans steps.left_le enough
      have goesOn : endsList (·.isKeyword terminal) state.stream.current.kind = false := by
        rw [endsList_eq closes, kind, semicolon, Bool.not_true, Bool.and_false]
      have empty : (statementWithin (count + 1)).on state = ⟨.ok none, state⟩ := by
        refine on_statementWithin_empty ?_
        rw [kind, Kind.isSymbol_iff.mp semicolon]
      have round := @on_statementsWithin_round terminal (count + 1) count _ _ _ goesOn empty
      rw [Option.toList, Parsed.prepend_nil, on_bind_ok gap,
        on_statementsWithin_eq (Nat.le_succ_of_le less) less less] at round
      rw [← round]
      exact (on_statementsWithin_eq (Nat.le_succ_of_le enough) (Nat.le_succ_of_le enough)
        enough).symm

/-- The list ends at a border without a semicolon. -/
theorem Border.on_closed (border : Border) {terminal : Keyword} {count : Nat} {state : ParseState}
    (closes : terminal.closesList = true) (stands : state.stream = border.front [])
    (closed : (nextKind border.rest).isSymbol .semicolon = false) :
    (listWithin terminal count).on state = ⟨.ok [], state⟩ := by
  refine on_statementsWithin_ends ?_ count
  have kind : (border.front []).current.kind = nextKind border.rest := by
    rw [front, List.nil_append]
    cases border.rest <;> rfl
  rw [endsList_eq closes, stands, border.current_ends, kind, closed]
  rfl

/-- All semicolons are passed before a border without one, so that something is left behind them. -/
theorem Border.clean_behind (border : Border)
    (closed : (nextKind border.rest).isSymbol .semicolon = false) {tokens : List Token}
    (none : behindSemicolons (tokens ++ border.rest) = []) :
    border.ending = .endOfText border.ending.line := by
  refine border.clean ?_
  cases same : border.rest with
  | nil => rfl
  | cons token rest =>
      rw [same] at closed none
      have semicolon := List.dropWhile_eq_nil_iff.mp none token (by simp)
      rw [nextKind, semicolon] at closed
      cases closed

/-- A semicolon is passed by a step. -/
theorem Border.steps_semicolon (border : Border) {semicolon : Token} (tokens : List Token)
    {state : ParseState}
    (stands : state.stream = .before border.ending (semicolon :: (tokens ++ border.rest))) :
    Steps state { state with stream := border.front tokens } := by
  have steps := Proceeds.advance.steps state
  have next : state.stream.next = .ok (border.front tokens) := by
    rw [stands]
    exact border.next semicolon tokens
  rwa [on_advance, next] at steps

/-- The list goes on behind a semicolon. -/
theorem Border.on_semicolon (border : Border) {terminal : Keyword} {count : Nat}
    {semicolon : Token} {tokens : List Token} {state : ParseState}
    (closes : terminal.closesList = true)
    (closed : (nextKind border.rest).isSymbol .semicolon = false)
    (kind : semicolon.kind = .symbol .semicolon)
    (stands : state.stream = .before border.ending (semicolon :: (tokens ++ border.rest)))
    (enough : state.left ≤ count) :
    (listWithin terminal count).on state =
      (listWithin terminal count).on { state with stream := border.front tokens } := by
  have dropped : behindSemicolons (semicolon :: (tokens ++ border.rest)) =
      behindSemicolons (tokens ++ border.rest) := behindSemicolons_cons (Kind.isSymbol_iff.mpr kind)
  have less := Nat.le_trans (border.steps_semicolon tokens stands).left_le enough
  rw [on_listWithin_semicolons closes stands _ enough, dropped]
  · exact (on_listWithin_semicolons closes rfl (border.clean_behind closed) less).symm
  · rw [dropped]
    exact border.clean_behind closed

/-- The tokens between two semicolons, well-formed or not. -/
structure Segment where
  tokens : List Token
  inner : ∀ token ∈ tokens, token.kind.isInner = true

/-- What a segment gives: its nodes without the bindings of variables, and its syntax errors. -/
structure Contribution where
  nodes : List Tree
  errors : List Diagnostic

/-- A border without anything behind its first token. -/
def Border.alone (border : Border) : Border where
  ending := .endOfText border.ending.line
  rest := border.rest.take 1
  ends := by
    have ends := border.ends
    cases same : border.rest <;> rw [same] at ends <;> exact ends
  clean _ := rfl

/-- Behind the token of a border alone there is nothing. -/
theorem Border.on_alone (border : Border) {state : ParseState} {count : Nat}
    (stands : state.stream = border.alone.front []) (enough : state.left ≤ count) :
    ∃ after, (listWithin .endWord count).on state = ⟨.ok [], after⟩ ∧
      after.mistakes = state.mistakes := by
  cases closed : (nextKind border.alone.rest).isSymbol .semicolon with
  | false => exact ⟨state, border.alone.on_closed rfl stands closed, rfl⟩
  | true =>
      obtain ⟨ending, rest, ends, clean⟩ := border
      cases rest with
      | nil => cases closed
      | cons token rest =>
          have standsBefore : state.stream = .before (.endOfText ending.line) [token] := stands
          have semicolon : token.kind.isSymbol .semicolon = true := closed
          rw [on_listWithin_semicolons rfl standsBefore (fun _ => rfl) enough,
            behindSemicolons_cons semicolon]
          exact ⟨_, on_statementsWithin_ends rfl count, rfl⟩

/-- What a segment gives when it stands alone before the token at a border. -/
def Segment.contribution (segment : Segment) (border : Border) : Contribution :=
  let parsed := (listWithin .endWord (segment.tokens.length + 1)).on
    ⟨border.alone.front segment.tokens, [], .empty⟩
  ⟨(parsed.result.toOption.getD []).map (·.toTree.bare), parsed.state.mistakes⟩

/-- The list reaches the border behind a segment, with what the segment gives alone. -/
theorem Segment.reaches (segment : Segment) (border : Border) {state : ParseState}
    (stands : state.stream = border.front segment.tokens) :
    ∃ found errors after, border.Reaches state found errors after ∧
      segment.contribution border = ⟨found.toList.map (·.toTree.bare), errors⟩ := by
  have same : (border.front []).current = (border.alone.front []).current := by
    simp only [Border.front, Border.alone, List.nil_append]
    cases border.rest <;> rfl
  let copy : ParseState := ⟨border.alone.front segment.tokens, [], .empty⟩
  have beside : (Borders.mk border border.alone same).Beside segment.tokens state copy :=
    ⟨segment.inner, stands, rfl⟩
  obtain ⟨found, twin, errors, after, afterCopy, related, reached, reachedCopy⟩ := beside.reaches
  have enough : copy.left ≤ segment.tokens.length + 1 := by
    refine Nat.le_trans (Stream.left_before_le _ _) ?_
    rw [List.length_append]
    exact Nat.add_le_add_left (List.length_take_le 1 border.rest) _
  obtain ⟨last, ended, kept⟩ := border.on_alone reachedCopy.stands
    (Nat.le_trans reachedCopy.steps.left_le enough)
  refine ⟨found, errors, after, reached, ?_⟩
  have run := reachedCopy.goesOn .endWord _ rfl enough
  have nodes : twin.toList.map (·.toTree.bare) = found.toList.map (·.toTree.bare) := by
    cases related with
    | none => rfl
    | some alike => exact congrArg (· :: []) alike
  have errorsOnly : last.mistakes = errors := by
    rw [kept, reachedCopy.added]
    rfl
  rw [ended] at run
  rw [contribution, run, ← nodes, ← errorsOnly]
  simp [Parsed.prepend, Except.map, Except.toOption]

/-- From a state the list is parsed up to the border: its nodes and its syntax errors are those of the
contributions, in this order. -/
def Border.Gives (border : Border) (state : ParseState) (given : List Contribution) : Prop :=
  ∃ nodes after, border.Passes state after (given.flatMap (·.errors)) ∧
    nodes.map (·.toTree.bare) = given.flatMap (·.nodes) ∧
    ∀ terminal count, terminal.closesList = true → state.left ≤ count →
      (listWithin terminal count).on state = ⟨.ok nodes, after⟩

/-- Segments with semicolons between them. -/
inductive SegmentList where
  | last (segment : Segment)
  | cons (segment : Segment) (semicolon : Token) (kind : semicolon.kind = .symbol .semicolon)
      (others : SegmentList)

namespace SegmentList

def tokens : SegmentList → List Token
  | last segment => segment.tokens
  | cons segment semicolon _ others => segment.tokens ++ semicolon :: others.tokens

/-- The border of a segment that has others behind it. -/
def behind (others : SegmentList) (semicolon : Token) (kind : semicolon.kind = .symbol .semicolon)
    (border : Border) : Border where
  ending := border.ending
  rest := semicolon :: (others.tokens ++ border.rest)
  ends := by
    rw [nextKind, kind]
    rfl
  clean := nofun

/-- What the segments give, each of them alone. -/
def contributions (border : Border) : SegmentList → List Contribution
  | last segment => [segment.contribution border]
  | cons segment semicolon kind others =>
      segment.contribution (others.behind semicolon kind border) :: others.contributions border

/-- Another segment takes the place of the one at the index. -/
def replace : SegmentList → Nat → Segment → SegmentList
  | last _, 0, other => last other
  | last segment, _ + 1, _ => last segment
  | cons _ semicolon kind others, 0, other => cons other semicolon kind others
  | cons segment semicolon kind others, index + 1, other =>
      cons segment semicolon kind (others.replace index other)

/-- A segment gives the same whatever takes the place of another one. -/
theorem contributions_replace (border : Border) (list : SegmentList) (index : Nat)
    (other : Segment) {place : Nat} (apart : place ≠ index) :
    ((list.replace index other).contributions border)[place]? =
      (list.contributions border)[place]? := by
  induction list generalizing index place with
  | last segment =>
      cases index with
      | zero =>
          obtain ⟨place, rfl⟩ := Nat.exists_eq_succ_of_ne_zero apart
          rfl
      | succ index => rfl
  | cons segment semicolon kind others inductionHypothesis =>
      cases index with
      | zero =>
          obtain ⟨place, rfl⟩ := Nat.exists_eq_succ_of_ne_zero apart
          rfl
      | succ index =>
          cases place with
          | zero => rfl
          | succ place => exact inductionHypothesis index (fun same => apart (congrArg _ same))

/-- A list of segments is parsed to what they give, each of them alone. -/
theorem gives (list : SegmentList) (border : Border)
    (closed : (nextKind border.rest).isSymbol .semicolon = false) {state : ParseState}
    (stands : state.stream = border.front list.tokens) :
    border.Gives state (list.contributions border) := by
  induction list generalizing state with
  | last segment =>
      obtain ⟨found, errors, after, reached, gives⟩ := segment.reaches border stands
      refine ⟨found.toList, after, ?_, ?_, ?_⟩
      · simpa [contributions, gives] using reached.toPasses
      · simp [contributions, gives]
      · intro terminal count closes enough
        rw [reached.goesOn terminal count closes enough,
          border.on_closed closes reached.stands closed]
        simp [Parsed.prepend, Except.map]
  | cons segment semicolon kind others inductionHypothesis =>
      let between := others.behind semicolon kind border
      have standsFirst : state.stream = between.front segment.tokens := by
        rw [stands, Border.front, tokens, List.append_assoc]
        rfl
      obtain ⟨found, errors, middle, reached, gives⟩ := segment.reaches between standsFirst
      let next : ParseState := { middle with stream := border.front others.tokens }
      have standsNext : next.stream = border.front others.tokens := rfl
      obtain ⟨nodes, after, passes, same, goesOn⟩ := inductionHypothesis standsNext
      have steps : Steps middle next := border.steps_semicolon others.tokens reached.stands
      have moves {terminal : Keyword} {count : Nat} (closes : terminal.closesList = true)
          (enough : middle.left ≤ count) :
          (listWithin terminal count).on middle = (listWithin terminal count).on next :=
        border.on_semicolon closes closed kind reached.stands enough
      refine ⟨found.toList ++ nodes, after, ⟨?_, passes.stands, ?_⟩, ?_, ?_⟩
      · exact (reached.steps.trans steps).trans passes.steps
      · rw [passes.added, contributions, List.flatMap_cons, gives, ← List.append_assoc]
        exact congrArg (· ++ _) reached.added
      · rw [List.map_append, same, contributions, List.flatMap_cons, gives]
      · intro terminal count closes enough
        have less := Nat.le_trans reached.steps.left_le enough
        rw [reached.goesOn terminal count closes enough, moves closes less,
          goesOn terminal count closes (Nat.le_trans steps.left_le less)]
        rfl

end SegmentList

/-- Errors stay inside their segment. A list of statements at any depth passes exactly the tokens of
a segment, well-formed or not, up to the token behind it; it adopts at most one statement and reports
at most one mistake, and both depend only on the segment and on the token behind it. So a list of
segments has the nodes and the syntax errors that they give, each of them alone, and whatever takes
the place of one segment, the others give the same. -/
theorem mistakes_stay_in_segments :
    (∀ (segment : Segment) (border : Border) (state : ParseState),
      state.stream = border.front segment.tokens →
        ∃ found errors after, border.Reaches state found errors after ∧
          segment.contribution border = ⟨found.toList.map (·.toTree.bare), errors⟩) ∧
    ∀ (list : SegmentList) (index : Nat) (other : Segment) (border : Border)
      (state copy : ParseState), (nextKind border.rest).isSymbol .semicolon = false →
        state.stream = border.front list.tokens →
          copy.stream = border.front (list.replace index other).tokens →
            border.Gives state (list.contributions border) ∧
            border.Gives copy ((list.replace index other).contributions border) ∧
            ∀ place, place ≠ index → ((list.replace index other).contributions border)[place]? =
              (list.contributions border)[place]? := by
  refine ⟨fun segment border _ stands => segment.reaches border stands, ?_⟩
  intro list index other border state copy closed stands standsCopy
  refine ⟨list.gives border closed stands, ?_, ?_⟩
  · exact (list.replace index other).gives border closed standsCopy
  · exact fun place apart => list.contributions_replace border index other apart

/-- These are the tokens of `if 1 then while ); ) 7; writeln`. -/
def garbledList : SegmentList :=
  .cons ⟨[⟨.keyword .ifWord, "if", 1⟩, ⟨.integer 1, "1", 1⟩, ⟨.keyword .thenWord, "then", 1⟩,
      ⟨.keyword .whileWord, "while", 1⟩, ⟨.symbol .rightParenthesis, ")", 1⟩], by decide⟩
    ⟨.symbol .semicolon, ";", 1⟩ rfl
    (.cons ⟨[⟨.symbol .rightParenthesis, ")", 2⟩, ⟨.integer 7, "7", 2⟩], by decide⟩
      ⟨.symbol .semicolon, ";", 2⟩ rfl
      (.last ⟨[⟨.keyword .writelnWord, "writeln", 3⟩], by decide⟩))

def closedBorder : Border := ⟨.endOfText 4, [⟨.keyword .endWord, "end", 4⟩], rfl, nofun⟩

theorem mistakes_stay_in_segments_garbled :
    closedBorder.Gives ⟨closedBorder.front garbledList.tokens, [], .empty⟩
      (garbledList.contributions closedBorder) ∧
    (garbledList.contributions closedBorder).map (fun given => (given.nodes.length, given.errors)) =
      [(1, [⟨.mistake .unexpectedToken, 1, ")"⟩]), (0, [⟨.mistake .unexpectedToken, 2, ")"⟩]),
        (1, [])] := by
  let copy : ParseState :=
    ⟨closedBorder.front (garbledList.replace 0 ⟨[], nofun⟩).tokens, [], .empty⟩
  refine ⟨?_, by decide⟩
  exact (mistakes_stay_in_segments.2 garbledList 0 ⟨[], nofun⟩ closedBorder _ copy rfl rfl rfl).1

end MiniPascal
