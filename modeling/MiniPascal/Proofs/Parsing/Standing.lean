/-
This file places a parser before given tokens.
-/

import MiniPascal.Proofs.Parsing.Trace

namespace MiniPascal

/-- The line of the end of the text. -/
def Ending.line : Ending → Nat
  | .endOfText line => line
  | .fault _ => 1

/-- The stream before the given tokens. -/
def Stream.before (ending : Ending) : List Token → Stream
  | [] => ⟨.endOfText ending.line, [], ending⟩
  | token :: rest => ⟨token, rest, ending⟩

@[simp] theorem Stream.before_kind {ending : Ending} {tokens : List Token} :
    (Stream.before ending tokens).current.kind = nextKind tokens := by
  cases tokens <;> rfl

theorem Stream.left_before_le (ending : Ending) (tokens : List Token) :
    (Stream.before ending tokens).left ≤ tokens.length := by
  cases tokens with
  | nil => exact Nat.le_refl _
  | cons token rest =>
      change rest.length + (if token.kind.isEndOfText then 0 else 1) ≤ rest.length + 1
      split <;> omega

/-- What stays the same while a parser reports nothing. -/
structure Frame where
  ending : Ending
  diagnostics : List Diagnostic

namespace Frame

/-- The parser stands before the given tokens with the names of a table. -/
def before (frame : Frame) (table : SymbolTable) (tokens : List Token) : ParseState :=
  ⟨.before frame.ending tokens, frame.diagnostics, table⟩

/-- A parser can stand before the tokens: there is one, or the text ends without a fault. -/
def Allows (frame : Frame) (tokens : List Token) : Prop :=
  tokens = [] → frame.ending = .endOfText frame.ending.line

variable {frame : Frame} {table : SymbolTable} {tokens : List Token}

theorem allows_cons {token : Token} {rest : List Token} : frame.Allows (token :: rest) := by
  intro empty
  cases empty

/-- A parser that can stand before the end of a list can stand before all of it. -/
theorem Allows.of_suffix {rest : List Token} (allows : frame.Allows rest)
    (suffix : rest <:+ tokens) : frame.Allows tokens := by
  rintro rfl
  exact allows (List.suffix_nil.mp suffix)

/-- A parser can stand before a list that has a token in it. -/
theorem allows_of_suffix_cons (frame : Frame) {token : Token} {rest : List Token}
    (suffix : token :: rest <:+ tokens) : frame.Allows tokens := allows_cons.of_suffix suffix

@[simp] theorem before_errors : (frame.before table tokens).errors = frame.diagnostics.length := rfl

@[simp] theorem before_table : (frame.before table tokens).table = table := rfl

@[simp] theorem before_current_cons {token : Token} {rest : List Token} :
    (frame.before table (token :: rest)).stream.current = token := rfl

@[simp] theorem before_kind :
    (frame.before table tokens).stream.current.kind = nextKind tokens := Stream.before_kind

theorem length_le_size (frame : Frame) (table : SymbolTable) (tokens : List Token) :
    tokens.length ≤ (frame.before table tokens).stream.size := by
  cases tokens with
  | nil => exact Nat.zero_le _
  | cons => exact Nat.le_refl _

theorem before_next_cons {token : Token} {rest : List Token} (allows : frame.Allows rest) :
    (frame.before table (token :: rest)).stream.next = .ok (.before frame.ending rest) := by
  cases rest with
  | cons _ _ => rfl
  | nil =>
      have clean := allows rfl
      simp only [before, Stream.before, Stream.next]
      rw [clean]
      rfl

/-- A parser that can go on from a token stands before the tokens behind it. -/
theorem passes_cons {token : Token} {rest : List Token} {stream : Stream}
    (next : (frame.before table (token :: rest)).stream.next = .ok stream) :
    stream = .before frame.ending rest ∧ frame.Allows rest := by
  cases rest with
  | cons second others =>
      cases next
      exact ⟨rfl, allows_cons⟩
  | nil =>
      simp only [before, Stream.before, Stream.next] at next
      cases ending : frame.ending with
      | endOfText line =>
          rw [ending] at next
          cases next
          exact ⟨rfl, fun _ => by simp [ending, Ending.line]⟩
      | fault fault =>
          rw [ending] at next
          cases next

/-- Before the end of the text there is a token to go on from. -/
theorem passes {stream : Stream} (next : (frame.before table tokens).stream.next = .ok stream)
    (inside : (nextKind tokens).isEndOfText = false) :
    ∃ token rest, tokens = token :: rest ∧ stream = .before frame.ending rest ∧
      frame.Allows rest := by
  cases tokens with
  | nil => cases inside
  | cons token rest => exact ⟨token, rest, rfl, passes_cons next⟩

/-- A token of a kind that is not the end of the text is passed. -/
theorem passes_kind {stream : Stream} {kind : Kind}
    (same : (frame.before table tokens).stream.current.kind = kind)
    (next : (frame.before table tokens).stream.next = .ok stream)
    (inside : kind.isEndOfText = false) :
    ∃ token rest, tokens = token :: rest ∧ token.kind = kind ∧ stream = .before frame.ending rest := by
  rw [before_kind] at same
  obtain ⟨token, rest, rfl, stands, _⟩ := passes next (same ▸ inside)
  exact ⟨token, rest, rfl, same, stands⟩

end Frame

namespace ParseState

variable {frame : Frame} {table : SymbolTable} {tokens : List Token} {after : ParseState}

/-- Skipped tokens are passed up to the first one of another kind. -/
theorem Skips.stands {skipped : Kind → Bool} {state : ParseState} (skips : state.Skips skipped after)
    (ended : skipped .endOfText = false) (stands : state = frame.before table tokens) :
    after = frame.before table (tokens.dropWhile fun token => skipped token.kind) := by
  induction skips generalizing tokens with
  | stop missed =>
      subst stands
      rw [Frame.before_kind] at missed
      cases tokens with
      | nil => rfl
      | cons token rest => rw [List.dropWhile_cons_of_neg (by simpa [nextKind] using missed)]
  | pass found next _ others =>
      subst stands
      rw [Frame.before_kind] at found
      have inside : (nextKind tokens).isEndOfText = false := by
        cases kind : nextKind tokens <;> simp_all [Kind.isEndOfText]
      obtain ⟨token, rest, rfl, rfl, _⟩ := Frame.passes next inside
      rw [List.dropWhile_cons_of_pos (by simpa [nextKind] using found)]
      exact others rfl

/-- An expected token is passed, or its absence is reported. -/
theorem Expects.stands {wanted : Kind → Bool} (ended : wanted .endOfText = false)
    (expects : (frame.before table tokens).Expects wanted after)
    (quiet : after.errors = (frame.before table tokens).errors) :
    ∃ token rest, tokens = token :: rest ∧ wanted token.kind = true ∧
      after = frame.before table rest := by
  cases expects with
  | absent recovers => exact absurd quiet (Nat.ne_of_gt recovers.reported)
  | present found next =>
      rw [Frame.before_kind] at found
      have inside : (nextKind tokens).isEndOfText = false := by
        cases kind : nextKind tokens <;> simp_all [Kind.isEndOfText]
      obtain ⟨token, rest, rfl, rfl, _⟩ := Frame.passes next inside
      exact ⟨token, rest, rfl, found, rfl⟩

/-- A token that is met is the next one, or its absence is reported. -/
theorem Meets.stands {wanted : Kind → Bool} (ended : wanted .endOfText = false)
    (meets : (frame.before table tokens).Meets wanted after)
    (quiet : after.errors = (frame.before table tokens).errors) :
    ∃ token rest, tokens = token :: rest ∧ wanted token.kind = true ∧
      after = frame.before table (token :: rest) := by
  cases meets with
  | absent recovers => exact absurd quiet (Nat.ne_of_gt recovers.reported)
  | present found =>
      rw [Frame.before_kind] at found
      cases tokens with
      | nil => exact absurd found (ne_true_of_eq_false ended)
      | cons token rest => exact ⟨token, rest, rfl, found, rfl⟩

end ParseState

namespace Parse

variable {α β : Type}

/-- Behind a result the second parser goes on. -/
theorem on_bind_ok {first : Parse α} {next : α → Parse β} {state middle : ParseState} {value : α}
    (result : first.on state = ⟨.ok value, middle⟩) :
    (first >>= next).on state = (next value).on middle := by
  rw [on_bind, result]

variable {frame : Frame} {table : SymbolTable} {token : Token} {rest : List Token}

theorem advance_run (allows : frame.Allows rest) :
    advance.on (frame.before table (token :: rest)) = ⟨.ok (), frame.before table rest⟩ := by
  rw [on_advance, Frame.before_next_cons allows]
  rfl

theorem accept_run {wanted : Kind → Bool} (allows : frame.Allows rest)
    (present : wanted token.kind = true) :
    (accept wanted).on (frame.before table (token :: rest)) =
      ⟨.ok true, frame.before table rest⟩ := by
  rw [on_accept, advance_run allows]
  simp [present, Except.map]

theorem accept_absent_run {wanted : Kind → Bool} {tokens : List Token}
    (absent : wanted (nextKind tokens) = false) :
    (accept wanted).on (frame.before table tokens) = ⟨.ok false, frame.before table tokens⟩ := by
  rw [on_accept]
  simp [absent]

/-- A parser that can stand behind the skipped tokens passes them. -/
theorem skipWhile_run {skipped : Kind → Bool} {tokens : List Token} (count : Nat)
    (short : tokens.length ≤ count) (stops : skipped .endOfText = false)
    (allows : frame.Allows (tokens.dropWhile fun token => skipped token.kind)) :
    (skipWhile skipped count).on (frame.before table tokens) =
      ⟨.ok (), frame.before table (tokens.dropWhile fun token => skipped token.kind)⟩ := by
  induction count generalizing tokens with
  | zero =>
      obtain rfl := List.length_eq_zero_iff.mp (Nat.le_zero.mp short)
      rfl
  | succ count inductionHypothesis =>
      rw [skipWhile]
      cases tokens with
      | nil =>
          rw [on_bind_ok (accept_absent_run stops)]
          rfl
      | cons token rest =>
          by_cases found : skipped token.kind = true
          · have dropped : (token :: rest).dropWhile (fun token => skipped token.kind) =
                rest.dropWhile fun token => skipped token.kind := List.dropWhile_cons_of_pos found
            rw [dropped] at allows ⊢
            have allowsRest := allows.of_suffix (List.dropWhile_suffix _)
            rw [on_bind_ok (accept_run allowsRest found)]
            exact inductionHypothesis (Nat.le_of_succ_le_succ short) allows
          · have kept : (token :: rest).dropWhile (fun token => skipped token.kind) =
                token :: rest := List.dropWhile_cons_of_neg found
            have missed : skipped (nextKind (token :: rest)) = false := by
              simpa [nextKind] using found
            rw [kept, on_bind_ok (accept_absent_run missed)]
            rfl

theorem skipAll_run {skipped : Kind → Bool} {tokens : List Token}
    (stops : skipped .endOfText = false)
    (allows : frame.Allows (tokens.dropWhile fun token => skipped token.kind)) :
    (skipAll skipped).on (frame.before table tokens) =
      ⟨.ok (), frame.before table (tokens.dropWhile fun token => skipped token.kind)⟩ := by
  rw [skipAll, on_bind_ok (on_get _)]
  apply skipWhile_run _ _ stops allows
  cases tokens with
  | nil => exact Nat.zero_le _
  | cons token rest => exact Nat.le_refl _

theorem require_run {wanted : Kind → Bool} {mistake : Mistake} (allows : frame.Allows rest)
    (present : wanted token.kind = true) :
    (require wanted mistake).on (frame.before table (token :: rest)) =
      ⟨.ok (), frame.before table rest⟩ := by
  rw [require, on_bind_ok (accept_run allows present)]
  rfl

theorem expect_run {wanted : Kind → Bool} {mistake : Mistake} (allows : frame.Allows rest)
    (present : wanted token.kind = true) :
    (expect wanted mistake).on (frame.before table (token :: rest)) =
      ⟨.ok (), frame.before table rest⟩ := by
  rw [expect, on_bind_ok (accept_run allows present)]
  rfl

theorem check_run {wanted : Kind → Bool} {mistake : Mistake} {tokens : List Token}
    (present : wanted (nextKind tokens) = true) :
    (check wanted mistake).on (frame.before table tokens) =
      ⟨.ok (), frame.before table tokens⟩ := by
  rw [check, on_bind_ok (on_current _), Frame.before_kind, if_pos present]
  rfl

theorem mark_run (allows : frame.Allows rest) :
    mark.on (frame.before table (token :: rest)) = ⟨.ok token.mark, frame.before table rest⟩ := by
  rw [mark, on_bind_ok (on_current _), on_bind_ok (advance_run allows)]
  rfl

theorem declare_run :
    declare.on (frame.before table (token :: rest)) =
      ⟨.ok ⟨token.mark, (table.entered token.text).binding⟩,
        frame.before (table.enter token.text) (token :: rest)⟩ := rfl

theorem variableRead_run {cell : Cell} (allows : frame.Allows rest)
    (known : table.lookup? token.text = some cell) :
    variableRead.on (frame.before table (token :: rest)) =
      ⟨.ok ⟨token.mark, cell.binding⟩, frame.before table rest⟩ := by
  rw [variableRead, on_bind_ok (on_current _), on_bind_ok (on_get _)]
  simp only [Frame.before_current_cons, Frame.before_table, known]
  rw [on_bind_ok (on_pure _ _), on_bind_ok (advance_run allows)]
  rfl

end Parse

end MiniPascal
