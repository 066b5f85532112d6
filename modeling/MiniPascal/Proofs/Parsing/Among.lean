/-
This file shows that a parser stays among the tokens of its text from the first of them on, and comes
to them one after the other.
-/

import MiniPascal.Proofs.Parsing.Progress
import MiniPascal.Proofs.Parsing.Standing
import MiniPascal.Proofs.Scanning.Lines

namespace MiniPascal

/-- A stream stands before the last tokens of a scan, or at the end of the text. -/
def Stream.Among (scan : Scan) (stream : Stream) : Prop :=
  ∃ rest, rest <:+ scan.tokens ∧ stream = .before scan.ending rest ∧
    Frame.Allows ⟨scan.ending, []⟩ rest

namespace Stream.Among

variable {scan : Scan} {stream after : Stream}

/-- A stream at the end of its text has no token before it, and stays there. -/
theorem next_end {ending : Ending} (next : (Stream.before ending []).next = .ok after) :
    after = .before ending [] := by
  cases ending with
  | endOfText line =>
      cases next
      rfl
  | fault fault => cases next

theorem next (among : stream.Among scan) (next : stream.next = .ok after) : after.Among scan := by
  obtain ⟨rest, suffix, rfl, allows⟩ := among
  cases rest with
  | nil => exact ⟨[], suffix, next_end next, allows⟩
  | cons token rest =>
      obtain ⟨rfl, behind⟩ := @Frame.passes_cons ⟨scan.ending, []⟩ .empty _ _ _ next
      exact ⟨rest, (List.suffix_cons _ _).trans suffix, rfl, behind⟩

/-- The current token of a stream and those behind it are the last ones of the text. -/
theorem suffix (among : stream.Among scan) :
    ∃ behind, stream.current :: behind <:+ scan.allTokens := by
  obtain ⟨rest, ⟨front, whole⟩, rfl, allows⟩ := among
  cases rest with
  | cons token rest => exact ⟨rest ++ scan.ending.tokens, front, by simp [Scan.allTokens, ← whole,
      Stream.before]⟩
  | nil =>
      refine ⟨[], scan.tokens, ?_⟩
      have ended : scan.ending = .endOfText scan.ending.line := allows rfl
      rw [Scan.allTokens, ended]
      rfl

theorem mem (among : stream.Among scan) : stream.current ∈ scan.allTokens := by
  obtain ⟨behind, suffix⟩ := among.suffix
  exact suffix.subset List.mem_cons_self

/-- The token that comes next stands right behind the current one, unless this is the end of the
text. -/
theorem neighbours (among : stream.Among scan) (next : stream.next = .ok after) :
    [stream.current, after.current] <:+: scan.allTokens ∨
      stream.current.kind = .endOfText ∧ after.current = stream.current := by
  obtain ⟨rest, ⟨front, whole⟩, rfl, allows⟩ := among
  cases rest with
  | nil => exact .inr ⟨rfl, by rw [next_end next]⟩
  | cons token rest =>
      obtain ⟨rfl, behind⟩ := @Frame.passes_cons ⟨scan.ending, []⟩ .empty _ _ _ next
      refine .inl ?_
      cases rest with
      | cons second rest =>
          exact ⟨front, rest ++ scan.ending.tokens, by simp [Scan.allTokens, ← whole, Stream.before]⟩
      | nil =>
          have ended : scan.ending = .endOfText scan.ending.line := behind rfl
          refine ⟨front, [], ?_⟩
          rw [Scan.allTokens, ← whole, ended]
          simp [Stream.before, Ending.tokens, Ending.line]

theorem neighbours_of_inside (among : stream.Among scan) (next : stream.next = .ok after)
    (inside : stream.current.kind ≠ .endOfText) :
    [stream.current, after.current] <:+: scan.allTokens :=
  (among.neighbours next).resolve_right fun ended => inside ended.1

/-- The lines of the tokens that a stream comes to do not decrease. -/
theorem line_le (among : stream.Among scan) (sorted : scan.allTokens.Pairwise (·.line ≤ ·.line))
    (next : stream.next = .ok after) : stream.current.line ≤ after.current.line := by
  obtain pair | ⟨_, same⟩ := among.neighbours next
  · exact List.rel_of_pairwise_cons (sorted.sublist pair.sublist) (List.mem_singleton.mpr rfl)
  · rw [same]

/-- A parser that is among the tokens of a text stays there. -/
theorem steps {before after : ParseState} (among : before.stream.Among scan)
    (steps : ParseState.Steps before after) : after.stream.Among scan := by
  refine steps.keep (fun state => state.stream.Among scan) ?_ among
  rintro state _ (found | _ | _) among
  · exact among.next found
  · exact among
  · exact among

/-- The stream of a text starts before its first token. -/
theorem first {text : String} (next : (Stream.ofText text).next = .ok after) :
    after.Among (Scanner.ofText text).scan := by
  refine ⟨(Scanner.ofText text).scan.tokens, List.suffix_refl _, ?_⟩
  rw [Stream.ofText, Stream.next] at next
  cases tokens : (Scanner.ofText text).scan.tokens with
  | cons token rest =>
      rw [tokens] at next
      cases next
      exact ⟨rfl, Frame.allows_cons⟩
  | nil =>
      simp only [tokens] at next
      cases ending : (Scanner.ofText text).scan.ending with
      | fault fault =>
          rw [ending] at next
          cases next
      | endOfText line =>
          rw [ending] at next
          cases next
          exact ⟨rfl, fun _ => rfl⟩

end Stream.Among

namespace Parse

theorem programHere_proceeds : programHere.Proceeds :=
  .bind .current fun _ => .bind (.expect _ _) fun _ => .bind programName_proceeds fun name =>
    .bind (.expect _ _) fun _ => .bind .current fun _ =>
      .ite (programBody_proceeds _ name) (.bind (.recover _) fun _ => programBody_proceeds _ name)

end Parse

/-- The parser of a text meets a fault at its first token, or goes on from there. -/
theorem parseProgram_cases (text : String) (table : SymbolTable) :
    (∃ fault, parseProgram text table = ⟨.error (.fault fault), ⟨.ofText text, [], table⟩⟩) ∨
      ∃ stream, stream.Among (Scanner.ofText text).scan ∧
        parseProgram text table = Parse.programHere.on ⟨stream, [], table⟩ := by
  have starts : parseProgram text table =
      (Parse.advance >>= fun _ => Parse.programHere).on ⟨.ofText text, [], table⟩ := rfl
  rw [starts, Parse.on_bind, Parse.on_advance]
  cases next : (Stream.ofText text).next with
  | error fault => exact .inl ⟨fault, rfl⟩
  | ok stream => exact .inr ⟨stream, .first next, rfl⟩

end MiniPascal
