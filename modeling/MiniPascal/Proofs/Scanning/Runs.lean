/-
This file shows that the tokens of a text up to its point stay the same when the text behind the
point is replaced.
-/

import MiniPascal.Proofs.Scanning.Prefix

namespace MiniPascal

/-- The scanner takes the tokens one after the other, none of which is the end of the text. -/
inductive Scanner.Takes : Scanner → List Token → Scanner → Prop where
  | none {scanner : Scanner} : Takes scanner [] scanner
  | next {scanner middle after : Scanner} {token : Token} {tokens : List Token}
      (step : scanner.next = (.ok token, middle)) (inside : token.kind.isEndOfText = false)
      (others : Takes middle tokens after) :
      Takes scanner (token :: tokens) after

namespace Scanner

variable {scanner after : Scanner} {tokens more : List Token}

/-- The scanner takes every front part of the tokens that it finds. -/
theorem takes_of_scanTokens {count : Nat} (found : (scanner.scanTokens count).tokens = tokens ++ more) :
    ∃ after, scanner.Takes tokens after := by
  induction tokens generalizing scanner count with
  | nil => exact ⟨scanner, .none⟩
  | cons token tokens inductionHypothesis =>
      cases count with
      | zero => cases found
      | succ count =>
          rw [scanTokens] at found
          split at found
          case h_1 => cases found
          case h_2 other middle step =>
            split at found
            case isTrue => cases found
            case isFalse inside =>
              obtain ⟨rfl, others⟩ := List.cons.inj found
              obtain ⟨after, takes⟩ := inductionHypothesis others
              exact ⟨after, .next step (by simpa using inside) takes⟩

/-- A scanner with a step for each of the tokens finds them before all others. -/
theorem Takes.scanTokens_eq {count : Nat} (takes : scanner.Takes tokens after)
    (enough : tokens.length ≤ count) :
    scanner.scanTokens count =
      { after.scanTokens (count - tokens.length) with
        tokens := tokens ++ (after.scanTokens (count - tokens.length)).tokens } := by
  induction takes generalizing count with
  | none => rfl
  | next step inside others inductionHypothesis =>
      cases count with
      | zero => cases enough
      | succ count =>
          rw [scanTokens, step]
          simp only [inside]
          rw [List.length_cons, Nat.add_sub_add_right,
            inductionHypothesis (Nat.le_of_succ_le_succ enough)]
          rfl

theorem Takes.tokens_scanTokens {count : Nat} (takes : scanner.Takes tokens after)
    (enough : tokens.length ≤ count) :
    (scanner.scanTokens count).tokens =
      tokens ++ (after.scanTokens (count - tokens.length)).tokens := by
  rw [takes.scanTokens_eq enough]

/-- Every token has a character. -/
theorem Takes.length_le (takes : scanner.Takes tokens after) :
    tokens.length + after.rest.length ≤ scanner.rest.length := by
  induction takes with
  | none => simp
  | next step inside _ less =>
      have step := length_next_lt step inside
      rw [List.length_cons]
      omega

theorem next_suffix {token : Token} (step : scanner.next = (.ok token, after))
    (inside : token.kind.isEndOfText = false) : after.rest <:+ scanner.rest := by
  have gap : scanner.skipGap.rest <:+ scanner.rest := skipGaps_suffix _ _
  rw [next] at step
  by_cases empty : scanner.skipGap.rest = []
  · simp only [Scanner.token, empty] at step
    have same := Except.ok.inj (congrArg Prod.fst step)
    rw [← same] at inside
    cases inside
  · rw [token_eq_take empty] at step
    have dropped : scanner.skipGap.skip _ = after := congrArg Prod.snd step
    rw [← dropped]
    exact (List.drop_suffix _ _).trans gap

theorem Takes.suffix (takes : scanner.Takes tokens after) : after.rest <:+ scanner.rest := by
  induction takes with
  | none => exact List.suffix_refl _
  | next step inside _ suffix => exact suffix.trans (next_suffix step inside)

/-- The tokens up to a point behind a reserved word do not depend on what comes behind the point.
Only the last token before a point could swallow it, when it is a number. -/
theorem Takes.followedBy {front : List Token} {closing period : Token} {rest : List Char}
    {word : Keyword}
    (takes : (scanner.followedBy rest).Takes (front ++ [closing, period]) (after.followedBy rest))
    (closes : closing.kind = .keyword word) (ends : period.kind = .symbol .period)
    (empty : after.rest = []) :
    Lexeme.Pointed scanner.rest ∧ ∀ other,
      (scanner.followedBy other).Takes (front ++ [closing, period]) (after.followedBy other) := by
  induction front generalizing scanner with
  | nil =>
      obtain _ | ⟨step, inside, _ | ⟨lastStep, lastInside, _ | _⟩⟩ := takes
      rename_i middle
      obtain ⟨middle, rfl⟩ := exists_followedBy
        ((List.suffix_append after.rest rest).trans (next_suffix lastStep lastInside))
      obtain ⟨pointed, lastSame⟩ := next_point lastStep ends empty
      obtain ⟨startPointed, same⟩ := next_followedBy step inside pointed (.inr ⟨word, closes⟩)
      exact ⟨startPointed, fun other => .next (same other) inside
        (.next (lastSame other) lastInside .none)⟩
  | cons token front inductionHypothesis =>
      obtain _ | ⟨step, inside, others⟩ := takes
      rename_i middle
      obtain ⟨middle, rfl⟩ := exists_followedBy
        ((List.suffix_append after.rest rest).trans others.suffix)
      have long : (front ++ [closing, period]).length + (after.followedBy rest).rest.length ≤
          (middle.followedBy rest).rest.length := others.length_le
      obtain ⟨pointed, same⟩ := inductionHypothesis others
      have two : 2 ≤ middle.rest.length := by
        simp only [List.length_append, List.length_cons, List.length_nil, followedBy_rest] at long
        omega
      obtain ⟨startPointed, first⟩ := next_followedBy step inside pointed (.inl two)
      exact ⟨startPointed, fun other => .next (first other) inside (same other)⟩

/-- A scanner at the end of its text finds no token. -/
theorem tokens_of_empty (empty : scanner.rest = []) (count : Nat) :
    (scanner.scanTokens count).tokens = [] := by
  cases count with
  | zero => rfl
  | succ count =>
      have gap : scanner.skipGap = scanner := by
        rw [skipGap, empty]
        rfl
      have ended : scanner.next = (.ok (.endOfText scanner.line), scanner) := by
        rw [next, gap, token]
        simp only [empty]
      rw [scanTokens, ended]
      rfl

end Scanner

section Points

variable {text : String} {front more : List Token} {closing period : Token} {word : Keyword}

/-- A text whose tokens reach a point behind a reserved word. The scanner reaches the same tokens and
stands behind the point in every text that starts with it. -/
theorem takes_up_to_period
    (found : (Scanner.ofText text).scan.tokens = front ++ [closing, period] ++ more)
    (closes : closing.kind = .keyword word) (ends : period.kind = .symbol .period) :
    ∃ head tail position line, text = head ++ "." ++ tail ∧ ∀ other,
      (Scanner.ofText (head ++ "." ++ other)).Takes (front ++ [closing, period])
        ⟨other.toList, position, line⟩ := by
  obtain ⟨last, takes⟩ := Scanner.takes_of_scanTokens found
  obtain ⟨start, same⟩ := Scanner.exists_followedBy takes.suffix
  have nothing : last = Scanner.followedBy ⟨[], last.position, last.line⟩ last.rest := rfl
  rw [same, nothing] at takes
  obtain ⟨pointed, anywhere⟩ := takes.followedBy closes ends rfl
  obtain ⟨head, point⟩ := List.getLast?_eq_some_iff.mp pointed
  obtain ⟨startRest, position, line⟩ := start
  obtain rfl : startRest = head ++ ['.'] := point
  simp only [Scanner.ofText, Scanner.followedBy, Scanner.mk.injEq] at same
  obtain ⟨whole, rfl, rfl⟩ := same
  have starts (other : String) : Scanner.ofText (String.ofList head ++ "." ++ other) =
      Scanner.followedBy ⟨head ++ ['.'], 0, 1⟩ other.toList := by
    simp [Scanner.ofText, Scanner.followedBy]
  refine ⟨String.ofList head, String.ofList last.rest, last.position, last.line, ?_, fun other => ?_⟩
  · rw [← String.toList_inj, whole]
    simp
  · rw [starts]
    exact anywhere other.toList

/-- The tokens up to the point are all tokens of the text that ends there, and they come first in
every text that starts with it. -/
theorem tokens_up_to_period
    (found : (Scanner.ofText text).scan.tokens = front ++ [closing, period] ++ more)
    (closes : closing.kind = .keyword word) (ends : period.kind = .symbol .period) :
    ∃ head tail, text = head ++ "." ++ tail ∧
      (Scanner.ofText (head ++ ".")).scan.tokens = front ++ [closing, period] ∧
      ∀ other, front ++ [closing, period] <+: (Scanner.ofText (head ++ "." ++ other)).scan.tokens := by
  obtain ⟨head, tail, position, line, same, anywhere⟩ := takes_up_to_period found closes ends
  have reached (other : String) :
      (Scanner.ofText (head ++ "." ++ other)).scan.tokens = front ++ [closing, period] ++
        (Scanner.scanTokens ((Scanner.ofText (head ++ "." ++ other)).rest.length + 1 -
          (front ++ [closing, period]).length) ⟨other.toList, position, line⟩).tokens :=
    (anywhere other).tokens_scanTokens
      (by have enough := (anywhere other).length_le; omega)
  refine ⟨head, tail, same, ?_, fun other => ?_⟩
  · have only := reached ""
    rw [Scanner.tokens_of_empty rfl, List.append_nil, String.append_empty] at only
    exact only
  · rw [reached other]
    exact List.prefix_append _ _

end Points

end MiniPascal
