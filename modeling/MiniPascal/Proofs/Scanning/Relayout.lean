/-
This file shows that the gaps of a text do not matter: other gaps between the same tokens are scanned
to the same tokens, on other lines.
-/

import MiniPascal.Proofs.Scanning.Lossless

namespace MiniPascal

open Lexeme

/-- What a token is apart from its line. -/
def Token.content (token : Token) : Kind × String := (token.kind, token.text)

/-- The gaps of a layout keep its tokens apart: no gap between two tokens is empty, and a string
literal that is left open is followed by a line end. -/
structure Spaced (first : List Char) (pieces : List Piece) : Prop where
  closed : GapsClosed first pieces
  apart : ∀ piece ∈ pieces.dropLast, piece.gap ≠ []
  lineEnd : ∀ piece ∈ pieces, OpenString piece.token.kind piece.token.text.toList →
    ∀ character, piece.gap.head? = some character → character = '\n'

variable {first : List Char} {piece : Piece} {pieces : List Piece}

namespace Spaced

/-- A token with a gap behind it before other tokens. -/
theorem cons (spaced : Spaced piece.gap pieces) (closed : ClosedGap first)
    (apart : pieces ≠ [] → piece.gap ≠ [])
    (lineEnd : OpenString piece.token.kind piece.token.text.toList →
      ∀ character, piece.gap.head? = some character → character = '\n') :
    Spaced first (piece :: pieces) where
  closed := ⟨closed, spaced.closed⟩
  apart := by
    cases pieces with
    | nil => exact nofun
    | cons next pieces => exact List.forall_mem_cons.mpr ⟨apart (List.cons_ne_nil _ _), spaced.apart⟩
  lineEnd := List.forall_mem_cons.mpr ⟨lineEnd, spaced.lineEnd⟩

theorem behind (spaced : Spaced first (piece :: pieces)) : Spaced piece.gap pieces where
  closed := spaced.closed.2
  apart other inside := spaced.apart other (by
    cases pieces with
    | nil => cases inside
    | cons => exact List.mem_cons_of_mem _ inside)
  lineEnd other inside := spaced.lineEnd other (List.mem_cons_of_mem _ inside)

/-- Behind a token comes the gap behind it. -/
theorem head? (spaced : Spaced first (piece :: pieces)) :
    (weave piece.gap pieces).head? = piece.gap.head? := by
  cases pieces with
  | nil => rfl
  | cons next pieces =>
      have nonempty : piece.gap ≠ [] := spaced.apart piece List.mem_cons_self
      obtain ⟨character, gap, same⟩ := List.exists_cons_of_ne_nil nonempty
      rw [weave, same]
      rfl

theorem startsGap (spaced : Spaced first pieces) {character : Char}
    (head : first.head? = some character) : Lexeme.startsGap character = true := by
  obtain ⟨more, rfl⟩ := List.head?_eq_some_iff.mp head
  cases pieces with
  | nil => exact FinalGap.startsGap spaced.closed
  | cons => exact spaced.closed.1.startsGap

/-- A token is followed by a gap or by the end of the text. -/
theorem apartBehind (spaced : Spaced first (piece :: pieces)) :
    Apart (weave piece.gap pieces) :=
  fun _ head => spaced.behind.startsGap (spaced.head? ▸ head)

end Spaced

namespace Scanner

variable {scanner : Scanner}

/-- A token that is laid out before other tokens is found again. -/
theorem next_of_layout (word : Word piece.token.kind piece.token.text.toList)
    (spaced : Spaced first (piece :: pieces)) (starts : scanner.rest = weave first (piece :: pieces)) :
    ∃ token after, scanner.next = (.ok token, after) ∧ token.content = piece.token.content ∧
      after.rest = weave piece.gap pieces := by
  have reads : scanner.Reads first piece.token.kind piece.token.text.toList
      (weave piece.gap pieces) := by
    refine ⟨⟨word.starts _ spaced.apartBehind, word.nonempty, ?_⟩, spaced.closed.1, starts⟩
    exact word.again _ spaced.apartBehind fun opened character head =>
      spaced.lineEnd piece List.mem_cons_self opened character (spaced.head? ▸ head)
  obtain ⟨after, step, rest, _⟩ := reads.next
  exact ⟨_, after, step, by rw [Token.content, String.ofList_toList]; rfl, rest⟩

/-- Before the last gap of a text the scanner finds the end of the text alone. -/
theorem scanTokens_of_final (final : FinalGap scanner.rest) {count : Nat} (some : count ≠ 0) :
    scanner.scanTokens count = ⟨[], .endOfText scanner.skipGap.line, scanner.skipGap⟩ := by
  obtain ⟨count, rfl⟩ := Nat.exists_eq_succ_of_ne_zero some
  have empty := (skipGap_final final).1
  have step : scanner.next = (.ok (.endOfText scanner.skipGap.line), scanner.skipGap) := by
    rw [next, token]
    simp only [empty]
  rw [scanTokens, step]
  rfl

/-- The tokens of a layout are found again, up to the end of the text. -/
theorem scanTokens_of_layout (words : ∀ piece ∈ pieces, Word piece.token.kind piece.token.text.toList)
    (spaced : Spaced first pieces) (starts : scanner.rest = weave first pieces) {count : Nat}
    (enough : scanner.rest.length < count) :
    (scanner.scanTokens count).tokens.map Token.content =
        pieces.map (fun piece => piece.token.content) ∧
      ∃ line, (scanner.scanTokens count).ending = .endOfText line := by
  -- The gap in front of the pieces varies: behind a token it is the gap of that token.
  induction pieces generalizing first scanner count with
  | nil =>
      have final : FinalGap scanner.rest := starts ▸ spaced.closed
      rw [scanTokens_of_final final (Nat.ne_zero_of_lt enough)]
      exact ⟨rfl, _, rfl⟩
  | cons piece pieces inductionHypothesis =>
      obtain ⟨word, words⟩ := List.forall_mem_cons.mp words
      obtain ⟨count, rfl⟩ := Nat.exists_eq_succ_of_ne_zero (Nat.ne_zero_of_lt enough)
      obtain ⟨token, after, step, same, rest⟩ := next_of_layout word spaced starts
      have kind : token.kind = piece.token.kind := congrArg Prod.fst same
      have inside : token.kind.isEndOfText = false := kind ▸ word.inside
      have less := length_next_lt step inside
      have fewer : after.rest.length < count := by omega
      obtain ⟨tokens, ends⟩ := inductionHypothesis words spaced.behind rest fewer
      rw [scanTokens, step]
      simp only [inside, Bool.false_eq_true, if_false, List.map_cons, tokens, same]
      exact ⟨trivial, ends⟩

end Scanner

/-- The tokens of a text come before the end of the text. -/
theorem tokenize_eq_ok {text : String} {tokens : List Token} :
    tokenize text = .ok tokens ↔ ∃ line, (Scanner.ofText text).scan.ending = .endOfText line ∧
      tokens = (Scanner.ofText text).scan.tokens ++ [.endOfText line] := by
  rw [tokenize, Scanner.tokenize]
  constructor
  · intro read
    cases ends : (Scanner.ofText text).scan.ending with
    | endOfText line =>
        rw [ends] at read
        cases read
        exact ⟨line, rfl, rfl⟩
    | fault fault =>
        rw [ends] at read
        cases read
  · rintro ⟨line, ends, rfl⟩
    rw [ends]

/-- A layout of the tokens of a text has these tokens again. -/
theorem tokenize_of_layout {text other : String} {tokens : List Token}
    (read : tokenize text = .ok tokens) (same : pieces.map Piece.token = tokens.dropLast)
    (spaced : Spaced first pieces) (laid : other.toList = weave first pieces) :
    ∃ others, tokenize other = .ok others ∧
      others.map Token.content = tokens.map Token.content := by
  obtain ⟨_, found, rfl, weaves, _⟩ := Scanner.tokenize_weaves (Prod.ext read rfl)
  rw [List.dropLast_concat] at same
  have words : ∀ piece ∈ pieces, Word piece.token.kind piece.token.text.toList := by
    intro piece inside
    have member : piece.token ∈ found.map Piece.token := same ▸ List.mem_map_of_mem inside
    obtain ⟨origin, known, token⟩ := List.mem_map.mp member
    exact token ▸ weaves.words origin known
  obtain ⟨contents, line, ends⟩ :=
    @Scanner.scanTokens_of_layout _ _ (.ofText other) words spaced laid _ (Nat.lt_succ_self _)
  refine ⟨_, tokenize_eq_ok.mpr ⟨line, ends, rfl⟩, ?_⟩
  rw [List.map_append, List.map_append, ← same, List.map_map]
  exact congrArg (· ++ _) contents

/-- Every token on a line of its own, with a gap behind the last one. -/
def lineByLine (last : List Char) : List Token → List Piece
  | [] => []
  | [token] => [⟨token, last⟩]
  | token :: next :: tokens => ⟨token, ['\n']⟩ :: lineByLine last (next :: tokens)

theorem tokens_lineByLine (last : List Char) (tokens : List Token) :
    (lineByLine last tokens).map Piece.token = tokens := by
  fun_induction lineByLine with
  | case1 => rfl
  | case2 => rfl
  | case3 _ _ _ inductionHypothesis => rw [List.map_cons, inductionHypothesis]

theorem Lexeme.ClosedGap.lineEnd : ClosedGap ['\n'] := .blank (by decide) .nil

theorem spaced_lineByLine {last : List Char} (lineEnd : last = [] ∨ last = ['\n'])
    (closed : ClosedGap first) (tokens : List Token) : Spaced first (lineByLine last tokens) := by
  have final : ClosedGap last ∧ ∀ character, last.head? = some character → character = '\n' := by
    rcases lineEnd with rfl | rfl
    · exact ⟨.nil, nofun⟩
    · exact ⟨.lineEnd, by simp⟩
  fun_induction lineByLine last tokens generalizing first with
  | case1 => exact ⟨.closed closed, nofun, nofun⟩
  | case2 => exact .cons ⟨.closed final.1, nofun, nofun⟩ closed (absurd rfl) fun _ => final.2
  | case3 _ _ _ inductionHypothesis =>
      exact .cons (inductionHypothesis .lineEnd) closed (fun _ => List.cons_ne_nil _ _) (by simp)

theorem weave_lineByLine (last : List Char) (tokens : List Token) :
    weave first (lineByLine last tokens) =
      first ++ (['\n'].intercalate (tokens.map (·.text.toList)) ++
        if tokens.isEmpty then [] else last) := by
  fun_induction lineByLine last tokens generalizing first with
  | case1 => simp [weave]
  | case2 => simp [weave, List.intercalate]
  | case3 token next tokens inductionHypothesis =>
      have nonempty : (next :: tokens).map (·.text.toList) ≠ [] := List.cons_ne_nil _ _
      rw [weave, inductionHypothesis]
      change _ = first ++ (['\n'].intercalate (token.text.toList :: (next :: tokens).map _) ++ last)
      rw [List.intercalate_cons_of_ne_nil nonempty, List.append_assoc, List.append_assoc]
      rfl

/-- An empty text at the end of a joined list adds one more joint. -/
theorem intercalate_concat_nil (joint : List Char) (texts : List (List Char)) :
    joint.intercalate (texts ++ [[]]) =
      joint.intercalate texts ++ if texts.isEmpty then [] else joint := by
  induction texts with
  | nil => rfl
  | cons text texts inductionHypothesis =>
      cases texts with
      | nil => simp [List.intercalate]
      | cons next texts =>
          rw [List.cons_append, List.intercalate_cons_of_ne_nil (by simp), inductionHypothesis,
            List.intercalate_cons_of_ne_nil (List.cons_ne_nil _ _)]
          simp

end MiniPascal
