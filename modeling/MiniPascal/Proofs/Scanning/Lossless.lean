/-
This file shows that a scan loses nothing: a text is its tokens and the gaps between them, and every
token is on the line on which it starts.
-/

import MiniPascal.Proofs.Scanning.Words

namespace MiniPascal

open Lexeme

/-- A token with the gap behind it. -/
structure Piece where
  token : Token
  gap : List Char

/-- The text of a gap and of the pieces behind it. -/
def weave (first : List Char) : List Piece → List Char
  | [] => first
  | piece :: pieces => first ++ (piece.token.text.toList ++ weave piece.gap pieces)

/-- All gaps are closed, and the last one may end with an open comment. -/
def GapsClosed (first : List Char) : List Piece → Prop
  | [] => FinalGap first
  | piece :: pieces => ClosedGap first ∧ GapsClosed piece.gap pieces

namespace Scanner

variable {scanner after : Scanner}

/-- A token that stands before a scanner behind a closed gap. -/
structure Reads (scanner : Scanner) (gap : List Char) (kind : Kind) (word rest : List Char) : Prop
    extends WordBefore kind word rest where
  closed : ClosedGap gap
  whole : scanner.rest = gap ++ (word ++ rest)

/-- A token that stands before a scanner is the next one. -/
theorem Reads.next {gap word rest : List Char} {kind : Kind}
    (reads : scanner.Reads gap kind word rest) :
    ∃ after, scanner.next =
        (.ok ⟨kind, String.ofList word, scanner.line + gap.count '\n'⟩, after) ∧
      after.rest = rest ∧ after.line = scanner.line + gap.count '\n' := by
  have settled : ∀ place : Scanner, place.rest = word ++ rest → place.Settled := by
    intro place same
    have starts := reads.starts
    rw [← same] at starts
    exact ⟨starts.noBlank, starts.noComment⟩
  have passed := skipGap_before_settled reads.closed reads.whole settled
  have before := rest_skip reads.whole
  have nonempty : (scanner.skip gap.length).rest ≠ [] := by
    rw [before]
    exact List.append_ne_nil_of_left_ne_nil reads.nonempty _
  refine ⟨(scanner.skip gap.length).skip word.length, ?_, rest_skip before, ?_⟩
  · rw [Scanner.next, passed, token_eq_take nonempty, before, reads.piece, take, before,
      List.take_left, line_skip reads.whole]
    rfl
  · rw [line_skip before, line_skip reads.whole, List.count_eq_zero.mpr reads.word.oneLine,
      Nat.add_zero]

/-- A scanner finds the end of the text, a fault, or a token behind a closed gap. -/
inductive Finds (scanner : Scanner) : Prop where
  | ended (empty : scanner.skipGap.rest = []) (final : FinalGap scanner.rest)
      (line : scanner.skipGap.line = scanner.line + scanner.rest.count '\n')
      (step : scanner.next = (.ok (.endOfText scanner.skipGap.line), scanner.skipGap))
  | fault {fault : Fault} {after : Scanner} (step : scanner.next = (.error fault, after))
  | token {gap : List Char} {token : Token} {after : Scanner}
      (reads : scanner.Reads gap token.kind token.text.toList after.rest)
      (step : scanner.next = (.ok token, after))
      (line : token.line = scanner.line + gap.count '\n') (afterLine : after.line = token.line)

theorem Settled.starts (settled : scanner.Settled) : Starts scanner.rest :=
  ⟨settled.noBlank, settled.noComment⟩

theorem finds (scanner : Scanner) : scanner.Finds := by
  obtain ⟨gap, passes⟩ := exists_passesGap scanner
  by_cases empty : scanner.skipGap.rest = []
  · have whole : scanner.rest = gap := by rw [passes.whole, empty, List.append_nil]
    refine .ended empty (whole ▸ passes.final) (whole ▸ passes.line) ?_
    rw [next, token]
    simp only [empty]
  · cases found : piece scanner.skipGap.rest with
    | mk length read =>
        have step : scanner.next = scanner.skipGap.take length read := by
          rw [next, token_eq_take empty, found]
        cases read with
        | error fault => exact .fault step
        | ok kind =>
            obtain ⟨within, word⟩ := word_of_piece scanner.skipGap_settled.starts empty found
            have parts : scanner.skipGap.rest =
                scanner.skipGap.rest.take length ++ scanner.skipGap.rest.drop length :=
              (List.take_append_drop _ _).symm
            have reads : scanner.Reads gap kind (scanner.skipGap.rest.take length)
                (scanner.skipGap.rest.drop length) := by
              refine ⟨⟨parts ▸ scanner.skipGap_settled.starts, word.nonempty, ?_⟩,
                passes.closed empty, parts ▸ passes.whole⟩
              rw [← parts, found, List.length_take, Nat.min_eq_left within]
            obtain ⟨after, found, rest, afterLine⟩ := reads.next
            have same : (String.ofList (scanner.skipGap.rest.take length)).toList = _ :=
              String.toList_ofList
            refine .token ?_ found rfl afterLine
            rw [same, rest]
            exact reads

/-- A token that is found stands before the scanner. -/
theorem reads_of_next {token : Token} (step : scanner.next = (.ok token, after))
    (inside : token.kind.isEndOfText = false) :
    ∃ gap, scanner.Reads gap token.kind token.text.toList after.rest ∧
      token.line = scanner.line + gap.count '\n' ∧ after.line = token.line := by
  cases scanner.finds with
  | ended _ _ _ found =>
      rw [found] at step
      cases step
      cases inside
  | fault found =>
      rw [found] at step
      cases step
  | token reads found line afterLine =>
      rw [found] at step
      cases step
      exact ⟨_, reads, line, afterLine⟩

/-- The text before a scanner is woven of pieces, which are numbered from the line of the scanner. -/
structure Weaves (scanner : Scanner) (first : List Char) (pieces : List Piece) : Prop where
  whole : scanner.rest = weave first pieces
  closed : GapsClosed first pieces
  words : ∀ piece ∈ pieces, Word piece.token.kind piece.token.text.toList
  lines : ∀ before piece behind, pieces = before ++ piece :: behind →
    piece.token.line = scanner.line + (weave first before).count '\n'

theorem Weaves.last (final : FinalGap scanner.rest) : scanner.Weaves scanner.rest [] where
  whole := rfl
  closed := final
  words := nofun
  lines before piece behind none := by simp at none

/-- A token in front of a woven text. -/
theorem Weaves.cons {gap first : List Char} {token : Token} {pieces : List Piece}
    (weaves : after.Weaves first pieces)
    (reads : scanner.Reads gap token.kind token.text.toList after.rest)
    (line : token.line = scanner.line + gap.count '\n') (afterLine : after.line = token.line) :
    scanner.Weaves gap (⟨token, first⟩ :: pieces) where
  whole := by rw [reads.whole, weaves.whole, weave]
  closed := ⟨reads.closed, weaves.closed⟩
  words := List.forall_mem_cons.mpr ⟨reads.word, weaves.words⟩
  lines := by
    intro before piece behind same
    cases before with
    | nil =>
        cases same
        exact line
    | cons head before =>
        obtain ⟨rfl, others⟩ := List.cons.inj same
        rw [weaves.lines before piece behind others, afterLine, line, weave, List.count_append,
          List.count_append, List.count_eq_zero.mpr reads.word.oneLine, Nat.zero_add, Nat.add_assoc]

/-- A scan that comes to the end of its text has woven it, and stays at the end. -/
theorem scanTokens_weaves {count : Nat} (enough : scanner.rest.length < count) {line : Nat}
    (ends : (scanner.scanTokens count).ending = .endOfText line) :
    line = scanner.line + scanner.rest.count '\n' ∧
      (scanner.scanTokens count).scanner.next =
        (.ok (.endOfText line), (scanner.scanTokens count).scanner) ∧
      ∃ first pieces, (scanner.scanTokens count).tokens = pieces.map Piece.token ∧
        scanner.Weaves first pieces := by
  induction count generalizing scanner with
  | zero => cases enough
  | succ count inductionHypothesis =>
      cases scanner.finds with
      | fault step =>
          rw [scanTokens, step] at ends
          cases ends
      | ended empty final lineEnd step =>
          have scan : scanner.scanTokens (count + 1) =
              ⟨[], .endOfText scanner.skipGap.line, scanner.skipGap⟩ := by
            rw [scanTokens, step]
            rfl
          rw [scan] at ends ⊢
          cases ends
          refine ⟨lineEnd, ?_, scanner.rest, [], rfl, .last final⟩
          have stays : scanner.skipGap.skipGap = scanner.skipGap :=
            skipGap_of_settled scanner.skipGap_settled
          rw [next, stays]
          exact step
      | @token gap token after reads step tokenLine afterLine =>
          have word := reads.word
          have scan : scanner.scanTokens (count + 1) =
              { after.scanTokens count with tokens := token :: (after.scanTokens count).tokens } := by
            rw [scanTokens, step]
            simp only [word.inside, Bool.false_eq_true, if_false]
          have less : after.rest.length < count := by
            have some := List.length_pos_iff.mpr word.nonempty
            have sizes := congrArg List.length reads.whole
            rw [List.length_append, List.length_append] at sizes
            omega
          rw [scan] at ends ⊢
          obtain ⟨last, stays, first, pieces, tokens, weaves⟩ := inductionHypothesis less ends
          refine ⟨?_, stays, gap, ⟨token, first⟩ :: pieces, ?_,
            weaves.cons reads tokenLine afterLine⟩
          · rw [last, afterLine, tokenLine, reads.whole, List.count_append, List.count_append,
              List.count_eq_zero.mpr word.oneLine, Nat.zero_add, Nat.add_assoc]
          · exact congrArg (token :: ·) tokens

theorem tokenize_weaves {text : String} {tokens : List Token}
    (result : (ofText text).tokenize = (.ok tokens, after)) :
    ∃ first pieces,
      tokens = pieces.map Piece.token ++ [.endOfText (1 + text.toList.count '\n')] ∧
      (ofText text).Weaves first pieces ∧
      after.next = (.ok (.endOfText (1 + text.toList.count '\n')), after) := by
  rw [tokenize, scan] at result
  cases ends : ((ofText text).scanTokens ((ofText text).rest.length + 1)).ending with
  | fault fault =>
      rw [ends] at result
      cases result
  | endOfText line =>
      obtain ⟨rfl, stays, first, pieces, found, weaves⟩ :=
        scanTokens_weaves (Nat.lt_succ_self _) ends
      rw [ends, found] at result
      cases result
      exact ⟨first, pieces, rfl, weaves, stays⟩

end Scanner

/-- The tokens of a text that is scanned up to its end are woven into the text by gaps, all of which
but the last one are closed; each of them has a character and stays on one line, which is the line on
which it starts. The end of the text comes once, last, and again whenever the scanner goes on. -/
theorem tokenize_lossless (text : String) (tokens : List Token) (scanner : Scanner)
    (result : (Scanner.ofText text).tokenize = (.ok tokens, scanner)) :
    ∃ first pieces,
      tokens = pieces.map Piece.token ++ [.endOfText (1 + text.toList.count '\n')] ∧
      text.toList = weave first pieces ∧ GapsClosed first pieces ∧
      (∀ piece ∈ pieces, piece.token.kind.isEndOfText = false ∧ piece.token.text ≠ "" ∧
        '\n' ∉ piece.token.text.toList) ∧
      (∀ before piece behind, pieces = before ++ piece :: behind →
        piece.token.line = 1 + (weave first before).count '\n') ∧
      scanner.next = (.ok (.endOfText (1 + text.toList.count '\n')), scanner) := by
  obtain ⟨first, pieces, rfl, weaves, stays⟩ := Scanner.tokenize_weaves result
  refine ⟨first, pieces, rfl, weaves.whole, weaves.closed, fun piece inside => ?_, weaves.lines, stays⟩
  have word := weaves.words piece inside
  refine ⟨word.inside, fun empty => word.nonempty ?_, word.oneLine⟩
  rw [empty]
  rfl

/-- A gap of comments at the start, a quote in a comment, a doubled quote in a string literal, and a
comment at the end that nothing closes. -/
theorem tokenize_lossless_comments :
    (Scanner.ofText "(*)*) x\x7b'\x7d\n:='it''s'(* open").tokenize =
        (.ok [⟨.identifier, "x", 1⟩, ⟨.symbol .colonEquals, ":=", 2⟩,
          ⟨.string "it's", "'it''s'", 2⟩, .endOfText 2], ⟨[], 27, 2⟩) ∧
      ∃ first pieces,
        [⟨.identifier, "x", 1⟩, ⟨.symbol .colonEquals, ":=", 2⟩, ⟨.string "it's", "'it''s'", 2⟩,
          .endOfText 2] = pieces.map Piece.token ++ [Token.endOfText 2] ∧
        "(*)*) x\x7b'\x7d\n:='it''s'(* open".toList = weave first pieces ∧
        GapsClosed first pieces := by
  have result : (Scanner.ofText "(*)*) x\x7b'\x7d\n:='it''s'(* open").tokenize =
      (.ok [⟨.identifier, "x", 1⟩, ⟨.symbol .colonEquals, ":=", 2⟩,
        ⟨.string "it's", "'it''s'", 2⟩, .endOfText 2], ⟨[], 27, 2⟩) := by rfl
  obtain ⟨first, pieces, tokens, whole, closed, _⟩ := tokenize_lossless _ _ _ result
  exact ⟨result, first, pieces, tokens, whole, closed⟩

end MiniPascal
