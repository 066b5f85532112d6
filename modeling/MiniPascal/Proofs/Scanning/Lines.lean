/-
This file places the tokens of a text: each of them is on the line on which its spelling starts, and
none is on an earlier line than those in front of it. The end of the text is counted as a token.
-/

import MiniPascal.Proofs.Scanning.Lossless

namespace MiniPascal

/-- The token that stands for the end of the text, if the tokens come to it. -/
def Ending.tokens : Ending → List Token
  | .endOfText line => [.endOfText line]
  | .fault _ => []

/-- All tokens that a scan finds, with the end of the text. -/
def Scan.allTokens (scan : Scan) : List Token := scan.tokens ++ scan.ending.tokens

/-- All tokens of a text, with its end when no fault comes before it. -/
def tokensOf (text : String) : List Token := (Scanner.ofText text).scan.allTokens

namespace Scanner

variable {scanner after : Scanner} {token : Token}

/-- A token stands before a scanner, on the line on which its spelling starts. -/
structure Shows (scanner : Scanner) (token : Token) : Prop where
  placed : ∃ front back, scanner.rest = front ++ (token.text.toList ++ back) ∧
    token.line = scanner.line + front.count '\n'
  oneLine : '\n' ∉ token.text.toList

/-- A token is on one of the lines before its scanner. -/
theorem Shows.bounds (shows : scanner.Shows token) :
    scanner.line ≤ token.line ∧ token.line ≤ scanner.line + scanner.rest.count '\n' := by
  obtain ⟨front, back, whole, line⟩ := shows.placed
  rw [line, whole, List.count_append]
  omega

section Next

variable {gap : List Char}

theorem Reads.shows (reads : scanner.Reads gap token.kind token.text.toList after.rest)
    (line : token.line = scanner.line + gap.count '\n') : scanner.Shows token :=
  ⟨⟨gap, after.rest, reads.whole, line⟩, reads.word.oneLine⟩

/-- What stands behind the next token stands before the scanner. -/
theorem Reads.shows_behind (reads : scanner.Reads gap token.kind token.text.toList after.rest)
    (line : after.line = scanner.line + gap.count '\n') {other : Token}
    (shows : after.Shows other) : scanner.Shows other := by
  obtain ⟨⟨front, back, whole, otherLine⟩, oneLine⟩ := shows
  refine ⟨⟨gap ++ (token.text.toList ++ front), back, ?_, ?_⟩, oneLine⟩
  · simp only [reads.whole, whole, List.append_assoc]
  · rw [otherLine, line, List.count_append, List.count_append,
      List.count_eq_zero.mpr reads.word.oneLine, Nat.zero_add, Nat.add_assoc]

end Next

theorem shows_end (scanner : Scanner) :
    scanner.Shows (.endOfText (scanner.line + scanner.rest.count '\n')) :=
  ⟨⟨scanner.rest, [], by simp [Token.endOfText], rfl⟩, by simp [Token.endOfText]⟩

theorem shows_here (scanner : Scanner) : scanner.Shows (.endOfText scanner.line) :=
  ⟨⟨[], scanner.rest, by simp [Token.endOfText], rfl⟩, by simp [Token.endOfText]⟩

/-- The tokens of a scan stand before the scanner, in the order of their lines. -/
theorem scanTokens_shows (scanner : Scanner) (count : Nat) :
    (∀ token ∈ (scanner.scanTokens count).allTokens, scanner.Shows token) ∧
      (scanner.scanTokens count).allTokens.Pairwise (·.line ≤ ·.line) := by
  induction count generalizing scanner with
  | zero => exact ⟨List.forall_mem_singleton.mpr scanner.shows_here, List.pairwise_singleton _ _⟩
  | succ count inductionHypothesis =>
      rw [scanTokens]
      cases scanner.finds with
      | ended empty final line step =>
          rw [step, line]
          exact ⟨List.forall_mem_singleton.mpr scanner.shows_end, List.pairwise_singleton _ _⟩
      | fault step =>
          rw [step]
          exact ⟨List.forall_mem_nil _, .nil⟩
      | @token gap token after reads step tokenLine afterLine =>
          rw [step]
          simp only [reads.word.inside, Bool.false_eq_true, if_false]
          obtain ⟨stand, sorted⟩ := inductionHypothesis after
          refine ⟨List.forall_mem_cons.mpr ⟨reads.shows tokenLine, fun other inside => ?_⟩,
            .cons (fun other inside => ?_) sorted⟩
          · exact reads.shows_behind (afterLine.trans tokenLine) (stand other inside)
          · exact afterLine ▸ (stand other inside).bounds.1

end Scanner

variable {text : String} {token : Token}

/-- A token of a text has its spelling in the text, on the line that it names. -/
theorem placed_of_mem_tokensOf (inside : token ∈ tokensOf text) :
    ∃ front back, text.toList = front ++ (token.text.toList ++ back) ∧
      token.line = 1 + front.count '\n' :=
  ((Scanner.scanTokens_shows _ _).1 token inside).placed

theorem lineEnd_not_mem_of_mem_tokensOf (inside : token ∈ tokensOf text) :
    '\n' ∉ token.text.toList :=
  ((Scanner.scanTokens_shows _ _).1 token inside).oneLine

theorem line_bounds_of_mem_tokensOf (inside : token ∈ tokensOf text) :
    1 ≤ token.line ∧ token.line ≤ 1 + text.toList.count '\n' :=
  ((Scanner.scanTokens_shows _ _).1 token inside).bounds

theorem tokensOf_sorted (text : String) : (tokensOf text).Pairwise (·.line ≤ ·.line) :=
  (Scanner.scanTokens_shows _ _).2

end MiniPascal
