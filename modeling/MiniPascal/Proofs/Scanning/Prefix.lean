/-
This file shows that the tokens of a text up to a point do not depend on what comes behind the
point.
-/

import MiniPascal.Proofs.Scanning.Pieces
import MiniPascal.Scanner

namespace MiniPascal.Scanner

open Lexeme

/-- The scanner before the same text with more behind it. -/
def followedBy (scanner : Scanner) (more : List Char) : Scanner :=
  { scanner with rest := scanner.rest ++ more }

variable {scanner : Scanner} {rest other : List Char}

@[simp] theorem followedBy_rest (more : List Char) :
    (scanner.followedBy more).rest = scanner.rest ++ more := rfl

theorem skip_followedBy {count : Nat} (within : count ≤ scanner.rest.length) (more : List Char) :
    (scanner.followedBy more).skip count = (scanner.skip count).followedBy more := by
  simp only [followedBy, skip, List.drop_append_of_le_length within,
    List.take_append_of_le_length within]

theorem length_skip (scanner : Scanner) (count : Nat) :
    (scanner.skip count).rest.length = scanner.rest.length - count := by
  simp [skip]

/-- No blank and no comment starts at the scanner. -/
structure Settled (scanner : Scanner) : Prop where
  noBlank : scanner.current?.any Text.isBlank = false
  noComment : startsComment scanner.rest = false

theorem skipGaps_of_settled (settled : scanner.Settled) (count : Nat) :
    scanner.skipGaps count = scanner := by
  cases count with
  | zero => rfl
  | succ count => simp [skipGaps, settled.noBlank, settled.noComment]

/-- A scanner that has passed the gap before a token stays there. -/
theorem skipGaps_add {count : Nat} (settled : (scanner.skipGaps count).Settled) (more : Nat) :
    scanner.skipGaps (count + more) = scanner.skipGaps count := by
  induction count generalizing scanner with
  | zero =>
      rw [Nat.zero_add]
      exact skipGaps_of_settled settled more
  | succ count inductionHypothesis =>
      rw [Nat.add_right_comm]
      simp only [skipGaps] at settled ⊢
      split at settled
      case isTrue blank =>
        rw [if_pos blank, if_pos blank]
        exact inductionHypothesis settled
      case isFalse noBlank =>
        rw [if_neg noBlank, if_neg noBlank]
        split at settled
        case isTrue comment =>
          rw [if_pos comment, if_pos comment]
          exact inductionHypothesis settled
        case isFalse noComment => rw [if_neg noComment, if_neg noComment]

/-- A blank has at least one character, and so has a comment. -/
theorem blankLength_pos (blank : scanner.current?.any Text.isBlank = true) :
    0 < blankLength scanner.rest := by
  obtain ⟨text, position, line⟩ := scanner
  cases text with
  | nil => simp [current?] at blank
  | cons first text =>
      have isBlank : Text.isBlank first = true := by simpa [current?] using blank
      simp [blankLength, isBlank]

theorem commentLength_pos {text : List Char} (comment : startsComment text = true) :
    0 < commentLength text := by
  cases text with
  | nil => cases comment
  | cons first text =>
      rw [commentLength_cons]
      split <;> omega

/-- Blanks and comments are passed by a number of characters. -/
theorem skipGaps_eq_skip (count : Nat) (scanner : Scanner) :
    ∃ length, scanner.skipGaps count = scanner.skip length := by
  induction count generalizing scanner with
  | zero => exact ⟨0, (skip_zero scanner).symm⟩
  | succ count inductionHypothesis =>
      rw [skipGaps]
      split
      case isTrue =>
        obtain ⟨length, others⟩ := inductionHypothesis scanner.skipBlanks
        exact ⟨_, others.trans (skip_skip _ _ _)⟩
      case isFalse =>
        split
        case isTrue =>
          obtain ⟨length, others⟩ := inductionHypothesis scanner.skipComment
          exact ⟨_, others.trans (skip_skip _ _ _)⟩
        case isFalse => exact ⟨0, (skip_zero scanner).symm⟩

theorem skipGaps_suffix (count : Nat) (scanner : Scanner) :
    (scanner.skipGaps count).rest <:+ scanner.rest := by
  obtain ⟨length, passed⟩ := skipGaps_eq_skip count scanner
  rw [passed]
  exact List.drop_suffix _ _

theorem length_skipGaps_le (count : Nat) (scanner : Scanner) :
    (scanner.skipGaps count).rest.length ≤ scanner.rest.length :=
  (skipGaps_suffix count scanner).length_le

/-- So many rounds as there are characters pass every gap. -/
theorem skipGaps_settled {count : Nat} (enough : scanner.rest.length ≤ count) :
    (scanner.skipGaps count).Settled := by
  induction count generalizing scanner with
  | zero =>
      obtain ⟨text, position, line⟩ := scanner
      obtain rfl := List.length_eq_zero_iff.mp (Nat.le_zero.mp enough)
      exact ⟨rfl, rfl⟩
  | succ count inductionHypothesis =>
      simp only [skipGaps]
      split
      case isTrue blank =>
        have pos := blankLength_pos blank
        apply inductionHypothesis
        rw [skipBlanks, length_skip]
        omega
      case isFalse noBlank =>
        split
        case isTrue comment =>
          have pos := commentLength_pos comment
          apply inductionHypothesis
          rw [skipComment, length_skip]
          omega
        case isFalse noComment => exact ⟨by simpa using noBlank, by simpa using noComment⟩

theorem skipGap_settled (scanner : Scanner) : scanner.skipGap.Settled :=
  skipGaps_settled (Nat.le_refl _)

/-- Any number of rounds that passes the gap does what all of them do. -/
theorem skipGap_eq_of_settled {count : Nat} (settled : (scanner.skipGaps count).Settled) :
    scanner.skipGap = scanner.skipGaps count := by
  rw [skipGap]
  rcases Nat.le_total count scanner.rest.length with less | more
  · obtain ⟨difference, same⟩ := Nat.exists_eq_add_of_le less
    rw [same, skipGaps_add settled]
  · obtain ⟨difference, same⟩ := Nat.exists_eq_add_of_le more
    rw [same, skipGaps_add (skipGap_settled scanner)]

/-- The scanner has two characters before it, or stands at the point that closes the text. -/
def Sees (scanner : Scanner) : Prop := 2 ≤ scanner.rest.length ∨ scanner.rest = ['.']

theorem startsComment_followedBy (sees : scanner.Sees) :
    startsComment (scanner.followedBy other).rest = startsComment scanner.rest := by
  rcases sees with long | point
  · exact startsComment_front long
  · rw [followedBy_rest, point]
    rfl

theorem current?_followedBy (sees : scanner.Sees) :
    (scanner.followedBy other).current? = scanner.current? := by
  obtain ⟨text, position, line⟩ := scanner
  cases text with
  | nil => rcases sees with long | point <;> simp_all
  | cons first text => rfl

theorem followedBy_injective {first second : Scanner} {more : List Char}
    (same : first.followedBy more = second.followedBy more) : first = second := by
  obtain ⟨firstRest, position, line⟩ := first
  obtain ⟨secondRest, _, _⟩ := second
  simp only [followedBy, mk.injEq] at same
  obtain ⟨rests, rfl, rfl⟩ := same
  rw [List.append_cancel_right rests]

theorem Sees.length_pos (sees : scanner.Sees) : 0 < scanner.rest.length := by
  rcases sees with long | point
  · omega
  · simp [point]

/-- A piece of a gap that a scanner passes lies in the text that is not replaced. -/
theorem piece_within {count length : Nat} {after : Scanner} (sees : after.Sees)
    (skips : ((scanner.followedBy rest).skip length).skipGaps count = after.followedBy rest) :
    length < scanner.rest.length := by
  have less := length_skipGaps_le count ((scanner.followedBy rest).skip length)
  have pos := sees.length_pos
  rw [skips, length_skip, followedBy_rest, followedBy_rest, List.length_append,
    List.length_append] at less
  omega

theorem skipBlanks_followedBy
    (within : blankLength (scanner.followedBy rest).rest < scanner.rest.length) (other : List Char) :
    (scanner.followedBy other).skipBlanks = scanner.skipBlanks.followedBy other := by
  have front (more : List Char) : blankLength (scanner.rest ++ more) = blankLength scanner.rest :=
    blankLength_front within
  rw [followedBy_rest, front] at within
  rw [skipBlanks, followedBy_rest, front, skip_followedBy (Nat.le_of_lt within), skipBlanks]

theorem skipComment_followedBy
    (within : commentLength (scanner.followedBy rest).rest < scanner.rest.length)
    (other : List Char) :
    (scanner.followedBy other).skipComment = scanner.skipComment.followedBy other := by
  have front (more : List Char) :
      commentLength (scanner.rest ++ more) = commentLength scanner.rest :=
    commentLength_front within
  rw [followedBy_rest, front] at within
  rw [skipComment, followedBy_rest, front, skip_followedBy (Nat.le_of_lt within), skipComment]

/-- The gap before a token is passed in the same way whatever comes behind the token. -/
theorem skipGaps_followedBy {count : Nat} {after : Scanner}
    (skips : (scanner.followedBy rest).skipGaps count = after.followedBy rest)
    (sees : after.Sees) (other : List Char) :
    (scanner.followedBy other).skipGaps count = after.followedBy other := by
  induction count generalizing scanner with
  | zero =>
      obtain rfl := followedBy_injective skips
      rfl
  | succ count inductionHypothesis =>
      simp only [skipGaps] at skips ⊢
      split at skips
      case isTrue blank =>
        have pos := blankLength_pos blank
        have within := piece_within sees skips
        have scannerSees : scanner.Sees := .inl (by omega)
        rw [current?_followedBy scannerSees] at blank ⊢
        rw [if_pos blank, skipBlanks_followedBy within]
        rw [skipBlanks_followedBy within] at skips
        exact inductionHypothesis skips
      case isFalse noBlank =>
        split at skips
        case isTrue comment =>
          have pos := commentLength_pos comment
          have within := piece_within sees skips
          have scannerSees : scanner.Sees := .inl (by omega)
          rw [current?_followedBy scannerSees] at noBlank ⊢
          rw [startsComment_followedBy scannerSees] at comment ⊢
          rw [if_neg noBlank, if_pos comment, skipComment_followedBy within]
          rw [skipComment_followedBy within] at skips
          exact inductionHypothesis skips
        case isFalse noComment =>
          obtain rfl := followedBy_injective skips
          rw [current?_followedBy sees] at noBlank ⊢
          rw [startsComment_followedBy sees] at noComment ⊢
          rw [if_neg noBlank, if_neg noComment]

theorem Settled.followedBy (settled : (scanner.followedBy rest).Settled) (sees : scanner.Sees)
    (other : List Char) : (scanner.followedBy other).Settled where
  noBlank := by
    rw [current?_followedBy sees, ← settled.noBlank, current?_followedBy sees]
  noComment := by
    rw [startsComment_followedBy sees, ← settled.noComment, startsComment_followedBy sees]

theorem skipGap_followedBy {after : Scanner}
    (skips : (scanner.followedBy rest).skipGap = after.followedBy rest) (sees : after.Sees)
    (other : List Char) : (scanner.followedBy other).skipGap = after.followedBy other := by
  have settled := skipGap_settled (scanner.followedBy rest)
  rw [skips] at settled
  have same := skipGaps_followedBy skips sees other
  rw [skipGap_eq_of_settled (by rw [same]; exact settled.followedBy sees other), same]

/-- The token at a scanner is a piece of its text. -/
theorem token_eq_take (nonempty : scanner.rest ≠ []) :
    scanner.token = scanner.take (piece scanner.rest).1 (piece scanner.rest).2 := by
  obtain ⟨text, position, line⟩ := scanner
  cases text with
  | nil => exact absurd rfl nonempty
  | cons first behind =>
      simp only [token, piece]
      cases symbol? (first :: behind) with
      | some mark => rfl
      | none =>
          by_cases quote : first = '\''
          · simp only [if_pos quote]
            rfl
          · by_cases digit : Text.isDigit first = true
            · simp only [if_neg quote, if_pos digit]
              rfl
            · by_cases letter : Text.isLetter first = true
              · simp only [if_neg quote, if_neg digit, if_pos letter]
                rfl
              · simp only [if_neg quote, if_neg digit, if_neg letter]

theorem take_followedBy {length : Nat} {kind : Except Fault Kind}
    (within : length ≤ scanner.rest.length) (more : List Char) :
    (scanner.followedBy more).take length kind =
      ((scanner.take length kind).1, (scanner.take length kind).2.followedBy more) := by
  rw [take, take, skip_followedBy within, followedBy_rest, List.take_append_of_le_length within]
  rfl

/-- A piece that lies in the text before the rest is the same before any other rest. -/
theorem take_of_followedBy {length : Nat} {kind : Except Fault Kind} {token : Except Fault Token}
    {after : Scanner}
    (takes : (scanner.followedBy rest).take length kind = (token, after.followedBy rest))
    (within : length ≤ scanner.rest.length) (other : List Char) :
    (scanner.followedBy other).take length kind = (token, after.followedBy other) := by
  rw [take_followedBy within] at takes ⊢
  rw [congrArg Prod.fst takes, followedBy_injective (congrArg Prod.snd takes)]

/-- Every token but the end of the text has a character. -/
theorem length_next_lt {token : Token} {after : Scanner} (step : scanner.next = (.ok token, after))
    (inside : token.kind.isEndOfText = false) : after.rest.length < scanner.rest.length := by
  have gap := length_skipGaps_le scanner.rest.length scanner
  rw [next] at step
  by_cases empty : scanner.skipGap.rest = []
  · simp only [Scanner.token, empty] at step
    cases step
    cases inside
  · rw [token_eq_take empty] at step
    have same : scanner.skipGap.skip (piece scanner.skipGap.rest).1 = after := congrArg Prod.snd step
    have pos := piece_pos empty
    have some := List.length_pos_iff.mpr empty
    rw [← same, length_skip]
    rw [skipGap] at *
    omega

/-- A scanner whose text ends with the given rest. -/
theorem exists_followedBy {scanner : Scanner} (suffix : rest <:+ scanner.rest) :
    ∃ front : Scanner, scanner = front.followedBy rest := by
  obtain ⟨text, position, line⟩ := scanner
  obtain ⟨front, rfl⟩ := suffix
  exact ⟨⟨front, position, line⟩, rfl⟩

/-- A faulty piece is no token. -/
theorem take_ok {length : Nat} {kind : Except Fault Kind} {token : Token} {after : Scanner}
    (takes : scanner.take length kind = (.ok token, after)) : kind = .ok token.kind := by
  cases kind with
  | error fault => cases congrArg Prod.fst takes
  | ok kind =>
      have same := Except.ok.inj (congrArg Prod.fst takes)
      rw [← same]

/-- A step passes a gap and then takes a piece of the text. -/
theorem next_parts {token : Token} {after : Scanner}
    (step : (scanner.followedBy rest).next = (.ok token, after.followedBy rest))
    (inside : token.kind.isEndOfText = false) :
    ∃ gap : Scanner, ∃ length : Nat, (scanner.followedBy rest).skipGap = gap.followedBy rest ∧
      gap.rest <:+ scanner.rest ∧ gap.rest ≠ [] ∧ gap.rest.drop length = after.rest ∧
      0 < length ∧ piece (gap.rest ++ rest) = (length, .ok token.kind) ∧
      (gap.followedBy rest).take length (.ok token.kind) = (.ok token, after.followedBy rest) := by
  have suffix := skipGaps_suffix (scanner.followedBy rest).rest.length (scanner.followedBy rest)
  rw [next] at step
  have nonempty : (scanner.followedBy rest).skipGap.rest ≠ [] := by
    intro empty
    simp only [Scanner.token, empty] at step
    have same := Except.ok.inj (congrArg Prod.fst step)
    rw [← same] at inside
    cases inside
  rw [token_eq_take nonempty] at step
  have pos := piece_pos nonempty
  have left := congrArg Scanner.rest (congrArg Prod.snd step)
  have behind : rest <:+ (scanner.followedBy rest).skipGap.rest := by
    have dropped := List.drop_suffix (piece (scanner.followedBy rest).skipGap.rest).1
      (scanner.followedBy rest).skipGap.rest
    rw [show List.drop _ _ = after.rest ++ rest from left] at dropped
    exact (List.suffix_append _ _).trans dropped
  obtain ⟨gap, skips⟩ := exists_followedBy behind
  rw [skips, followedBy_rest] at step nonempty pos left
  rw [← skipGap, skips, followedBy_rest, followedBy_rest] at suffix
  have kind := take_ok step
  change (gap.rest ++ rest).drop (piece (gap.rest ++ rest)).1 = after.rest ++ rest at left
  have sizes := congrArg List.length left
  rw [List.length_drop, List.length_append, List.length_append] at sizes
  have some : 0 < (gap.rest ++ rest).length := List.length_pos_iff.mpr nonempty
  rw [List.length_append] at some
  refine ⟨gap, (piece (gap.rest ++ rest)).1, skips, ?_, ?_, ?_, pos, Prod.ext rfl kind, ?_⟩
  · obtain ⟨before, same⟩ := suffix
    rw [← List.append_assoc] at same
    exact ⟨before, List.append_cancel_right same⟩
  · intro empty
    rw [empty, List.length_nil] at sizes some
    rw [empty] at pos
    omega
  · by_cases within : (piece (gap.rest ++ rest)).1 ≤ gap.rest.length
    · rw [List.drop_append_of_le_length within] at left
      exact List.append_cancel_right left
    · have empty : after.rest = [] := List.length_eq_zero_iff.mp (by omega)
      rw [empty, List.drop_eq_nil_iff]
      omega
  · rw [← kind]
    exact step

/-- A token before another character than the point is the same whatever comes behind the point. -/
theorem next_followedBy {token : Token} {after : Scanner}
    (step : (scanner.followedBy rest).next = (.ok token, after.followedBy rest))
    (inside : token.kind.isEndOfText = false) (pointed : Pointed after.rest)
    (apart : 2 ≤ after.rest.length ∨ ∃ word, token.kind = .keyword word) :
    Pointed scanner.rest ∧
      ∀ other, (scanner.followedBy other).next = (.ok token, after.followedBy other) := by
  obtain ⟨gap, length, skips, gapSuffix, -, left, pos, found, takes⟩ := next_parts step inside
  have afterLength := List.length_pos_iff.mpr pointed.ne_nil
  have parts := congrArg List.length left
  rw [List.length_drop] at parts
  have gapPointed : Pointed gap.rest := by
    rw [← left] at pointed
    exact pointed.of_longer (List.drop_suffix _ _)
  refine ⟨gapPointed.of_longer gapSuffix, fun other => ?_⟩
  have sees : gap.Sees := .inl (by omega)
  have same : piece (gap.rest ++ other) = (length, .ok token.kind) :=
    piece_front gapPointed found (by omega) (apart.imp_left fun long => by omega)
  have nonempty : (gap.followedBy other).rest ≠ [] := by simp [gapPointed.ne_nil]
  rw [next, skipGap_followedBy skips sees, token_eq_take nonempty, followedBy_rest, same]
  exact take_of_followedBy takes (by omega) other

/-- The point that closes the text is read whatever comes behind it. -/
theorem next_point {token : Token} {after : Scanner}
    (step : (scanner.followedBy rest).next = (.ok token, after.followedBy rest))
    (kind : token.kind = .symbol .period) (empty : after.rest = []) :
    Pointed scanner.rest ∧
      ∀ other, (scanner.followedBy other).next = (.ok token, after.followedBy other) := by
  obtain ⟨gap, length, skips, gapSuffix, some, left, -, found, takes⟩ :=
    next_parts step (by rw [kind]; rfl)
  rw [kind] at found takes
  obtain ⟨rfl, behind, same⟩ := piece_period found
  have point : gap.rest = ['.'] := by
    rw [empty] at left
    cases gapRest : gap.rest with
    | nil => exact absurd gapRest some
    | cons first others =>
        rw [gapRest] at left same
        rw [(List.cons.inj same).1, show others = [] from left]
  have pointed : Pointed gap.rest := by
    rw [point]
    rfl
  refine ⟨pointed.of_longer gapSuffix, fun other => ?_⟩
  have nonempty : (gap.followedBy other).rest ≠ [] := by simp [point]
  rw [next, skipGap_followedBy skips (.inr point), token_eq_take nonempty, followedBy_rest, point]
  exact take_of_followedBy takes (by simp [point]) other

end MiniPascal.Scanner
