/-
This file says what may stand between two tokens, and shows that a scanner passes exactly that and
that nothing in a token goes on into it.
-/

import MiniPascal.Proofs.Scanning.Prefix

namespace MiniPascal

namespace Text

/-- The code points of the given ranges. -/
def codes (ranges : List (Nat × Nat)) : List Nat :=
  ranges.flatMap fun range => List.range' range.1 (range.2 + 1 - range.1)

theorem mem_codes_of_inRanges {ranges : List (Nat × Nat)} {code : Nat}
    (inside : inRanges ranges code = true) : code ∈ codes ranges := by
  obtain ⟨range, member, within⟩ := List.any_eq_true.mp inside
  obtain ⟨lower, upper⟩ := Bool.and_eq_true_iff.mp within
  refine List.mem_flatMap.mpr ⟨range, member, List.mem_range'_1.mpr ?_⟩
  have lower := of_decide_eq_true lower
  have upper := of_decide_eq_true upper
  omega

end Text

namespace Lexeme

open MiniPascal.Text

/-- A gap of blanks and comments. A comment goes up to the first character or pair of characters
that closes it. -/
inductive ClosedGap : List Char → Prop where
  | nil : ClosedGap []
  | blank {character : Char} {gap : List Char} (blank : isBlank character = true)
      (closed : ClosedGap gap) : ClosedGap (character :: gap)
  | braces {body gap : List Char} (inside : '\x7d' ∉ body) (closed : ClosedGap gap) :
      ClosedGap ('\x7b' :: (body ++ '\x7d' :: gap))
  | stars {body gap : List Char} (inside : ¬['*', ')'] <:+: body) (closed : ClosedGap gap) :
      ClosedGap ('(' :: '*' :: (body ++ '*' :: ')' :: gap))

/-- A comment that nothing closes. -/
inductive OpenComment : List Char → Prop where
  | brace {body : List Char} (inside : '\x7d' ∉ body) : OpenComment ('\x7b' :: body)
  | star {body : List Char} (inside : ¬['*', ')'] <:+: body) : OpenComment ('(' :: '*' :: body)

/-- The last gap of a text may end with a comment that nothing closes. -/
inductive FinalGap : List Char → Prop where
  | closed {gap : List Char} (closed : ClosedGap gap) : FinalGap gap
  | opened {gap comment : List Char} (closed : ClosedGap gap) (opened : OpenComment comment) :
      FinalGap (gap ++ comment)

variable {text gap body rest : List Char}

theorem ClosedGap.append (closed : ClosedGap gap) {more : List Char} (behind : ClosedGap more) :
    ClosedGap (gap ++ more) := by
  induction closed with
  | nil => exact behind
  | blank blank _ inductionHypothesis => exact .blank blank inductionHypothesis
  | braces inside _ inductionHypothesis =>
      rw [List.cons_append, List.append_assoc]
      exact .braces inside inductionHypothesis
  | stars inside _ inductionHypothesis =>
      rw [List.cons_append, List.cons_append, List.append_assoc]
      exact .stars inside inductionHypothesis

theorem FinalGap.prepend (closed : ClosedGap gap) {more : List Char} (final : FinalGap more) :
    FinalGap (gap ++ more) := by
  cases final with
  | closed behind => exact .closed (closed.append behind)
  | opened behind opened =>
      rw [← List.append_assoc]
      exact .opened (closed.append behind) opened

/-- Blanks alone are a gap. -/
theorem ClosedGap.ofBlanks (text : List Char) : ClosedGap (text.takeWhile isBlank) := by
  induction text with
  | nil => exact .nil
  | cons character text inductionHypothesis =>
      rw [List.takeWhile_cons]
      split
      case isTrue blank => exact .blank blank inductionHypothesis
      case isFalse => exact .nil

/-- A comment ends with the first pair that closes it. -/
theorem starCommentLength_closed (inside : ¬['*', ')'] <:+: body) (rest : List Char) :
    starCommentLength (body ++ '*' :: ')' :: rest) = body.length + 2 := by
  induction body with
  | nil => rfl
  | cons first body inductionHypothesis =>
      have others := inductionHypothesis fun closes => inside (List.infix_cons closes)
      cases body with
      | nil =>
          simp only [List.cons_append, List.nil_append, starCommentLength_cons_cons] at others ⊢
          rw [if_neg fun closes => absurd closes.2 (by decide)]
          rfl
      | cons second body =>
          have goesOn : ¬(first = '*' ∧ second = ')') := by
            rintro ⟨rfl, rfl⟩
            exact inside ⟨[], body, rfl⟩
          simp only [List.cons_append, List.length_cons] at others ⊢
          rw [starCommentLength_cons_cons, if_neg goesOn, others]

/-- Without such a pair it goes up to the end of the text. -/
theorem starCommentLength_open (inside : ¬['*', ')'] <:+: body) :
    starCommentLength body = body.length := by
  fun_induction starCommentLength body with
  | case1 => rfl
  | case2 rest => exact absurd ⟨[], rest, rfl⟩ inside
  | case3 first rest _ inductionHypothesis =>
      rw [inductionHypothesis fun closes => inside (List.infix_cons closes), List.length_cons]

/-- A text has a first pair that closes a comment, or none. -/
theorem closing_cases (text : List Char) :
    (∃ body rest, text = body ++ '*' :: ')' :: rest ∧ ¬['*', ')'] <:+: body) ∨
      ¬['*', ')'] <:+: text := by
  induction text with
  | nil => exact .inr (by simp)
  | cons first text inductionHypothesis =>
      by_cases here : ['*', ')'] <+: first :: text
      · obtain ⟨rest, same⟩ := here
        exact .inl ⟨[], rest, same.symm, by simp⟩
      · have later {back : List Char} (front : back <+: text) (inside : ¬['*', ')'] <:+: back) :
            ¬['*', ')'] <:+: first :: back := by
          rw [List.infix_cons_iff]
          rintro (closes | closes)
          · exact here (closes.trans ((List.prefix_cons_inj first).mpr front))
          · exact inside closes
        obtain ⟨body, rest, rfl, inside⟩ | inside := inductionHypothesis
        · exact .inl ⟨first :: body, rest, rfl, later (List.prefix_append _ _) inside⟩
        · exact .inr (later (List.prefix_refl _) inside)

theorem commentLength_braces (inside : '\x7d' ∉ body) (rest : List Char) :
    commentLength ('\x7b' :: (body ++ '\x7d' :: rest)) = body.length + 2 := by
  have taken : ('\x7b' :: (body ++ '\x7d' :: rest)).takeWhile (· ≠ '\x7d') = '\x7b' :: body := by
    rw [← List.cons_append, List.takeWhile_append_of_pos]
    · simp
    · intro character member
      rcases List.mem_cons.mp member with rfl | member
      · decide
      · exact decide_eq_true fun same => inside (same ▸ member)
  rw [commentLength_cons, if_pos rfl, taken, List.length_cons]

theorem commentLength_stars (inside : ¬['*', ')'] <:+: body) (rest : List Char) :
    commentLength ('(' :: '*' :: (body ++ '*' :: ')' :: rest)) = body.length + 4 := by
  rw [commentLength_cons, if_neg (by decide), List.drop_one, List.tail_cons,
    starCommentLength_closed inside, Nat.add_comm]

/-- An open comment takes the whole text. -/
theorem OpenComment.length_le (opened : OpenComment text) : text.length ≤ commentLength text := by
  cases opened with
  | brace inside =>
      rename_i body
      have taken : ('\x7b' :: body).takeWhile (· ≠ '\x7d') = '\x7b' :: body := by
        rw [List.takeWhile_eq_self_iff]
        intro character member
        rcases List.mem_cons.mp member with rfl | member
        · decide
        · exact decide_eq_true fun same => inside (same ▸ member)
      rw [commentLength_cons, if_pos rfl, taken]
      exact Nat.le_succ _
  | star inside =>
      rw [commentLength_cons, if_neg (by decide), List.drop_one, List.tail_cons,
        starCommentLength_open inside, List.length_cons, List.length_cons]
      omega

theorem OpenComment.startsComment (opened : OpenComment text) : startsComment text = true := by
  cases opened <;> rfl

/-- What starts a comment is a closed comment with a rest behind it, or an open one. -/
theorem comment_cases (starts : Lexeme.startsComment text = true) :
    (∃ comment rest, text = comment ++ rest ∧ commentLength text = comment.length ∧
        ClosedGap comment) ∨
      OpenComment text := by
  unfold Lexeme.startsComment at starts
  split at starts
  case h_1 behind =>
    by_cases closes : '\x7d' ∈ behind
    · obtain ⟨body, rest, rfl, inside⟩ := List.eq_append_cons_of_mem closes
      refine .inl ⟨'\x7b' :: (body ++ ['\x7d']), rest, by simp, ?_, .braces inside .nil⟩
      rw [commentLength_braces inside]
      simp
    · exact .inr (.brace closes)
  case h_2 behind =>
    obtain ⟨body, rest, rfl, inside⟩ | inside := closing_cases behind
    · refine .inl ⟨'(' :: '*' :: (body ++ ['*', ')']), rest, by simp, ?_, .stars inside .nil⟩
      rw [commentLength_stars inside]
      simp
    · exact .inr (.star inside)
  case h_3 => cases starts

/-- No blank continues a name. -/
theorem continuesName_of_isBlank {character : Char} (blank : isBlank character = true) :
    continuesName character = false := by
  have all : ∀ code ∈ codes blankRanges, continuesName (Char.ofNat code) = false := by
    decide +kernel
  have same := all character.toNat (mem_codes_of_inRanges blank)
  rwa [Char.ofNat_toNat] at same

/-- A gap starts with a blank, a brace or a parenthesis. -/
def startsGap (character : Char) : Bool :=
  isBlank character || character == '\x7b' || character == '('

theorem continuesName_of_startsGap {character : Char} (starts : startsGap character = true) :
    continuesName character = false := by
  simp only [startsGap, Bool.or_eq_true, beq_iff_eq] at starts
  rcases starts with (blank | rfl) | rfl
  · exact continuesName_of_isBlank blank
  · decide
  · decide

theorem isAlphanumeric_of_isDigit {character : Char} (digit : isDigit character = true) :
    isAlphanumeric character = true := by
  have ascii : character.toNat < 128 := by
    simp only [isDigit, Char.isDigit, Bool.and_eq_true, decide_eq_true_eq] at digit
    have upper : character.val.toNat ≤ 57 := digit.2
    exact Nat.lt_of_le_of_lt upper (by decide)
  rw [isAlphanumeric, if_pos ascii, Char.isAlphanum]
  simp only [isDigit] at digit
  rw [digit, Bool.or_true]

theorem isDigit_of_startsGap {character : Char} (starts : startsGap character = true) :
    isDigit character = false := by
  have noName := continuesName_of_startsGap starts
  rw [continuesName, Bool.or_eq_false_iff] at noName
  rw [Bool.eq_false_iff]
  intro digit
  rw [isAlphanumeric_of_isDigit digit] at noName
  cases noName.1

/-- Every character that a gap starts with. -/
theorem ClosedGap.startsGap {first : Char} (closed : ClosedGap (first :: gap)) :
    Lexeme.startsGap first = true := by
  cases closed with
  | blank blank => simp [Lexeme.startsGap, blank]
  | braces => rfl
  | stars => rfl

theorem FinalGap.startsGap {first : Char} (final : FinalGap (first :: gap)) :
    Lexeme.startsGap first = true := by
  generalize whole : first :: gap = text at final
  cases final with
  | closed closed =>
      rw [← whole] at closed
      exact closed.startsGap
  | @opened front comment closed opened =>
      cases front with
      | nil =>
          rw [List.nil_append] at whole
          cases opened <;> cases whole <;> rfl
      | cons character front =>
          cases whole
          exact closed.startsGap

/-- The rest of a text is empty or starts with a character of a gap. -/
def Apart (rest : List Char) : Prop := ∀ first, rest.head? = some first → Lexeme.startsGap first = true

/-- Something that no character of a gap has stops before such a rest. -/
theorem Apart.head {rest : List Char} (apart : Apart rest) {taken : Char → Bool}
    (none : ∀ character, Lexeme.startsGap character = true → taken character = false) :
    ∀ first, rest.head? = some first → taken first = false :=
  fun first head => none first (apart first head)

/-- A run of characters ends before another one. -/
theorem takeWhile_stops {taken : Char → Bool} {front back : List Char}
    (all : ∀ character ∈ front, taken character = true)
    (stops : ∀ first, back.head? = some first → taken first = false) :
    (front ++ back).takeWhile taken = front ∧ (front ++ back).dropWhile taken = back := by
  have none : back.takeWhile taken = [] ∧ back.dropWhile taken = back := by
    cases back with
    | nil => exact ⟨rfl, rfl⟩
    | cons first back =>
        have stop := stops first rfl
        rw [List.takeWhile_cons, List.dropWhile_cons, stop]
        exact ⟨rfl, rfl⟩
  rw [List.takeWhile_append_of_pos all, List.dropWhile_append_of_pos all, none.1, none.2,
    List.append_nil]
  exact ⟨rfl, rfl⟩

end Lexeme

namespace Scanner

open Lexeme

variable {scanner : Scanner} {gap rest : List Char}

/-- The first blanks of a gap are passed, and then the others. -/
theorem skipGap_of_blank (blank : scanner.current?.any Text.isBlank = true) :
    scanner.skipGap = scanner.skipBlanks.skipGap := by
  have pos := blankLength_pos blank
  have some : 0 < scanner.rest.length := by
    obtain ⟨text, position, line⟩ := scanner
    cases text with
    | nil => cases blank
    | cons => exact Nat.succ_pos _
  obtain ⟨count, same⟩ := Nat.exists_eq_succ_of_ne_zero (Nat.pos_iff_ne_zero.mp some)
  have step : scanner.skipGap = scanner.skipBlanks.skipGaps count := by
    rw [skipGap, same, skipGaps, if_pos blank]
  have settled : (scanner.skipBlanks.skipGaps count).Settled := step ▸ scanner.skipGap_settled
  rw [step, skipGap_eq_of_settled settled]

theorem skipGap_of_comment (comment : startsComment scanner.rest = true) :
    scanner.skipGap = scanner.skipComment.skipGap := by
  have some : 0 < scanner.rest.length := by
    rw [List.length_pos_iff]
    intro empty
    rw [empty] at comment
    cases comment
  obtain ⟨count, same⟩ := Nat.exists_eq_succ_of_ne_zero (Nat.pos_iff_ne_zero.mp some)
  have noBlank : scanner.current?.any Text.isBlank = false := by
    obtain ⟨text, position, line⟩ := scanner
    unfold startsComment at comment
    dsimp only at comment
    split at comment
    · rfl
    · rfl
    · cases comment
  have step : scanner.skipGap = scanner.skipComment.skipGaps count := by
    rw [skipGap, same, skipGaps, noBlank, if_neg Bool.false_ne_true, if_pos comment]
  have settled : (scanner.skipComment.skipGaps count).Settled := step ▸ scanner.skipGap_settled
  rw [step, skipGap_eq_of_settled settled]

/-- To pass blanks before a gap changes nothing. -/
theorem skipGap_skipBlanks (scanner : Scanner) : scanner.skipBlanks.skipGap = scanner.skipGap := by
  cases blank : scanner.current?.any Text.isBlank with
  | true => exact (skipGap_of_blank blank).symm
  | false =>
      have none : blankLength scanner.rest = 0 := by
        obtain ⟨text, position, line⟩ := scanner
        cases text with
        | nil => rfl
        | cons first text =>
            have noBlank : Text.isBlank first = false := blank
            simp [blankLength, noBlank]
      rw [skipBlanks, none, skip_zero]

theorem skipGap_of_settled (settled : scanner.Settled) : scanner.skipGap = scanner :=
  skipGaps_of_settled settled _

/-- What is passed is dropped from the text. -/
theorem rest_skip (starts : scanner.rest = gap ++ rest) :
    (scanner.skip gap.length).rest = rest := by
  rw [skip, starts, List.drop_left]

theorem line_skip (starts : scanner.rest = gap ++ rest) :
    (scanner.skip gap.length).line = scanner.line + gap.count '\n' := by
  rw [skip, starts, List.take_left]

/-- A closed gap is passed whatever comes behind it. -/
theorem skipGap_closed (closed : ClosedGap gap) (starts : scanner.rest = gap ++ rest) :
    scanner.skipGap = (scanner.skip gap.length).skipGap := by
  induction closed generalizing scanner with
  | nil => rw [List.length_nil, skip_zero]
  | @blank character gap blank _ inductionHypothesis =>
      have next : (scanner.skip 1).rest = gap ++ rest := @rest_skip _ [character] _ starts
      have first : scanner.skipBlanks = (scanner.skip 1).skipBlanks := by
        have more : blankLength scanner.rest = 1 + blankLength (scanner.skip 1).rest := by
          rw [next, starts]
          simp [blankLength, blank, Nat.add_comm]
        rw [skipBlanks, more, ← skip_skip]
        rfl
      rw [← skipGap_skipBlanks, first, skipGap_skipBlanks, inductionHypothesis next, skip_skip,
        List.length_cons, Nat.add_comm]
  | @braces body gap inside _ inductionHypothesis =>
      have size : commentLength scanner.rest = ('\x7b' :: (body ++ ['\x7d'])).length := by
        rw [starts, List.cons_append, List.append_assoc]
        simp [commentLength_braces inside]
      have next := @rest_skip scanner ('\x7b' :: (body ++ ['\x7d'])) (gap ++ rest) (by simp [starts])
      have whole : ('\x7b' :: (body ++ ['\x7d'])).length + gap.length =
          ('\x7b' :: (body ++ '\x7d' :: gap)).length := by
        simp only [List.length_cons, List.length_append, List.length_nil]
        omega
      rw [skipGap_of_comment (by rw [starts]; rfl), skipComment, size, inductionHypothesis next,
        skip_skip, whole]
  | @stars body gap inside _ inductionHypothesis =>
      have size : commentLength scanner.rest = ('(' :: '*' :: (body ++ ['*', ')'])).length := by
        rw [starts, List.cons_append, List.cons_append, List.append_assoc]
        simp [commentLength_stars inside]
      have next := @rest_skip scanner ('(' :: '*' :: (body ++ ['*', ')'])) (gap ++ rest) (by simp [starts])
      have whole : ('(' :: '*' :: (body ++ ['*', ')'])).length + gap.length =
          ('(' :: '*' :: (body ++ '*' :: ')' :: gap)).length := by
        simp only [List.length_cons, List.length_append, List.length_nil]
        omega
      rw [skipGap_of_comment (by rw [starts]; rfl), skipComment, size, inductionHypothesis next,
        skip_skip, whole]

/-- Behind a closed gap stands what the gap is followed by. -/
theorem skipGap_before_settled (closed : ClosedGap gap) (starts : scanner.rest = gap ++ rest)
    (settled : ∀ place : Scanner, place.rest = rest → place.Settled) :
    scanner.skipGap = scanner.skip gap.length := by
  rw [skipGap_closed closed starts, skipGap_of_settled (settled _ (rest_skip starts))]

/-- The last gap is passed up to the end of the text. -/
theorem skipGap_final (final : FinalGap scanner.rest) :
    scanner.skipGap.rest = [] ∧
      scanner.skipGap.line = scanner.line + scanner.rest.count '\n' := by
  have ended {place : Scanner} (empty : place.rest = []) : place.skipGap = place :=
    skipGap_of_settled ⟨by rw [current?, empty]; rfl, by rw [empty]; rfl⟩
  generalize whole : scanner.rest = text at final
  cases final with
  | closed closed =>
      have starts : scanner.rest = text ++ [] := by rw [whole, List.append_nil]
      rw [skipGap_closed closed starts, ended (rest_skip starts)]
      exact ⟨rest_skip starts, line_skip starts⟩
  | @opened gap comment closed opened =>
      have next := rest_skip whole
      have all := opened.length_le
      rw [skipGap_closed closed whole,
        skipGap_of_comment (by rw [next]; exact opened.startsComment), skipComment, next]
      have empty : ((scanner.skip gap.length).skip (commentLength comment)).rest = [] := by
        rw [skip, next, List.drop_eq_nil_iff]
        exact all
      rw [ended empty]
      refine ⟨empty, ?_⟩
      rw [skip, next, line_skip whole, List.take_of_length_le all, List.count_append,
        Nat.add_assoc]

/-- A scanner passes a closed gap, or the last gap of its text. -/
structure PassesGap (scanner : Scanner) (gap : List Char) : Prop where
  whole : scanner.rest = gap ++ scanner.skipGap.rest
  line : scanner.skipGap.line = scanner.line + gap.count '\n'
  final : FinalGap gap
  closed : scanner.skipGap.rest ≠ [] → ClosedGap gap

/-- A closed part in front makes a gap longer. -/
theorem PassesGap.prepend {front : List Char} (closed : ClosedGap front)
    (starts : scanner.rest = front ++ rest)
    (passes : (scanner.skip front.length).PassesGap gap) : scanner.PassesGap (front ++ gap) := by
  have same := skipGap_closed closed starts
  have whole := passes.whole
  have line := passes.line
  rw [← same, rest_skip starts] at whole
  rw [← same, line_skip starts] at line
  refine ⟨?_, ?_, passes.final.prepend closed, fun some => closed.append (passes.closed ?_)⟩
  · rw [starts, List.append_assoc, ← whole]
  · rw [line, List.count_append, Nat.add_assoc]
  · rw [← same]
    exact some

/-- What a scanner passes before a token is a gap. -/
theorem exists_passesGap (scanner : Scanner) : ∃ gap, scanner.PassesGap gap := by
  induction size : scanner.rest.length using Nat.strong_induction_on generalizing scanner with
  | _ count inductionHypothesis =>
      have behind {front rest : List Char} (closed : ClosedGap front)
          (starts : scanner.rest = front ++ rest) (some : 0 < front.length) :
          ∃ gap, scanner.PassesGap gap := by
        have less : (scanner.skip front.length).rest.length < count := by
          rw [rest_skip starts, ← size, starts, List.length_append]
          omega
        obtain ⟨gap, passes⟩ := inductionHypothesis _ less _ rfl
        exact ⟨front ++ gap, passes.prepend closed starts⟩
      cases blank : scanner.current?.any Text.isBlank with
      | true =>
          exact behind (ClosedGap.ofBlanks scanner.rest)
            (List.takeWhile_append_dropWhile (p := Text.isBlank)).symm (blankLength_pos blank)
      | false =>
          cases comment : startsComment scanner.rest with
          | true =>
              obtain ⟨front, rest, starts, length, closed⟩ | opened := comment_cases comment
              · exact behind closed starts (length ▸ commentLength_pos comment)
              · have final : FinalGap scanner.rest := .opened .nil opened
                obtain ⟨empty, line⟩ := skipGap_final final
                refine ⟨scanner.rest, ?_, line, final, fun some => absurd empty some⟩
                rw [empty, List.append_nil]
          | false =>
              have stays := skipGap_of_settled ⟨blank, comment⟩
              refine ⟨[], by rw [stays]; rfl, by rw [stays]; rfl, .closed .nil, fun _ => .nil⟩

end Scanner

end MiniPascal
