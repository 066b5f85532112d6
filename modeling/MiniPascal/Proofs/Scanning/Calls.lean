/-
This file follows a scanner through calls in any order. Wherever a call is made, and whether it
finds a token or a fault, the state of the scanner and the answer agree with the text.
-/

import MiniPascal.Proofs.Scanning.Lossless

namespace MiniPascal

/-- A fault that a scanner meets reports the piece of the text that has been passed. -/
def Fault.Reports (piece : List Char) : Fault → Prop
  | .integerTooLong digits => digits = piece.length ∧ integerDigitLimit < digits
  | .integerWithoutDigits => piece = []
  | .unreadableNumber spelling => spelling = String.ofList piece
  | _ => False

/-- A piece of the text is read as a token, or as a fault that reports it. -/
def ReadsPiece (piece : List Char) : Except Fault Kind → Prop
  | .ok kind => kind.isEndOfText = false
  | .error fault => fault.Reports piece

/-- A token, or the fault in its place, comes from the text between two positions. Its line is that
of the first position, and it is the end of the text only when nothing is left behind the second. -/
def Spans (text : List Char) (start finish : Nat) : Except Fault Token → Prop
  | .ok token => token.text.toList = text.extract start finish ∧
      token.line = 1 + (text.take start).count '\n' ∧
      (token.kind.isEndOfText = true → text.length ≤ finish)
  | .error fault => fault.Reports (text.extract start finish)

/-- What is found behind the first position ends at the second one. -/
def Found (text : List Char) (start finish : Nat) (found : Except Fault Token) : Prop :=
  ∃ first, start ≤ first ∧ first ≤ finish ∧ Spans text first finish found

/-- The tokens come one behind the other from the text between two positions. -/
inductive SpanInOrder (text : List Char) (finish : Nat) : Nat → List Token → Prop where
  | none {start : Nat} (within : start ≤ finish) : SpanInOrder text finish start []
  | next {start last : Nat} {token : Token} {tokens : List Token}
      (found : Found text start last (.ok token)) (others : SpanInOrder text finish last tokens) :
      SpanInOrder text finish start (token :: tokens)

/-- Either all tokens are found up to the end of the text, or a fault ends them. -/
def Listed (text : List Char) (start finish : Nat) : Except Fault (List Token) → Prop
  | .ok tokens => text.length ≤ finish ∧ SpanInOrder text finish start tokens
  | .error fault => Found text start finish (.error fault)

section Found

variable {text : List Char} {start earlier middle finish : Nat} {found : Except Fault Token}
  {listing : Except Fault (List Token)}

theorem Found.forward (stands : Found text start finish found) : start ≤ finish := by
  obtain ⟨first, behind, forward, _⟩ := stands
  exact Nat.le_trans behind forward

theorem Found.weaken (stands : Found text start finish found) (less : earlier ≤ start) :
    Found text earlier finish found := by
  obtain ⟨first, behind, forward, spans⟩ := stands
  exact ⟨first, Nat.le_trans less behind, forward, spans⟩

theorem SpanInOrder.forward {tokens : List Token} (inOrder : SpanInOrder text finish start tokens) :
    start ≤ finish := by
  induction inOrder with
  | none within => exact within
  | next found _ inductionHypothesis => exact Nat.le_trans found.forward inductionHypothesis

theorem Listed.forward (listed : Listed text start finish listing) : start ≤ finish := by
  cases listing with
  | ok tokens => exact listed.2.forward
  | error fault => exact Found.forward listed

/-- A token in front of what is listed. -/
theorem Listed.cons {token : Token} (found : Found text start middle (.ok token))
    (listed : Listed text middle finish listing) :
    Listed text start finish (listing.map (token :: ·)) := by
  cases listing with
  | ok tokens => exact ⟨listed.1, .next found listed.2⟩
  | error fault => exact Found.weaken listed found.forward

end Found

namespace Lexeme

/-- A number is read from its spelling, and a faulty one reports it. -/
theorem Numeral.readsPiece {numeral : Numeral} (formed : numeral.Formed) :
    ReadsPiece numeral.spelling numeral.kind := by
  cases read : numeral.kind with
  | ok kind => exact Numeral.inside_of_kind read
  | error fault =>
      cases faulty_of_kind read with
      | unreadable => exact rfl
      | withoutDigits integer noDigit => exact (spelling_of_integer formed integer).trans noDigit
      | tooLong integer long =>
          exact ⟨congrArg List.length (spelling_of_integer formed integer).symm, long⟩

end Lexeme

namespace Scanner

open Lexeme

/-- What may be asked of a scanner, wherever it stands. -/
inductive Call where
  | next
  | tokenize
  | advance
  | peek
  | skipBlanks
  | skipComment
  | number
  | name
  | string
deriving DecidableEq, Repr

/-- What a scanner gives back. -/
inductive Answer where
  | nothing
  | character (found : Option Char)
  | token (found : Except Fault Token)
  | tokens (found : Except Fault (List Token))

/-- A call gives an answer, and leaves the scanner somewhere even when the answer is a fault. -/
def perform (scanner : Scanner) : Call → Answer × Scanner
  | .next => scanner.next.map .token id
  | .tokenize => scanner.tokenize.map .tokens id
  | .advance => (.nothing, scanner.advance)
  | .peek => (.character scanner.peek?, scanner)
  | .skipBlanks => (.nothing, scanner.skipBlanks)
  | .skipComment => (.nothing, scanner.skipComment)
  | .number => scanner.number.map .token id
  | .name => scanner.name.map .token id
  | .string => scanner.string.map .token id

/-- The scanner behind some calls. -/
def after (scanner : Scanner) (calls : List Call) : Scanner :=
  calls.foldl (fun place call => (place.perform call).2) scanner

/-- An answer agrees with the text between the positions before and behind the call. -/
def Answer.Agrees (text : List Char) (start finish : Nat) : Answer → Prop
  | .nothing => True
  | .character found => found = text[start + 1]?
  | .token found => Found text start finish found
  | .tokens found => Listed text start finish found

/-- A scanner that stands in a text has the rest of it from its position on, and counts the lines
that have started up to there. -/
structure StandsIn (scanner : Scanner) (text : List Char) : Prop where
  rest : scanner.rest = text.drop scanner.position
  line : scanner.line = 1 + (text.take scanner.position).count '\n'

variable {scanner : Scanner} {text : List Char}

theorem standsIn_ofText (text : String) : (ofText text).StandsIn text.toList := ⟨rfl, rfl⟩

theorem StandsIn.current? (stands : scanner.StandsIn text) :
    scanner.current? = text[scanner.position]? := by
  rw [Scanner.current?, stands.rest, List.head?_drop]

theorem StandsIn.peek? (stands : scanner.StandsIn text) :
    scanner.peek? = text[scanner.position + 1]? := by
  rw [Scanner.peek?, stands.rest, List.drop_drop, List.head?_drop]

/-- A scanner may be moved by any number of characters, also beyond the end of the text. -/
theorem StandsIn.skip (stands : scanner.StandsIn text) (count : Nat) :
    (scanner.skip count).StandsIn text where
  rest := by
    change scanner.rest.drop count = text.drop (scanner.position + count)
    rw [stands.rest, List.drop_drop]
  line := by
    change scanner.line + (scanner.rest.take count).count '\n' =
      1 + (text.take (scanner.position + count)).count '\n'
    rw [List.take_add, List.count_append, stands.line, stands.rest, Nat.add_assoc]

/-- The next characters stand between the position and the one that many characters on. -/
theorem StandsIn.take_rest (stands : scanner.StandsIn text) (count : Nat) :
    scanner.rest.take count = text.extract scanner.position (scanner.position + count) := by
  rw [List.extract_eq_take_drop, Nat.add_sub_cancel_left, stands.rest]

/-- At the end of a text nothing is left of it. -/
theorem StandsIn.length_le (stands : scanner.StandsIn text) (empty : scanner.rest = []) :
    text.length ≤ scanner.position := by
  rwa [stands.rest, List.drop_eq_nil_iff] at empty

/-- A scanner that has found a token or a fault behind a position stands in the text. -/
structure Yields (text : List Char) (start : Nat) (result : Except Fault Token × Scanner) : Prop where
  stands : result.2.StandsIn text
  found : Found text start result.2.position result.1

/-- A piece at the scanner is passed, whatever it is read as. -/
theorem StandsIn.take (stands : scanner.StandsIn text) {length : Nat} {kind : Except Fault Kind}
    (reads : ReadsPiece (scanner.rest.take length) kind) :
    Yields text scanner.position (scanner.take length kind) where
  stands := stands.skip length
  found := by
    refine ⟨scanner.position, Nat.le_refl _, Nat.le_add_right _ _, ?_⟩
    rw [stands.take_rest] at reads
    cases kind with
    | ok kind =>
        refine ⟨String.toList_ofList.trans (stands.take_rest length), stands.line, fun ended => ?_⟩
        rw [show kind.isEndOfText = false from reads] at ended
        cases ended
    | error fault => exact reads

theorem StandsIn.number (stands : scanner.StandsIn text) :
    Yields text scanner.position scanner.number := by
  refine stands.take ?_
  rw [Numeral.length, ← List.prefix_iff_eq_take.mp (Numeral.spelling_starts scanner.rest)]
  exact Numeral.readsPiece (Numeral.formed_scan scanner.rest)

theorem StandsIn.name (stands : scanner.StandsIn text) :
    Yields text scanner.position scanner.name :=
  stands.take (nameKind_inside _)

theorem StandsIn.string (stands : scanner.StandsIn text) :
    Yields text scanner.position scanner.string :=
  stands.take (StringBody.inside _)

/-- The end of the text is found where nothing is left of it. -/
theorem StandsIn.ended (stands : scanner.StandsIn text) (empty : scanner.rest = []) :
    Yields text scanner.position (.ok (.endOfText scanner.line), scanner) where
  stands := stands
  found := by
    refine ⟨scanner.position, Nat.le_refl _, Nat.le_refl _, ?_, stands.line, fun _ => ?_⟩
    · simp [Token.endOfText]
    · exact stands.length_le empty

theorem StandsIn.token (stands : scanner.StandsIn text) :
    Yields text scanner.position scanner.token := by
  unfold Scanner.token
  split
  case h_1 empty => exact stands.ended empty
  case h_2 =>
    split
    case h_1 => exact stands.take rfl
    case h_2 =>
      split
      case isTrue => exact stands.string
      case isFalse =>
        split
        case isTrue => exact stands.number
        case isFalse =>
          split
          case isTrue => exact stands.name
          case isFalse => exact stands.take rfl

theorem StandsIn.next (stands : scanner.StandsIn text) :
    Yields text scanner.position scanner.next := by
  obtain ⟨length, gap⟩ := skipGaps_eq_skip scanner.rest.length scanner
  have behind := (stands.skip length).token
  rw [← gap] at behind
  refine ⟨behind.stands, behind.found.weaken ?_⟩
  rw [gap]
  exact Nat.le_add_right _ _

end Scanner

/-- The tokens of a scan with the end of the text, or the fault that ends them. -/
def Scan.listing (scan : Scan) : Except Fault (List Token) :=
  match scan.ending with
  | .endOfText line => .ok (scan.tokens ++ [.endOfText line])
  | .fault fault => .error fault

theorem Scan.listing_cons (scan : Scan) (token : Token) :
    { scan with tokens := token :: scan.tokens }.listing = scan.listing.map (token :: ·) := by
  unfold Scan.listing
  cases scan.ending <;> rfl

namespace Scanner

variable {scanner : Scanner} {text : List Char}

theorem tokenize_eq (scanner : Scanner) :
    scanner.tokenize = (scanner.scan.listing, scanner.scan.scanner) := by
  cases ending : scanner.scan.ending <;> simp only [Scanner.tokenize, Scan.listing, ending]

/-- With more rounds than there are characters a scan comes to the end of the text or to a fault. -/
theorem StandsIn.scanTokens {count : Nat} (stands : scanner.StandsIn text)
    (enough : scanner.rest.length < count) :
    (scanner.scanTokens count).scanner.StandsIn text ∧
      Listed text scanner.position (scanner.scanTokens count).scanner.position
        (scanner.scanTokens count).listing := by
  induction count generalizing scanner with
  | zero => cases enough
  | succ count inductionHypothesis =>
      obtain ⟨behind, found⟩ := stands.next
      rw [Scanner.scanTokens]
      cases scanner.finds with
      | ended empty _ _ step =>
          rw [step] at behind found ⊢
          exact ⟨behind, behind.length_le empty, .next found (.none (Nat.le_refl _))⟩
      | fault step =>
          rw [step] at behind found ⊢
          exact ⟨behind, found⟩
      | @token gap token after reads step =>
          -- The token takes a character from the rest, so the rounds that are left suffice.
          have less := length_next_lt step reads.word.inside
          rw [step] at behind found ⊢
          obtain ⟨others, listed⟩ :=
            inductionHypothesis behind (Nat.lt_of_lt_of_le less (Nat.le_of_lt_succ enough))
          simp only [reads.word.inside, Bool.false_eq_true, if_false, Scan.listing_cons]
          exact ⟨others, listed.cons found⟩

/-- A call leaves the scanner in its text, where it stood or further on, and answers from the
text. -/
structure Keeps (text : List Char) (scanner : Scanner) (result : Answer × Scanner) : Prop where
  stands : result.2.StandsIn text
  forward : scanner.position ≤ result.2.position
  agrees : result.1.Agrees text scanner.position result.2.position

theorem Yields.keeps {result : Except Fault Token × Scanner}
    (yields : Yields text scanner.position result) : Keeps text scanner (result.map .token id) :=
  ⟨yields.stands, yields.found.forward, yields.found⟩

theorem StandsIn.keeps_skip (stands : scanner.StandsIn text) (count : Nat) :
    Keeps text scanner (.nothing, scanner.skip count) :=
  ⟨stands.skip count, Nat.le_add_right _ _, trivial⟩

theorem StandsIn.perform (stands : scanner.StandsIn text) (call : Call) :
    Keeps text scanner (scanner.perform call) := by
  cases call with
  | next => exact stands.next.keeps
  | tokenize =>
      obtain ⟨behind, listed⟩ := stands.scanTokens (Nat.lt_succ_self _)
      rw [Scanner.perform, tokenize_eq]
      exact ⟨behind, listed.forward, listed⟩
  | advance => exact stands.keeps_skip 1
  | peek => exact ⟨stands, Nat.le_refl _, stands.peek?⟩
  | skipBlanks => exact stands.keeps_skip _
  | skipComment => exact stands.keeps_skip _
  | number => exact stands.number.keeps
  | name => exact stands.name.keeps
  | string => exact stands.string.keeps

theorem StandsIn.after (stands : scanner.StandsIn text) (calls : List Call) :
    (scanner.after calls).StandsIn text := by
  induction calls generalizing scanner with
  | nil => exact stands
  | cons call calls inductionHypothesis => exact inductionHypothesis (stands.perform call).stands

end Scanner

open Scanner

/-- Whatever has been asked of a scanner, in any order, and whatever is asked of it next: behind the
call the current character is the one at the position, if the text has one there, the line is one
more than the line ends in front of the position, and the position is no smaller than before. This
holds of calls that end with a fault as well. What is answered comes from the text between the two
positions. -/
theorem calls_keep_scanner_in_step (text : String) (calls : List Call) (call : Call) :
    let before := (ofText text).after calls
    let (answer, after) := before.perform call
    after.current? = text.toList[after.position]? ∧
      after.line = 1 + (text.toList.take after.position).count '\n' ∧
      before.position ≤ after.position ∧
      answer.Agrees text.toList before.position after.position := by
  obtain ⟨stands, forward, agrees⟩ := ((standsIn_ofText text).after calls).perform call
  exact ⟨stands.current?, stands.line, forward, agrees⟩

/-- A number without digits in front of its exponent, a string literal that opens with a line end,
and a step beyond the end of the text. -/
example : (ofText "e5\n").after [.number, .string, .advance] = ⟨[], 4, 2⟩ := by rfl

end MiniPascal
