/-
This file deals with the line ends of texts.
-/

namespace MiniPascal.Text

/-- A carriage return, with or without a line feed, is a line end. -/
def unifyLineEnds : List Char → List Char
  | [] => []
  | '\r' :: '\n' :: rest => '\n' :: unifyLineEnds rest
  | '\r' :: rest => '\n' :: unifyLineEnds rest
  | character :: rest => character :: unifyLineEnds rest

/-- The lines of a text; the last one may lack its line end. -/
def linesOf : List Char → List (List Char)
  | [] => []
  | '\n' :: rest => [] :: linesOf rest
  | character :: rest =>
      match linesOf rest with
      | [] => [[character]]
      | line :: lines => (character :: line) :: lines

/-- A text without a line end is one line. -/
theorem linesOf_of_not_mem {text : List Char} (noEnd : '\n' ∉ text) (nonempty : text ≠ []) :
    linesOf text = [text] := by
  induction text with
  | nil => exact absurd rfl nonempty
  | cons character rest inductionHypothesis =>
      have other : character ≠ '\n' := by
        rintro rfl
        simp at noEnd
      cases rest with
      | nil => simp [linesOf]
      | cons next rest =>
          have tail := inductionHypothesis (by simp_all) (by simp)
          rw [linesOf]
          · rw [tail]
          · exact other

end MiniPascal.Text
