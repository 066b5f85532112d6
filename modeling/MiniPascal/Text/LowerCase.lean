/-
This file writes texts in lower case, as names and commands are compared.
-/

import MiniPascal.Text.CaseTable
import MiniPascal.Text.Ranges

namespace MiniPascal.Text

/-- The run moves exactly the code points that it lists. -/
def CaseRun.holds (run : CaseRun) (code : Nat) : Bool :=
  run.first ≤ code && code ≤ run.last && (code - run.first) % run.step == 0

/-- The small form of a character; a dotted capital I has two characters. -/
def lowerCharacter (character : Char) : List Char :=
  if character.toNat < 128 then [character.toLower]
  else if character = '\u0130' then ['i', '\u0307']
  else
    match caseRuns.find? (·.holds character.toNat) with
    | some run => [Char.ofNat (character.toNat + run.offset).toNat]
    | none => [character]

/-- The nearest character that is not skipped has a case. -/
def startsCased (characters : List Char) : Bool :=
  match characters.dropWhile fun character => inRanges caseIgnorableRanges character.toNat with
  | [] => false
  | character :: _ => inRanges casedRanges character.toNat

/-- The small form of the text after `before`, which is listed from its end. A capital sigma is
final when a cased character stands before it and none after it. -/
def lowerAfter (before : List Char) : List Char → List Char
  | [] => []
  | character :: rest =>
      (if character = '\u03a3' then
        [if startsCased before && !startsCased rest then '\u03c2' else '\u03c3']
      else lowerCharacter character) ++ lowerAfter (character :: before) rest

/-- The text in lower case. -/
def lower (text : String) : String := String.ofList (lowerAfter [] text.toList)

/-- An ASCII text is written in lower case letter by letter. -/
theorem lowerAfter_of_ascii {before characters : List Char}
    (ascii : ∀ character ∈ characters, character.toNat < 128) :
    lowerAfter before characters = characters.map Char.toLower := by
  induction characters generalizing before with
  | nil => rfl
  | cons character rest inductionHypothesis =>
      have small := ascii character (by simp)
      have noSigma : character ≠ '\u03a3' := by
        rintro rfl
        exact absurd small (by decide)
      simp only [lowerAfter, lowerCharacter, noSigma, small, if_true, if_false, List.map_cons]
      rw [inductionHypothesis fun other member => ascii other (by simp [member])]
      rfl

end MiniPascal.Text
