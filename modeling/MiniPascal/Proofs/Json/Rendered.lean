/-
This file shows that the indented text of a structured value is a text of the grammar for this value
when all numbers in it are finite.
-/

import MiniPascal.Proofs.Json.Grammar
import MiniPascal.Proofs.Numbers.FixedPoint
import MiniPascal.Proofs.Numbers.ShortestText

namespace MiniPascal.Json

/-- No number in a value is infinite or undefined. -/
inductive Finite : Json → Prop where
  | null : Finite null
  | integer {number : Int} : Finite (integer number)
  | real {number : Float} (finite : Binary64.isFinite number = true) : Finite (real number)
  | text {characters : String} : Finite (text characters)
  | truth {flag : Bool} : Finite (truth flag)
  | array {elements : List Json} (each : ∀ element ∈ elements, Finite element) :
      Finite (array elements)
  | object {members : List (String × Json)} (each : ∀ member ∈ members, Finite member.2) :
      Finite (object members)

@[simp] theorem finite_array_iff {elements : List Json} :
    (array elements).Finite ↔ ∀ element ∈ elements, element.Finite :=
  ⟨fun | .array each => each, .array⟩

@[simp] theorem finite_object_iff {members : List (String × Json)} :
    (object members).Finite ↔ ∀ member ∈ members, member.2.Finite :=
  ⟨fun | .object each => each, .object⟩

@[simp] theorem finite_real_iff {number : Float} :
    (real number).Finite ↔ Binary64.isFinite number = true :=
  ⟨fun | .real finite => finite, .real⟩

section Numbers

/-- The digits of a whole number are a numeral for it. -/
theorem isNumber_toDigits (negative : Bool) (number : Nat) :
    IsNumber ((if negative then ['-'] else []) ++ Nat.toDigits 10 number)
      (integer (if negative then -(number : Int) else number)) := by
  have formed : (⟨Nat.toDigits 10 number, [], [], []⟩ : Lexeme.Numeral).Formed :=
    ⟨fun digit => Nat.isDigit_of_mem_toDigits (by decide) (by decide), nofun, nofun, .inl ⟨rfl, rfl⟩⟩
  have written := IsNumber.number negative formed Nat.toDigits_ne_nil fun zero => by
    rw [head?_toDigits zero, Nat.toDigits_zero]
  have value : Text.digitsValue (Nat.toDigits 10 number) = number := Nat.ofDigitChars_ten_toDigits
  simpa [Lexeme.Numeral.spelling_eq, Lexeme.fractionText, ofNumeral, Lexeme.Numeral.isReal, value]
    using written

theorem isNumber_integer (indent : Nat) (number : Int) :
    IsNumber (render indent (integer number)) (integer number) := by
  rw [render, Int.toString_eq_repr, Int.repr_eq_if]
  split
  next nonneg =>
    obtain ⟨magnitude, rfl⟩ := Int.eq_ofNat_of_zero_le nonneg
    rw [Int.toNat_natCast, Nat.toList_repr]
    exact isNumber_toDigits false magnitude
  next negative =>
    obtain ⟨magnitude, rfl⟩ : ∃ magnitude : Nat, number = -magnitude := ⟨number.natAbs, by omega⟩
    rw [neg_neg, Int.toNat_natCast, String.toList_append, Nat.toList_repr]
    exact isNumber_toDigits true magnitude

theorem isNumber_real (indent : Nat) {number : Float} (finite : Binary64.isFinite number = true) :
    IsNumber (render indent (real number)) (real number) := by
  obtain ⟨numeral, formed, written, plain, isReal, text, value⟩ :=
    Binary64.exists_numeral_of_isFinite finite ⟨"Infinity", "NaN"⟩
  have number := IsNumber.number (Binary64.isNegative number) formed written plain
  rwa [← text, ofNumeral, if_pos isReal, value] at number

end Numbers

section Layout

theorem isBlank_newLine (indent : Nat) : IsBlank (newLine indent) := by
  refine List.forall_mem_cons.mpr ⟨by decide, fun space inside => ?_⟩
  rw [List.eq_of_mem_replicate inside]
  decide

/-- The name of a member stands before its value. -/
def renderItem (indent : Nat) : Option String × Json → List Char
  | (none, json) => render indent json
  | (some name, json) => textLiteral name ++ ':' :: ' ' :: render indent json

theorem renderElements_eq (indent : Nat) (elements : List Json) :
    renderElements indent elements = (elementItems elements).map (renderItem indent) := by
  induction elements with
  | nil => rfl
  | cons element _ inductionHypothesis =>
      exact congrArg (render indent element :: ·) inductionHypothesis

theorem renderMembers_eq (indent : Nat) (members : List (String × Json)) :
    renderMembers indent members = (memberItems members).map (renderItem indent) := by
  induction members with
  | nil => rfl
  | cons member _ inductionHypothesis =>
      exact congrArg (renderItem indent (some member.1, member.2) :: ·) inductionHypothesis

/-- Every item has the gap in front of it, and a comma behind it unless it is the last one. -/
def spread (gap : List Char) : List (List Char) → List Char
  | [] => []
  | [item] => gap ++ item
  | item :: other :: items => gap ++ (item ++ ',' :: spread gap (other :: items))

theorem spread_eq (gap item : List Char) (items : List (List Char)) :
    spread gap (item :: items) = gap ++ (',' :: gap).intercalate (item :: items) := by
  induction items generalizing item with
  | nil => rw [spread, List.intercalate_singleton]
  | cons other items inductionHypothesis =>
      rw [spread, inductionHypothesis, List.intercalate_cons_cons]
      simp only [List.append_assoc, List.cons_append]

/-- The text of items between brackets, and what is behind it. -/
theorem block_append (opening closing : Char) (indent : Nat) {items : List (Option String × Json)}
    (some : items ≠ []) (rest : List Char) :
    block opening closing indent (items.map (renderItem (indent + 2))) ++ rest =
      opening :: (spread (newLine (indent + 2)) (items.map (renderItem (indent + 2))) ++
        (newLine indent ++ closing :: rest)) := by
  obtain ⟨item, others, rfl⟩ := List.exists_cons_of_ne_nil some
  rw [List.map_cons, spread_eq]
  simp [block]

end Layout

section Completeness

variable {indent : Nat} {gap back rest : List Char}

/-- Items are read where they are written when their values are. -/
theorem reads_renderItem {item : Option String × Json} (blank : IsBlank gap)
    (behind : IsBlank back)
    (value : ∀ rest, Reads (.value item.2) (render indent item.2 ++ rest) rest) :
    Reads (.item item) (gap ++ (renderItem indent item ++ (back ++ rest))) rest := by
  obtain ⟨none | name, json⟩ := item
  · exact .element (.padded blank behind (value _))
  · have named : IsName (gap ++ (textLiteral name ++ ([] ++ [':']))) name :=
      ⟨_, _, _, blank, isString_textLiteral name, isBlank_nil, rfl⟩
    have read := Reads.member named (.padded isBlank_space behind (value (back ++ rest)))
    simpa only [renderItem, List.append_assoc, List.cons_append, List.nil_append] using read

theorem reads_spread (blank : IsBlank gap) (behind : IsBlank back)
    {items : List (Option String × Json)} (some : items ≠ [])
    (each : ∀ item ∈ items, ∀ rest, Reads (.value item.2) (render indent item.2 ++ rest) rest) :
    Reads (.items items) (spread gap (items.map (renderItem indent)) ++ (back ++ rest)) rest := by
  induction items with
  | nil => exact absurd rfl some
  | cons item items inductionHypothesis =>
      obtain ⟨first, others⟩ := List.forall_mem_cons.mp each
      cases items with
      | nil =>
          rw [List.map_singleton, spread, List.append_assoc]
          exact .last (reads_renderItem blank behind first)
      | cons other items =>
          have read := Reads.more (reads_renderItem blank isBlank_nil first)
            (inductionHypothesis (List.cons_ne_nil _ _) others)
          simpa only [List.map_cons, spread, List.append_assoc, List.cons_append,
            List.nil_append] using read

/-- The text of a value whose numbers are finite is read as the value, whatever is behind it. -/
theorem Finite.reads {json : Json} (finite : json.Finite) (indent : Nat) (rest : List Char) :
    Reads (.value json) (render indent json ++ rest) rest := by
  induction finite generalizing indent rest with
  | null => exact .null
  | integer => exact .number (isNumber_integer _ _)
  | real finite => exact .number (isNumber_real _ finite)
  | text => exact .text (isString_textLiteral _)
  | @truth flag =>
      cases flag with
      | true => exact .yes
      | false => exact .no
  | @array elements _ each =>
      rw [render, renderElements_eq]
      cases elements with
      | nil => exact .emptyArray isBlank_nil
      | cons element elements =>
          have some : elementItems (element :: elements) ≠ [] := List.cons_ne_nil _ _
          rw [block_append _ _ _ some]
          exact .array (reads_spread (isBlank_newLine _) (isBlank_newLine _) some
            (List.forall_mem_map.mpr fun element inside => each element inside _))
  | @object members _ each =>
      rw [render, renderMembers_eq]
      cases members with
      | nil => exact .emptyObject isBlank_nil
      | cons member members =>
          have some : memberItems (member :: members) ≠ [] := List.cons_ne_nil _ _
          rw [block_append _ _ _ some]
          exact .object (reads_spread (isBlank_newLine _) (isBlank_newLine _) some
            (List.forall_mem_map.mpr fun member inside => each member inside _))

end Completeness

end MiniPascal.Json
