/-
This file says which expressions and which arguments are faulty over a table, and shows that a run
ends with a fault exactly where it comes to one of these.
-/

import MiniPascal.Proofs.Numbers.Rounding
import MiniPascal.Proofs.Running.Stores

namespace MiniPascal

open Binary64

variable {table : SymbolTable} {fault : Fault}

/-- The truth operators take truth values, and all others take real numbers. -/
def BinaryOperator.accepts : BinaryOperator → Value → Bool
  | .conjunction, .truth _ | .disjunction, .truth _ => true
  | .conjunction, _ | .disjunction, _ => false
  | _, .real _ => true
  | _, _ => false

/-- An expression whose evaluation comes to a remainder of an infinite dividend, where the divisor
is a number other than zero. -/
inductive Expression.TakesRemainder (table : SymbolTable) : Expression → Prop where
  | here {mark : Mark} {left right : Expression} {dividend divisor : Float}
      (leftValue : left.value table = .ok (.real dividend))
      (rightValue : right.value table = .ok (.real divisor))
      (nonzero : (divisor == 0) = false) (number : isNaN divisor = false)
      (infinite : isInfinite dividend = true) :
      TakesRemainder table (.binary .modulus mark left right)
  | operand {operator : UnaryOperator} {mark : Mark} {operand : Expression}
      (inside : TakesRemainder table operand) : TakesRemainder table (.unary operator mark operand)
  | left {operator : BinaryOperator} {mark : Mark} {left right : Expression}
      (inside : TakesRemainder table left) :
      TakesRemainder table (.binary operator mark left right)
  | right {operator : BinaryOperator} {mark : Mark} {left right : Expression} {value : Value}
      (leftValue : left.value table = .ok value) (accepted : operator.accepts value = true)
      (inside : TakesRemainder table right) :
      TakesRemainder table (.binary operator mark left right)

section Expressions

variable {α β : Type} {mark : Mark}

/-- Two computations are faulty where the first one is, or the second one behind it. -/
theorem bind_eq_error_iff {first : Except Halt α} {next : α → Except Halt β} {halt : Halt} :
    first >>= next = .error halt ↔
      first = .error halt ∨ ∃ value, first = .ok value ∧ next value = .error halt := by
  cases first with
  | error other =>
      constructor
      · exact fun same => .inl (congrArg _ (Except.error.inj same))
      · rintro (same | ⟨value, same, _⟩)
        · exact congrArg _ (Except.error.inj same)
        · cases same
  | ok value =>
      constructor
      · exact fun same => .inr ⟨value, rfl, same⟩
      · rintro (same | ⟨other, same, fails⟩)
        · cases same
        · cases same
          exact fails

/-- A check adds no fault. -/
theorem Mark.number_fault_iff {found : Except Halt Value} :
    mark.number found = .error (.fault fault) ↔ found = .error (.fault fault) := by
  rw [Mark.number, bind_eq_error_iff]
  refine ⟨?_, .inl⟩
  rintro (same | ⟨value, _, fails⟩)
  · exact same
  · cases value <;> cases fails

theorem Mark.truth_fault_iff {found : Except Halt Value} :
    mark.truth found = .error (.fault fault) ↔ found = .error (.fault fault) := by
  rw [Mark.truth, bind_eq_error_iff]
  refine ⟨?_, .inl⟩
  rintro (same | ⟨value, _, fails⟩)
  · exact same
  · cases value <;> cases fails

theorem Mark.number_ok_iff {found : Except Halt Value} {number : Float} :
    mark.number found = .ok number ↔ found = .ok (.real number) := by
  cases found with
  | error halt => exact ⟨nofun, nofun⟩
  | ok value =>
      cases value with
      | real other => exact ⟨fun same => by cases same; rfl, fun same => by cases same; rfl⟩
      | _ => exact ⟨nofun, nofun⟩

theorem Mark.truth_ok_iff {found : Except Halt Value} {flag : Bool} :
    mark.truth found = .ok flag ↔ found = .ok (.truth flag) := by
  cases found with
  | error halt => exact ⟨nofun, nofun⟩
  | ok value =>
      cases value with
      | truth other => exact ⟨fun same => by cases same; rfl, fun same => by cases same; rfl⟩
      | _ => exact ⟨nofun, nofun⟩

/-- Of all operators only the remainder is faulty, and only for an infinite dividend. -/
theorem BinaryOperator.combine_fault_iff {operator : BinaryOperator} {left right : Float} :
    operator.combine mark left right = .error (.fault fault) ↔
      operator = .modulus ∧ fault = .remainderDomain ∧ (right == 0) = false ∧
        isNaN right = false ∧ isInfinite left = true := by
  cases operator with
  | modulus =>
      rw [combine]
      cases zero : (right == 0) with
      | true => exact ⟨nofun, nofun⟩
      | false =>
          have faulty : remainder? left right = none ↔ isInfinite left = true ∧ isNaN right = false :=
            remainder?_eq_none zero
          rw [if_neg Bool.false_ne_true]
          cases found : remainder? left right with
          | some remainder =>
              rw [found] at faulty
              refine ⟨nofun, ?_⟩
              rintro ⟨_, _, _, number, infinite⟩
              cases faulty.mpr ⟨infinite, number⟩
          | none =>
              obtain ⟨infinite, number⟩ := faulty.mp found
              constructor
              · intro same
                cases same
                exact ⟨rfl, rfl, rfl, number, infinite⟩
              · rintro ⟨_, rfl, _⟩
                rfl
  | divide =>
      rw [combine]
      split <;> exact ⟨nofun, nofun⟩
  | _ => exact ⟨nofun, nofun⟩

theorem Expression.value_unary_fault_iff {operator : UnaryOperator} {operand : Expression} :
    (Expression.unary operator mark operand).value table = .error (.fault fault) ↔
      operand.value table = .error (.fault fault) := by
  cases operator with
  | negation =>
      rw [value, bind_eq_error_iff, Mark.truth_fault_iff]
      exact ⟨fun fails => fails.elim id nofun, .inl⟩
  | minus | plus =>
      rw [value, bind_eq_error_iff, Mark.number_fault_iff]
      exact ⟨fun fails => fails.elim id nofun, .inl⟩

/-- An operator is faulty where its operands are, the right one behind an accepted left one, or
where it combines two numbers. -/
theorem Expression.value_binary_fault_iff {operator : BinaryOperator} {left right : Expression} :
    (Expression.binary operator mark left right).value table = .error (.fault fault) ↔
      left.value table = .error (.fault fault) ∨
      (∃ value, left.value table = .ok value ∧ operator.accepts value = true ∧
        right.value table = .error (.fault fault)) ∨
      ∃ first second, left.value table = .ok (.real first) ∧
        right.value table = .ok (.real second) ∧
        operator.combine mark first second = .error (.fault fault) := by
  cases operator with
  | conjunction | disjunction =>
      simp only [value, bind_eq_error_iff, Mark.truth_fault_iff, Mark.truth_ok_iff]
      constructor
      · rintro (fails | ⟨flag, leftValue, fails | ⟨_, _, none⟩⟩)
        · exact .inl fails
        · exact .inr (.inl ⟨_, leftValue, rfl, fails⟩)
        · cases none
      · rintro (fails | ⟨value, leftValue, accepted, fails⟩ | ⟨_, _, _, _, combined⟩)
        · exact .inl fails
        · cases value with
          | truth flag => exact .inr ⟨flag, leftValue, .inl fails⟩
          | _ => cases accepted
        · cases combined
  | _ =>
      simp only [value, bind_eq_error_iff, Mark.number_fault_iff, Mark.number_ok_iff]
      constructor
      · rintro (fails | ⟨first, leftValue, fails | ⟨second, rightValue, combined⟩⟩)
        · exact .inl fails
        · exact .inr (.inl ⟨_, leftValue, rfl, fails⟩)
        · exact .inr (.inr ⟨first, second, leftValue, rightValue, combined⟩)
      · rintro (fails | ⟨value, leftValue, accepted, fails⟩ | ⟨first, second, leftValue, others⟩)
        · exact .inl fails
        · cases value with
          | real number => exact .inr ⟨number, leftValue, .inl fails⟩
          | _ => cases accepted
        · exact .inr ⟨first, leftValue, .inr ⟨second, others⟩⟩

/-- An expression whose variables are known is faulty exactly where it takes the remainder of an
infinite dividend. -/
theorem Expression.value_fault_iff {source : Expression}
    (known : ∀ part ∈ source.variables, part.Known table) :
    source.value table = .error (.fault fault) ↔
      fault = .remainderDomain ∧ source.TakesRemainder table := by
  induction source with
  | reference source =>
      obtain ⟨value, reads⟩ := known source (List.mem_singleton_self _)
      rw [Expression.value, reads]
      exact ⟨nofun, nofun⟩
  | integer | real => exact ⟨nofun, nofun⟩
  | unary operator mark operand inductionHypothesis =>
      rw [value_unary_fault_iff, inductionHypothesis known]
      refine and_congr_right fun _ => ⟨.operand, ?_⟩
      rintro ⟨⟩
      assumption
  | binary operator mark left right leftFaulty rightFaulty =>
      have leftKnown := fun part inside => known part (List.mem_append_left _ inside)
      have rightKnown := fun part inside => known part (List.mem_append_right _ inside)
      rw [value_binary_fault_iff]
      simp only [leftFaulty leftKnown, rightFaulty rightKnown, BinaryOperator.combine_fault_iff]
      constructor
      · rintro (⟨same, inside⟩ | ⟨value, leftValue, accepted, same, inside⟩ |
          ⟨first, second, leftValue, rightValue, rfl, same, nonzero, number, infinite⟩)
        · exact ⟨same, .left inside⟩
        · exact ⟨same, .right leftValue accepted inside⟩
        · exact ⟨same, .here leftValue rightValue nonzero number infinite⟩
      · rintro ⟨same, takes⟩
        cases takes with
        | here leftValue rightValue nonzero number infinite =>
            exact .inr (.inr
              ⟨_, _, leftValue, rightValue, rfl, same, nonzero, number, infinite⟩)
        | left inside => exact .inl ⟨same, inside⟩
        | right leftValue accepted inside =>
            exact .inr (.inl ⟨_, leftValue, accepted, same, inside⟩)

end Expressions

/-- The number that is written as the width of the field, which is zero where it is left out. -/
def Format.widthNumber : Format → Nat
  | .plain => 0
  | .field width => width.number
  | .fixed width _ => width.number

/-- The number that is written as the count of places, which is zero where it is left out. -/
def Format.placesNumber : Format → Nat
  | .plain => 0
  | .field _ => 0
  | .fixed _ places => places.number

/-- An item holds a number that is finite. -/
def Item.holdsFinite (table : SymbolTable) : Item → Bool
  | .reference source =>
      match table.read source.binding with
      | .ok (.real number) => !isNaN number && !isInfinite number
      | _ => false
  | .string _ _ => false

/-- The fault of an argument, if it has one: a number of its layout that no double holds, too many
places for a finite number, or a field that is too wide. -/
def Argument.fault? (table : SymbolTable) (argument : Argument) : Option Fault :=
  if greatestFinite < argument.format.widthNumber ∨
      greatestFinite < argument.format.placesNumber then some .infinityToInteger
  else if argument.item.holdsFinite table ∧
      Layout.placesLimit < argument.format.placesNumber then some .tooManyDecimals
  else if greatestWidth < argument.format.widthNumber then some .widthTooLarge
  else none

section Layouts

variable {width places : Nat}

theorem rightJustified_cases (width : Nat) (text : String) :
    (Layout.widthLimit < width ∧ Layout.rightJustified width text = .error .widthTooLarge) ∨
      (¬Layout.widthLimit < width ∧ ∃ field, Layout.rightJustified width text = .ok field) := by
  rw [Layout.rightJustified, Int.toNat_natCast]
  by_cases wide : Layout.widthLimit < width
  · rw [if_neg (by omega), if_pos wide]
    exact .inl ⟨wide, rfl⟩
  · rw [if_neg wide]
    split <;> exact .inr ⟨wide, _, rfl⟩

theorem layOut_text (content : String) (width places : Nat) :
    (Value.text content).layOut width places = Layout.rightJustified width content := by
  rw [Value.layOut, Layout.string, if_pos (Int.natCast_nonneg width)]

/-- A finite number has at most so many places; all other numbers are names. -/
theorem text_ofReal_cases (number : Float) (places : Nat) :
    ((isNaN number = false ∧ isInfinite number = false) ∧ Layout.placesLimit < places ∧
        (Layout.ofReal number).text places = .error .tooManyDecimals) ∨
      (¬((isNaN number = false ∧ isInfinite number = false) ∧ Layout.placesLimit < places) ∧
        ∃ text, (Layout.ofReal number).text places = .ok text) := by
  rw [Layout.ofReal]
  cases noName : isNaN number with
  | true => exact .inr ⟨by simp, _, rfl⟩
  | false =>
      cases infinite : isInfinite number with
      | true => exact .inr ⟨by simp, _, rfl⟩
      | false =>
          rw [if_neg Bool.false_ne_true, if_neg Bool.false_ne_true, Layout.Magnitude.text,
            Int.toNat_natCast]
          by_cases many : Layout.placesLimit < places
          · exact .inl ⟨⟨rfl, rfl⟩, many, if_pos many⟩
          · exact .inr ⟨fun both => many both.2, _, if_neg many⟩

/-- What an item writes in a layout whose numbers are known. -/
def Item.layOut (table : SymbolTable) (item : Item) (width places : Int) : Except Halt String := do
  let value ← item.value table
  Halt.ofFault (value.layOut width places)

theorem Item.layOut_eq {item : Item} {value : Value} (found : item.value table = .ok value)
    (width places : Int) :
    item.layOut table width places = Halt.ofFault (value.layOut width places) := by
  rw [Item.layOut, found]
  rfl

/-- Over a table of real numbers a known item is laid out unless it has too many places or its
field is too wide. -/
theorem Item.layOut_cases {item : Item} (known : ∀ part ∈ item.variables, part.Known table)
    (reals : table.HoldsReals) (width places : Nat) :
    ((item.holdsFinite table ∧ Layout.placesLimit < places) ∧
        item.layOut table width places = .error (.fault .tooManyDecimals)) ∨
      ¬(item.holdsFinite table ∧ Layout.placesLimit < places) ∧
        ((Layout.widthLimit < width ∧
            item.layOut table width places = .error (.fault .widthTooLarge)) ∨
          (¬Layout.widthLimit < width ∧
            ∃ text, item.layOut table width places = .ok text)) := by
  cases item with
  | string mark content =>
      rw [Item.layOut_eq rfl, layOut_text]
      refine .inr ⟨fun both => Bool.false_ne_true both.1, ?_⟩
      obtain ⟨passed, same⟩ | ⟨kept, field, same⟩ := rightJustified_cases width content
      · exact .inl ⟨passed, by rw [same]; rfl⟩
      · exact .inr ⟨kept, field, by rw [same]; rfl⟩
  | reference source =>
      obtain ⟨value, reads⟩ := known source (List.mem_singleton_self _)
      obtain ⟨number, rfl⟩ := reals.read reads
      have found : (Item.reference source).value table = .ok (.real number) := reads
      have finite : (Item.reference source).holdsFinite table = true ↔
          isNaN number = false ∧ isInfinite number = false := by
        rw [holdsFinite, reads]
        simp
      have steps : (Value.real number).layOut width places =
          (Layout.ofReal number).text places >>= Layout.rightJustified width := rfl
      rw [Item.layOut_eq found, finite, steps]
      obtain ⟨some, many, same⟩ | ⟨few, text, same⟩ := text_ofReal_cases number places
      · exact .inl ⟨⟨some, many⟩, by rw [same]; rfl⟩
      · refine .inr ⟨few, ?_⟩
        rw [same]
        change (_ ∧ Halt.ofFault (Layout.rightJustified width text) = _) ∨
          (_ ∧ ∃ shown, Halt.ofFault (Layout.rightJustified width text) = .ok shown)
        obtain ⟨passed, same⟩ | ⟨kept, field, same⟩ := rightJustified_cases width text
        · exact .inl ⟨passed, by rw [same]; rfl⟩
        · exact .inr ⟨kept, field, by rw [same]; rfl⟩

end Layouts

theorem Width.whole_eq (width : Width) :
    width.whole = if greatestFinite < width.number then .error (.fault .infinityToInteger)
      else .ok (roundedWhole width.number) := by
  rw [Width.whole, wholePart_ofInteger]
  split <;> rfl

theorem roundedWhole_zero : roundedWhole 0 = 0 := by decide +kernel

theorem Format.fieldWidth_eq (format : Format) :
    format.fieldWidth =
      if greatestFinite < format.widthNumber then .error (.fault .infinityToInteger)
      else .ok (roundedWhole format.widthNumber) := by
  cases format with
  | plain => rw [widthNumber, if_neg (Nat.not_lt_zero _), roundedWhole_zero]; rfl
  | field width | fixed width => exact width.whole_eq

theorem Format.decimalPlaces_eq (format : Format) :
    format.decimalPlaces =
      if greatestFinite < format.placesNumber then .error (.fault .infinityToInteger)
      else .ok (roundedWhole format.placesNumber) := by
  cases format with
  | plain | field => rw [placesNumber, if_neg (Nat.not_lt_zero _), roundedWhole_zero]; rfl
  | fixed width places => exact places.whole_eq

/-- Over a table of real numbers an argument has the fault that is expected of it, or a text. -/
theorem Argument.text_cases {argument : Argument}
    (known : ∀ part ∈ argument.variables, part.Known table) (reals : table.HoldsReals) :
    (∃ fault, argument.fault? table = some fault ∧
        argument.text table = .error (.fault fault)) ∨
      (argument.fault? table = none ∧ ∃ text, argument.text table = .ok text) := by
  obtain ⟨item, format⟩ := argument
  rw [Argument.text, Argument.fault?, Format.fieldWidth_eq, Format.decimalPlaces_eq]
  dsimp only
  by_cases hugeWidth : greatestFinite < format.widthNumber
  · rw [if_pos (.inl hugeWidth), if_pos hugeWidth]
    exact .inl ⟨_, rfl, rfl⟩
  by_cases hugePlaces : greatestFinite < format.placesNumber
  · rw [if_pos (.inr hugePlaces), if_neg hugeWidth, if_pos hugePlaces]
    exact .inl ⟨_, rfl, rfl⟩
  rw [if_neg (not_or.mpr ⟨hugeWidth, hugePlaces⟩), if_neg hugeWidth, if_neg hugePlaces]
  have wide := widthLimit_lt_roundedWhole_iff format.widthNumber
  have many := placesLimit_lt_roundedWhole_iff format.placesNumber
  have shows := Item.layOut_cases known reals (roundedWhole format.widthNumber)
    (roundedWhole format.placesNumber)
  rw [wide, many] at shows
  change (∃ fault, _ ∧ item.layOut table _ _ = _) ∨ (_ ∧ ∃ text, item.layOut table _ _ = _)
  obtain ⟨both, same⟩ | ⟨few, ⟨passed, same⟩ | ⟨kept, text, same⟩⟩ := shows
  · rw [if_pos both]
    exact .inl ⟨_, rfl, same⟩
  · rw [if_neg few, if_pos passed]
    exact .inl ⟨_, rfl, same⟩
  · rw [if_neg few, if_neg kept]
    exact .inr ⟨rfl, text, same⟩

end MiniPascal
