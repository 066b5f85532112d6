/-
This file tells numeric from truth expressions by their syntax, and shows that the checks of a run
agree with that: what is well typed passes them, and what is ill-typed has no value.
-/

import MiniPascal.Proofs.Running.FaultyRuns
import MiniPascal.Proofs.Running.Invariants

namespace MiniPascal

/-- An expression yields numbers or truth values. -/
inductive ExpressionType where
  | numeric
  | truth
deriving DecidableEq, Repr

/-- The type of the operand and of the result. -/
def UnaryOperator.type : UnaryOperator → ExpressionType
  | .negation => .truth
  | .minus | .plus => .numeric

def BinaryOperator.operandType : BinaryOperator → ExpressionType
  | .conjunction | .disjunction => .truth
  | _ => .numeric

def BinaryOperator.resultType : BinaryOperator → ExpressionType
  | .add | .subtract | .multiply | .divide | .modulus => .numeric
  | _ => .truth

/-- The type of an expression by its syntax alone; an ill-typed one has none. -/
def Expression.type? : Expression → Option ExpressionType
  | .reference _ => some .numeric
  | .integer _ _ => some .numeric
  | .real _ _ => some .numeric
  | .unary operator _ operand =>
      if operand.type? = some operator.type then some operator.type else none
  | .binary operator _ left right =>
      if left.type? = some operator.operandType ∧ right.type? = some operator.operandType then
        some operator.resultType
      else none

/-- The type of the values of expressions. -/
def Value.type? : Value → Option ExpressionType
  | .real _ => some .numeric
  | .truth _ => some .truth
  | _ => none

/-- A halt at a check of types. -/
def Halt.isIncompatible : Halt → Bool
  | .error found => found.violation = .incompatibleTypes
  | .fault _ => false

variable {table : SymbolTable} {mark : Mark} {halt : Halt} {value : Value}

section Checks

/-- Two computations have a value when the first one has, and the second one behind it. -/
theorem bind_eq_ok_iff {α β : Type} {first : Except Halt α} {next : α → Except Halt β}
    {result : β} :
    first >>= next = .ok result ↔ ∃ value, first = .ok value ∧ next value = .ok result := by
  cases first with
  | error other =>
      constructor
      · intro same
        cases same
      · rintro ⟨_, same, _⟩
        cases same
  | ok value =>
      constructor
      · exact fun same => ⟨value, rfl, same⟩
      · rintro ⟨_, same, others⟩
        cases same
        exact others

/-- A check halts where its operand does, or at an operand of another type. -/
theorem Mark.number_error {found : Except Halt Value} (fails : mark.number found = .error halt) :
    found = .error halt ∨ ∃ value, found = .ok value ∧ value.type? ≠ some .numeric := by
  rw [Mark.number, bind_eq_error_iff] at fails
  obtain same | ⟨value, same, fails⟩ := fails
  · exact .inl same
  · refine .inr ⟨value, same, ?_⟩
    cases value with
    | real => cases fails
    | _ =>
        intro numeric
        cases numeric

theorem Mark.truth_error {found : Except Halt Value} (fails : mark.truth found = .error halt) :
    found = .error halt ∨ ∃ value, found = .ok value ∧ value.type? ≠ some .truth := by
  rw [Mark.truth, bind_eq_error_iff] at fails
  obtain same | ⟨value, same, fails⟩ := fails
  · exact .inl same
  · refine .inr ⟨value, same, ?_⟩
    cases value with
    | truth => cases fails
    | _ =>
        intro truth
        cases truth

end Checks

section Operators

variable {left right operand : Expression}

/-- An operator has a value only when its operand has one of its type. -/
theorem Expression.value_unary_ok {operator : UnaryOperator}
    (yields : (Expression.unary operator mark operand).value table = .ok value) :
    (∃ inner, operand.value table = .ok inner ∧ inner.type? = some operator.type) ∧
      value.type? = some operator.type := by
  cases operator with
  | negation =>
      obtain ⟨flag, inside, same⟩ := bind_eq_ok_iff.mp yields
      cases same
      exact ⟨⟨_, Mark.truth_ok_iff.mp inside, rfl⟩, rfl⟩
  | minus | plus =>
      obtain ⟨number, inside, same⟩ := bind_eq_ok_iff.mp yields
      cases same
      exact ⟨⟨_, Mark.number_ok_iff.mp inside, rfl⟩, rfl⟩

/-- What two numbers are combined to has the type of the operator. -/
theorem BinaryOperator.type_combine {operator : BinaryOperator} {first second : Float}
    (combined : operator.combine mark first second = .ok value) :
    operator.operandType = .numeric ∧ value.type? = some operator.resultType := by
  cases operator with
  | divide =>
      rw [combine] at combined
      split at combined <;> cases combined
      exact ⟨rfl, rfl⟩
  | modulus =>
      rw [combine] at combined
      split at combined
      · cases combined
      · split at combined <;> cases combined
        exact ⟨rfl, rfl⟩
  | conjunction | disjunction => cases combined
  | _ =>
      cases combined
      exact ⟨rfl, rfl⟩

theorem Expression.value_binary_ok {operator : BinaryOperator}
    (yields : (Expression.binary operator mark left right).value table = .ok value) :
    (∃ first, left.value table = .ok first ∧ first.type? = some operator.operandType) ∧
      (∃ second, right.value table = .ok second ∧ second.type? = some operator.operandType) ∧
      value.type? = some operator.resultType := by
  cases operator with
  | conjunction | disjunction =>
      obtain ⟨first, leftValue, others⟩ := bind_eq_ok_iff.mp yields
      obtain ⟨second, rightValue, same⟩ := bind_eq_ok_iff.mp others
      cases same
      exact ⟨⟨_, Mark.truth_ok_iff.mp leftValue, rfl⟩, ⟨_, Mark.truth_ok_iff.mp rightValue, rfl⟩,
        rfl⟩
  | _ =>
      obtain ⟨first, leftValue, others⟩ := bind_eq_ok_iff.mp yields
      obtain ⟨second, rightValue, combined⟩ := bind_eq_ok_iff.mp others
      obtain ⟨operands, result⟩ := BinaryOperator.type_combine combined
      exact ⟨⟨_, Mark.number_ok_iff.mp leftValue, rfl⟩, ⟨_, Mark.number_ok_iff.mp rightValue, rfl⟩,
        result⟩

/-- An operator halts where its operand does, or at an operand of another type. -/
theorem Expression.value_unary_error {operator : UnaryOperator}
    (fails : (Expression.unary operator mark operand).value table = .error halt) :
    operand.value table = .error halt ∨
      ∃ inner, operand.value table = .ok inner ∧ inner.type? ≠ some operator.type := by
  cases operator with
  | negation =>
      obtain same | ⟨_, _, same⟩ := bind_eq_error_iff.mp fails
      · exact Mark.truth_error same
      · cases same
  | minus | plus =>
      obtain same | ⟨_, _, same⟩ := bind_eq_error_iff.mp fails
      · exact Mark.number_error same
      · cases same

/-- Two numbers are combined without a check of types. -/
theorem BinaryOperator.combine_error {operator : BinaryOperator} {first second : Float}
    (numeric : operator.operandType = .numeric)
    (fails : operator.combine mark first second = .error halt) : halt.isIncompatible = false := by
  cases operator with
  | divide =>
      rw [combine] at fails
      split at fails <;> cases fails
      rfl
  | modulus =>
      rw [combine] at fails
      split at fails
      · cases fails
        rfl
      · split at fails <;> cases fails
        rfl
  | conjunction | disjunction => cases numeric
  | _ => cases fails

theorem Expression.value_binary_error {operator : BinaryOperator}
    (fails : (Expression.binary operator mark left right).value table = .error halt) :
    (left.value table = .error halt ∨
        ∃ first, left.value table = .ok first ∧ first.type? ≠ some operator.operandType) ∨
      (right.value table = .error halt ∨
        ∃ second, right.value table = .ok second ∧ second.type? ≠ some operator.operandType) ∨
      halt.isIncompatible = false := by
  cases operator with
  | conjunction | disjunction =>
      obtain same | ⟨_, _, others⟩ := bind_eq_error_iff.mp fails
      · exact .inl (Mark.truth_error same)
      obtain same | ⟨_, _, same⟩ := bind_eq_error_iff.mp others
      · exact .inr (.inl (Mark.truth_error same))
      · cases same
  | _ =>
      obtain same | ⟨_, _, others⟩ := bind_eq_error_iff.mp fails
      · exact .inl (Mark.number_error same)
      obtain same | ⟨_, _, combined⟩ := bind_eq_error_iff.mp others
      · exact .inr (.inl (Mark.number_error same))
      · exact .inr (.inr (BinaryOperator.combine_error rfl combined))

end Operators

/-- Over a table of real numbers a value has exactly the type that the syntax tells. -/
theorem Expression.type_value {source : Expression} (reals : table.HoldsReals)
    (yields : source.value table = .ok value) :
    ∃ type, source.type? = some type ∧ value.type? = some type := by
  induction source generalizing value with
  | reference source =>
      obtain ⟨number, rfl⟩ := reals.read yields
      exact ⟨.numeric, rfl, rfl⟩
  | integer | real =>
      cases yields
      exact ⟨.numeric, rfl, rfl⟩
  | unary operator mark operand inductionHypothesis =>
      obtain ⟨⟨inner, inside, accepted⟩, result⟩ := value_unary_ok yields
      obtain ⟨type, syntactic, same⟩ := inductionHypothesis inside
      rw [accepted] at same
      cases same
      exact ⟨_, if_pos syntactic, result⟩
  | binary operator mark left right leftTyped rightTyped =>
      obtain ⟨⟨first, leftValue, leftAccepted⟩, ⟨second, rightValue, rightAccepted⟩, result⟩ :=
        value_binary_ok yields
      obtain ⟨_, leftSyntactic, leftSame⟩ := leftTyped leftValue
      obtain ⟨_, rightSyntactic, rightSame⟩ := rightTyped rightValue
      rw [leftAccepted] at leftSame
      rw [rightAccepted] at rightSame
      cases leftSame
      cases rightSame
      exact ⟨_, if_pos ⟨leftSyntactic, rightSyntactic⟩, result⟩

/-- An operand of the type that is asked for halts only for a reason of its own. -/
theorem Expression.not_incompatible_of_operand {source : Expression} {type : ExpressionType}
    (reals : table.HoldsReals) (typed : source.type? = some type)
    (own : source.value table = .error halt → halt.isIncompatible = false)
    (fails : source.value table = .error halt ∨
      ∃ value, source.value table = .ok value ∧ value.type? ≠ some type) :
    halt.isIncompatible = false := by
  obtain same | ⟨value, yields, wrong⟩ := fails
  · exact own same
  · obtain ⟨found, syntactic, same⟩ := type_value reals yields
    exact absurd (same.trans (syntactic.symm.trans typed)) wrong

theorem SymbolTable.not_incompatible_of_read {binding : Binding}
    (fails : table.read binding = .error halt) : halt.isIncompatible = false := by
  cases binding with
  | detached => cases fails
  | cell key name =>
      rw [read] at fails
      cases found : table.find? key <;> rw [found] at fails <;> cases fails
      rfl

/-- Over a table of real numbers a well-typed expression passes all checks of types. -/
theorem Expression.not_incompatible {source : Expression} {type : ExpressionType}
    (reals : table.HoldsReals) (typed : source.type? = some type)
    (fails : source.value table = .error halt) : halt.isIncompatible = false := by
  induction source generalizing type with
  | reference source => exact SymbolTable.not_incompatible_of_read fails
  | integer | real => cases fails
  | unary operator mark operand inductionHypothesis =>
      rw [type?] at typed
      split at typed
      case isTrue operandTyped =>
        exact not_incompatible_of_operand reals operandTyped (inductionHypothesis operandTyped)
          (value_unary_error fails)
      case isFalse => cases typed
  | binary operator mark left right leftPasses rightPasses =>
      rw [type?] at typed
      split at typed
      case isTrue both =>
        obtain leftFails | rightFails | other := value_binary_error fails
        · exact not_incompatible_of_operand reals both.1 (leftPasses both.1) leftFails
        · exact not_incompatible_of_operand reals both.2 (rightPasses both.2) rightFails
        · exact other
      case isFalse => cases typed

end MiniPascal
