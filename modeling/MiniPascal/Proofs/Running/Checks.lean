/-
This file lists the checks of an expression in the order in which they are made, and shows that an
expression has a value when all of them pass and fails with the first one that does not.
-/

import MiniPascal.Proofs.Running.Typing

namespace MiniPascal

/-- What an evaluation checks: that an operand has a value of the type that its operator takes, or
that an operator can combine the numbers of its operands. -/
inductive Check where
  | operand (mark : Mark) (type : ExpressionType) (source : Expression)
  | combination (operator : BinaryOperator) (mark : Mark) (left right : Expression)

/-- The checks of the left operand come first, then its type, then the checks of the right operand,
then its type, and those of the operator last. -/
def Expression.checks : Expression → List Check
  | .reference _ => []
  | .integer _ _ => []
  | .real _ _ => []
  | .unary operator mark operand => operand.checks ++ [.operand mark operator.type operand]
  | .binary operator mark left right =>
      left.checks ++ [.operand mark operator.operandType left] ++
        (right.checks ++ [.operand mark operator.operandType right] ++
          [.combination operator mark left right])

/-- All expressions inside an expression, which is not one of them. -/
def Expression.parts : Expression → List Expression
  | .reference _ => []
  | .integer _ _ => []
  | .real _ _ => []
  | .unary _ _ operand => operand :: operand.parts
  | .binary _ _ left right => left :: left.parts ++ right :: right.parts

/-- What the tree of an expression leaves when it is run alone. -/
def Expression.alone (bound : Nat) (machine : Machine) (source : Expression) : Outcome Value :=
  (source.toTree.visit bound).on machine

/-- A division and a remainder need a divisor other than zero, and a remainder needs a dividend that
is not infinite unless the divisor is not a number. -/
def BinaryOperator.failure? (operator : BinaryOperator) (mark : Mark) (left right : Float) :
    Option Halt :=
  if (operator = .divide ∨ operator = .modulus) ∧ (right == 0) = true then
    some (.error ⟨.divisionByZero, mark.line, some mark.text⟩)
  else if operator = .modulus ∧ Binary64.isInfinite left = true ∧ Binary64.isNaN right = false then
    some (.fault .remainderDomain)
  else none

/-- The failure of a check, which looks only at what its operands yield alone. Where an operand has
no value, an earlier check has failed. -/
def Check.failure? (bound : Nat) (machine : Machine) : Check → Option Halt
  | .operand mark type source =>
      match (source.alone bound machine).result with
      | .error _ => none
      | .ok value =>
          if value.type? = some type then none
          else some (.error ⟨.incompatibleTypes, mark.line, some mark.text⟩)
  | .combination operator mark left right =>
      match (left.alone bound machine).result, (right.alone bound machine).result with
      | .ok (.real first), .ok (.real second) => operator.failure? mark first second
      | _, _ => none

/-- The operator of an expression accepts what its operands yield alone. -/
def Expression.Accepts (bound : Nat) (machine : Machine) : Expression → Prop
  | .reference _ => True
  | .integer _ _ => True
  | .real _ _ => True
  | .unary operator mark operand =>
      (Check.operand mark operator.type operand).failure? bound machine = none
  | .binary operator mark left right =>
      (Check.operand mark operator.operandType left).failure? bound machine = none ∧
        (Check.operand mark operator.operandType right).failure? bound machine = none ∧
        (Check.combination operator mark left right).failure? bound machine = none

variable {bound : Nat} {machine : Machine} {table : SymbolTable} {mark : Mark} {halt : Halt}
  {value : Value}

theorem Expression.alone_eq (source : Expression) :
    source.alone bound machine = machine.settle (source.value machine.table) :=
  source.finds_value bound machine

theorem Expression.alone_ok_iff {source : Expression} :
    (source.alone bound machine).result = .ok value ↔ source.value machine.table = .ok value := by
  rw [alone_eq]
  cases source.value machine.table with
  | ok other => exact ⟨fun same => by cases same; rfl, fun same => by cases same; rfl⟩
  | error halt => exact ⟨nofun, nofun⟩

/-- The outcome of an expression tells how it halts. -/
theorem Expression.alone_error_iff {source : Expression} :
    source.alone bound machine = machine.settle (.error halt) ↔
      source.value machine.table = .error halt := by
  rw [alone_eq]
  cases source.value machine.table with
  | ok value =>
      refine ⟨fun same => ?_, nofun⟩
      cases congrArg Outcome.result same
  | error other =>
      refine ⟨fun same => ?_, fun same => by rw [same]⟩
      rw [Halt.toStop_injective (Except.error.inj (congrArg Outcome.result same))]

section Failures

/-- The check of an operand fails when it has a value of another type. -/
theorem Check.operand_failure? {type : ExpressionType} {source : Expression} :
    (Check.operand mark type source).failure? bound machine =
      match source.value machine.table with
      | .error _ => none
      | .ok value =>
          if value.type? = some type then none
          else some (.error ⟨.incompatibleTypes, mark.line, some mark.text⟩) := by
  rw [failure?, Expression.alone_eq]
  cases source.value machine.table <;> rfl

theorem Check.combination_failure? {operator : BinaryOperator} {left right : Expression}
    {first second : Float} (leftValue : left.value machine.table = .ok (.real first))
    (rightValue : right.value machine.table = .ok (.real second)) :
    (Check.combination operator mark left right).failure? bound machine =
      operator.failure? mark first second := by
  rw [failure?, Expression.alone_ok_iff.mpr leftValue, Expression.alone_ok_iff.mpr rightValue]

/-- Where the operands are truth values nothing is combined. -/
theorem Check.combination_of_truth {operator : BinaryOperator} {left right : Expression}
    {flag : Bool} (leftValue : left.value machine.table = .ok (.truth flag)) :
    (Check.combination operator mark left right).failure? bound machine = none := by
  rw [failure?, Expression.alone_ok_iff.mpr leftValue]

/-- Two numbers are combined unless the check of the operator fails. -/
theorem BinaryOperator.combine_error_iff {operator : BinaryOperator} {left right : Float}
    (numeric : operator.operandType = .numeric) :
    operator.combine mark left right = .error halt ↔
      operator.failure? mark left right = some halt := by
  cases operator with
  | divide =>
      rw [combine, failure?]
      cases (right == 0) with
      | true => simp [Mark.violates]
      | false => simp
  | modulus =>
      rw [combine, failure?]
      cases zero : (right == 0) with
      | true => simp [Mark.violates]
      | false =>
          have fails : Binary64.remainder? left right = none ↔
              Binary64.isInfinite left = true ∧ Binary64.isNaN right = false :=
            Binary64.remainder?_eq_none zero
          cases found : Binary64.remainder? left right with
          | none => simp [fails.mp found]
          | some remainder =>
              have kept : ¬(Binary64.isInfinite left = true ∧ Binary64.isNaN right = false) := by
                rw [← fails, found]
                exact Option.some_ne_none remainder
              simp [kept]
  | conjunction | disjunction => cases numeric
  | _ =>
      constructor
      · intro fails
        cases fails
      · intro fails
        cases fails

end Failures

/-- The halt of a computation that has no value. -/
def haltOf? {α : Type} : Except Halt α → Option Halt
  | .ok _ => none
  | .error halt => some halt

theorem haltOf?_eq_some {α : Type} {found : Except Halt α} :
    haltOf? found = some halt ↔ found = .error halt := by
  cases found with
  | ok value => exact ⟨nofun, nofun⟩
  | error other => exact ⟨fun same => by cases same; rfl, fun same => by cases same; rfl⟩

/-- The token with the mark accepts values of one type only. -/
def Mark.accepted (mark : Mark) (type : ExpressionType) (found : Except Halt Value) :
    Except Halt Value := do
  let value ← found
  if value.type? = some type then return value else mark.violates .incompatibleTypes

section FirstFailure

variable {left right operand source : Expression}

/-- An operand is accepted when it has a value and the check of its type passes. -/
theorem Check.or_operand_failure? {type : ExpressionType} :
    (haltOf? (source.value machine.table)).or
        ((Check.operand mark type source).failure? bound machine) =
      haltOf? (mark.accepted type (source.value machine.table)) := by
  rw [operand_failure?]
  cases source.value machine.table with
  | error halt => rfl
  | ok value =>
      change (if _ then _ else _) = haltOf? (if _ then _ else _)
      split <;> rfl

/-- A unary operator halts where its operand is not accepted. -/
theorem Expression.haltOf?_unary (operator : UnaryOperator) :
    haltOf? ((Expression.unary operator mark operand).value table) =
      haltOf? (mark.accepted operator.type (operand.value table)) := by
  cases operator <;>
  · rw [value]
    cases operand.value table with
    | error halt => rfl
    | ok value => cases value <;> rfl

/-- The check for a number fails as the one of its type does. -/
theorem Mark.number_eq_error_iff {found : Except Halt Value} :
    mark.number found = .error halt ↔ mark.accepted .numeric found = .error halt := by
  cases found with
  | error other => constructor <;> intro fails <;> cases fails <;> rfl
  | ok value =>
      cases value <;> constructor <;> intro fails <;> cases fails
      all_goals rfl

theorem Mark.truth_eq_error_iff {found : Except Halt Value} :
    mark.truth found = .error halt ↔ mark.accepted .truth found = .error halt := by
  cases found with
  | error other => constructor <;> intro fails <;> cases fails <;> rfl
  | ok value =>
      cases value <;> constructor <;> intro fails <;> cases fails
      all_goals rfl

/-- All operators that take numbers check them alike. -/
theorem Expression.value_of_numeric {operator : BinaryOperator}
    (numeric : operator.operandType = .numeric) :
    (Expression.binary operator mark left right).value table =
      (do
        let first ← mark.number (left.value table)
        let second ← mark.number (right.value table)
        operator.combine mark first second) := by
  cases operator with
  | conjunction | disjunction => cases numeric
  | _ => rfl

/-- What is accepted is a value of the type. -/
theorem Mark.accepted_eq_ok {type : ExpressionType} {found : Except Halt Value}
    (accepts : mark.accepted type found = .ok value) :
    found = .ok value ∧ value.type? = some type := by
  obtain ⟨other, same, accepts⟩ := bind_eq_ok_iff.mp accepts
  split at accepts
  case isTrue typed =>
    cases accepts
    exact ⟨same, typed⟩
  case isFalse => cases accepts

theorem Expression.value_of_left_refused {operator : BinaryOperator}
    (refused : mark.accepted operator.operandType (left.value table) = .error halt) :
    (Expression.binary operator mark left right).value table = .error halt := by
  cases operator with
  | conjunction | disjunction =>
      rw [value, Mark.truth_eq_error_iff.mpr refused]
      rfl
  | _ =>
      rw [value_of_numeric rfl, Mark.number_eq_error_iff.mpr refused]
      rfl

theorem Expression.value_of_right_refused {operator : BinaryOperator}
    (accepts : mark.accepted operator.operandType (left.value table) = .ok value)
    (refused : mark.accepted operator.operandType (right.value table) = .error halt) :
    (Expression.binary operator mark left right).value table = .error halt := by
  obtain ⟨leftValue, typed⟩ := Mark.accepted_eq_ok accepts
  cases operator with
  | conjunction | disjunction =>
      cases value <;> cases typed
      rw [Expression.value, Mark.truth_eq_error_iff.mpr refused, leftValue]
      rfl
  | _ =>
      cases value <;> cases typed
      rw [value_of_numeric rfl, Mark.number_eq_error_iff.mpr refused, leftValue]
      rfl

/-- Two operands that are accepted are combined where the check of the operator passes. -/
theorem Expression.haltOf?_of_accepted {operator : BinaryOperator} {first second : Value}
    (leftAccepts : mark.accepted operator.operandType (left.value machine.table) = .ok first)
    (rightAccepts : mark.accepted operator.operandType (right.value machine.table) = .ok second) :
    haltOf? ((Expression.binary operator mark left right).value machine.table) =
      (Check.combination operator mark left right).failure? bound machine := by
  obtain ⟨leftValue, leftTyped⟩ := Mark.accepted_eq_ok leftAccepts
  obtain ⟨rightValue, rightTyped⟩ := Mark.accepted_eq_ok rightAccepts
  have combined {left right : Float} (numeric : operator.operandType = .numeric) :
      haltOf? (operator.combine mark left right) = operator.failure? mark left right := by
    refine Option.ext fun halt => ?_
    rw [haltOf?_eq_some, BinaryOperator.combine_error_iff numeric]
  cases operator with
  | conjunction | disjunction =>
      cases first <;> cases leftTyped
      cases second <;> cases rightTyped
      rw [Check.combination_of_truth leftValue, value, leftValue, rightValue]
      rfl
  | _ =>
      cases first <;> cases leftTyped
      cases second <;> cases rightTyped
      rw [Check.combination_failure? leftValue rightValue, ← combined rfl,
        value_of_numeric rfl, leftValue, rightValue]
      rfl

/-- A binary operator halts where its left operand is not accepted, then where its right operand is
not accepted, and then where it cannot combine them. -/
theorem Expression.haltOf?_binary (bound : Nat) (operator : BinaryOperator) :
    haltOf? ((Expression.binary operator mark left right).value machine.table) =
      ((haltOf? (mark.accepted operator.operandType (left.value machine.table))).or
        (haltOf? (mark.accepted operator.operandType (right.value machine.table)))).or
          ((Check.combination operator mark left right).failure? bound machine) := by
  cases leftFound : mark.accepted operator.operandType (left.value machine.table) with
  | error halt =>
      rw [value_of_left_refused leftFound]
      rfl
  | ok first =>
      cases rightFound : mark.accepted operator.operandType (right.value machine.table) with
      | error halt =>
          rw [value_of_right_refused leftFound rightFound]
          rfl
      | ok second => exact haltOf?_of_accepted leftFound rightFound

/-- The first check that fails tells how an expression halts. -/
theorem Expression.findSome?_failure? (known : ∀ part ∈ source.variables, part.Known machine.table) :
    source.checks.findSome? (·.failure? bound machine) =
      haltOf? (source.value machine.table) := by
  induction source with
  | reference source =>
      obtain ⟨number, reads⟩ := known source (List.mem_singleton_self _)
      rw [Expression.value, reads]
      rfl
  | integer | real => rfl
  | unary operator mark operand inductionHypothesis =>
      rw [checks, List.findSome?_append, inductionHypothesis known, List.findSome?_singleton,
        Check.or_operand_failure?, haltOf?_unary]
  | binary operator mark left right leftFirst rightFirst =>
      have leftKnown := fun part inside => known part (List.mem_append_left _ inside)
      have rightKnown := fun part inside => known part (List.mem_append_right _ inside)
      simp only [checks, List.findSome?_append, leftFirst leftKnown, rightFirst rightKnown,
        List.findSome?_singleton, Check.or_operand_failure?]
      rw [haltOf?_binary bound operator, Option.or_assoc]

end FirstFailure

section AllPass

variable {source : Expression}

theorem haltOf?_eq_none {α : Type} {found : Except Halt α} :
    haltOf? found = none ↔ ∃ result, found = .ok result := by
  cases found with
  | ok result => exact ⟨fun _ => ⟨result, rfl⟩, fun _ => rfl⟩
  | error halt => exact ⟨nofun, nofun⟩

/-- An operand has a value of the type that is asked for when its check passes. -/
theorem Mark.haltOf?_accepted {type : ExpressionType}
    (yields : source.value machine.table = .ok value) :
    haltOf? (mark.accepted type (source.value machine.table)) =
      (Check.operand mark type source).failure? bound machine := by
  rw [← Check.or_operand_failure?, yields]
  rfl

/-- An operator has a value when its operands have one and it accepts them. -/
theorem Expression.value_of_accepts (known : ∀ part ∈ source.variables, part.Known machine.table)
    (parts : ∀ part ∈ source.parts, ∃ inner, part.value machine.table = .ok inner)
    (accepts : source.Accepts bound machine) : ∃ result, source.value machine.table = .ok result := by
  cases source with
  | reference source => exact known source (List.mem_singleton_self _)
  | integer | real => exact ⟨_, rfl⟩
  | unary operator mark operand =>
      obtain ⟨inner, yields⟩ := parts operand List.mem_cons_self
      rw [← haltOf?_eq_none, haltOf?_unary, Mark.haltOf?_accepted yields, accepts]
  | binary operator mark left right =>
      obtain ⟨first, leftYields⟩ := parts left List.mem_cons_self
      obtain ⟨second, rightYields⟩ := parts right (List.mem_append_right _ List.mem_cons_self)
      obtain ⟨leftAccepted, rightAccepted, combines⟩ := accepts
      rw [← haltOf?_eq_none, haltOf?_binary bound, Mark.haltOf?_accepted leftYields,
        Mark.haltOf?_accepted rightYields, leftAccepted, rightAccepted, combines]
      rfl

/-- An operator that has a value accepts its operands. -/
theorem Expression.accepts_of_value (yields : source.value machine.table = .ok value) :
    source.Accepts bound machine := by
  have passes : haltOf? (source.value machine.table) = none := haltOf?_eq_none.mpr ⟨_, yields⟩
  cases source with
  | reference | integer | real => trivial
  | unary operator mark operand =>
      obtain ⟨⟨inner, inside, _⟩, _⟩ := value_unary_ok yields
      rw [haltOf?_unary, Mark.haltOf?_accepted inside] at passes
      exact passes
  | binary operator mark left right =>
      obtain ⟨⟨first, leftYields, _⟩, ⟨second, rightYields, _⟩, _⟩ := value_binary_ok yields
      rw [haltOf?_binary bound, Mark.haltOf?_accepted leftYields,
        Mark.haltOf?_accepted rightYields, Option.or_eq_none_iff, Option.or_eq_none_iff] at passes
      exact ⟨passes.1.1, passes.1.2, passes.2⟩

/-- All parts of an expression that has a value have one, and every operator accepts its
operands. -/
theorem Expression.parts_of_value (yields : source.value machine.table = .ok value) :
    (∀ part ∈ source.parts, ∃ inner, part.value machine.table = .ok inner) ∧
      ∀ node ∈ source :: source.parts, node.Accepts bound machine := by
  suffices inside : ∀ part ∈ source.parts,
      (∃ inner, part.value machine.table = .ok inner) ∧ part.Accepts bound machine from
    ⟨fun part found => (inside part found).1, fun node found =>
      (List.mem_cons.mp found).elim (fun same => same ▸ accepts_of_value yields)
        fun found => (inside node found).2⟩
  induction source generalizing value with
  | reference | integer | real => exact nofun
  | unary operator mark operand inductionHypothesis =>
      obtain ⟨⟨inner, inside, _⟩, _⟩ := value_unary_ok yields
      intro part found
      obtain rfl | found := List.mem_cons.mp found
      · exact ⟨⟨inner, inside⟩, accepts_of_value inside⟩
      · exact inductionHypothesis inside part found
  | binary operator mark left right leftParts rightParts =>
      obtain ⟨⟨first, leftYields, _⟩, ⟨second, rightYields, _⟩, _⟩ := value_binary_ok yields
      intro part found
      obtain found | found := List.mem_append.mp found
      · obtain rfl | found := List.mem_cons.mp found
        · exact ⟨⟨first, leftYields⟩, accepts_of_value leftYields⟩
        · exact leftParts leftYields part found
      · obtain rfl | found := List.mem_cons.mp found
        · exact ⟨⟨second, rightYields⟩, accepts_of_value rightYields⟩
        · exact rightParts rightYields part found

/-- The right operand is evaluated whatever truth value the left one has. -/
theorem Expression.value_of_right_halts {operator : BinaryOperator} {left right : Expression}
    {flag : Bool} (logical : operator.operandType = .truth)
    (leftYields : left.value machine.table = .ok (.truth flag))
    (rightHalts : right.value machine.table = .error halt) :
    (Expression.binary operator mark left right).value machine.table = .error halt := by
  have accepts : mark.accepted operator.operandType (left.value machine.table) =
      .ok (.truth flag) := by
    rw [leftYields, logical]
    rfl
  refine value_of_right_refused accepts ?_
  rw [rightHalts]
  rfl

end AllPass

/-- An expression has a value exactly when all its parts have one, each run alone on the same
machine, and every operator accepts what its operands yield. It fails exactly like the first check
that fails, where the left operand is checked before the right one and the operator last; so a
conjunction or a disjunction fails where its right operand does, whatever the left one yields. -/
theorem evaluation_checks_from_left_to_right (bound : Nat) (machine : Machine)
    (source : Expression) (known : ∀ part ∈ source.variables, part.Known machine.table) :
    ((∃ value, (source.alone bound machine).result = .ok value) ↔
      (∀ part ∈ source.parts, ∃ value, (part.alone bound machine).result = .ok value) ∧
        ∀ node ∈ source :: source.parts, node.Accepts bound machine) ∧
    (∀ halt, source.alone bound machine = machine.settle (.error halt) ↔
      source.checks.findSome? (·.failure? bound machine) = some halt) ∧
    ∀ operator mark left right flag halt, source = .binary operator mark left right →
      operator.operandType = .truth → (left.alone bound machine).result = .ok (.truth flag) →
      right.alone bound machine = machine.settle (.error halt) →
      source.alone bound machine = machine.settle (.error halt) := by
  refine ⟨?_, fun halt => ?_, ?_⟩
  · simp only [Expression.alone_ok_iff]
    exact ⟨fun ⟨value, yields⟩ => Expression.parts_of_value yields, fun ⟨parts, accept⟩ =>
      Expression.value_of_accepts known parts (accept source List.mem_cons_self)⟩
  · rw [Expression.alone_error_iff, Expression.findSome?_failure? known, haltOf?_eq_some]
  · rintro operator mark left right flag halt rfl logical leftYields rightHalts
    rw [Expression.alone_ok_iff] at leftYields
    rw [Expression.alone_error_iff] at rightHalts ⊢
    exact Expression.value_of_right_halts logical leftYields rightHalts

/-- A conjunction whose left operand is false and whose right operand divides by zero. -/
def falseAndFailing : Expression :=
  .binary .conjunction ⟨"and", 1⟩
    (.binary .less ⟨"<", 1⟩ (.reference ⟨⟨"x", 1⟩, .cell "x" "x"⟩) (.integer ⟨"0", 1⟩ 0))
    (.binary .greater ⟨">", 2⟩
      (.binary .divide ⟨"/", 2⟩ (.integer ⟨"1", 2⟩ 1) (.reference ⟨⟨"x", 2⟩, .cell "x" "x"⟩))
      (.integer ⟨"0", 2⟩ 0))

theorem falseAndFailing_fails :
    falseAndFailing.alone 0 (.start (SymbolTable.empty.enter "x")) =
      (Machine.start (SymbolTable.empty.enter "x")).settle
        (.error (.error ⟨.divisionByZero, 2, some "/"⟩)) := by
  have known : ∀ part ∈ falseAndFailing.variables,
      part.Known (SymbolTable.empty.enter "x") :=
    List.forall_mem_cons.mpr ⟨⟨_, by cbv⟩,
      List.forall_mem_cons.mpr ⟨⟨_, by cbv⟩, nofun⟩⟩
  exact ((evaluation_checks_from_left_to_right 0 (.start (SymbolTable.empty.enter "x"))
    falseAndFailing known).2.1 _).mpr (by decide +kernel)

end MiniPascal
