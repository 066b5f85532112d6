/-
This file runs the parsers of expressions and statements in front of a segment: what they find and
report depends only on the segment and the token behind it, and there is at most one syntax error.
-/

import MiniPascal.Lowering
import MiniPascal.Proofs.Parsing.GrammarSoundness
import MiniPascal.Proofs.Parsing.Segments
import MiniPascal.Proofs.Parsing.StatementCompleteness
import MiniPascal.Proofs.Trees.Relabel

namespace MiniPascal

open Parse

section Kinds

variable {kind : Kind}

theorem inside_of_isSymbol {mark : Symbol} (apart : endsStatement (.symbol mark) = false)
    (kind : Kind) (found : kind.isSymbol mark = true) : endsStatement kind = false := by
  rw [Kind.isSymbol_iff.mp found, apart]

theorem inside_of_isKeyword {word : Keyword} (apart : endsStatement (.keyword word) = false)
    (kind : Kind) (found : kind.isKeyword word = true) : endsStatement kind = false := by
  rw [Kind.isKeyword_iff.mp found, apart]

theorem inside_of_isOperator (operates : kind.isOperator = true) : endsStatement kind = false := by
  cases kind with
  | symbol mark => cases mark <;> first | rfl | cases operates
  | keyword word => cases word <;> first | rfl | cases operates
  | _ => cases operates

end Kinds

/-- The same expression, apart from the bindings of its variables. -/
def Expression.Alike (one other : Expression) : Prop := other.toTree.bare = one.toTree.bare

theorem Expression.Alike.unary {one other : Expression} (alike : one.Alike other)
    (operator : UnaryOperator) (mark : Mark) :
    (unary operator mark one).Alike (.unary operator mark other) := by
  have same : other.toTree.bare = one.toTree.bare := alike
  simp [Alike, toTree, same]

theorem Expression.Alike.binary {left leftTwin right rightTwin : Expression}
    (lefts : left.Alike leftTwin) (rights : right.Alike rightTwin) (operator : BinaryOperator)
    (mark : Mark) :
    (binary operator mark left right).Alike (.binary operator mark leftTwin rightTwin) := by
  have sameLeft : leftTwin.toTree.bare = left.toTree.bare := lefts
  have sameRight : rightTwin.toTree.bare = right.toTree.bare := rights
  simp [Alike, toTree, sameLeft, sameRight]

theorem Variable.bare_toTree {source twin : Variable} (same : twin.mark = source.mark) :
    twin.toTree.bare = source.toTree.bare := by
  simp [toTree, Label.bare, same]

/-- The same statement, apart from the bindings of its variables. -/
def Statement.Alike (one other : Statement) : Prop := other.toTree.bare = one.toTree.bare

namespace Statement.Alike

variable {argument argumentTwin : Argument} {condition conditionTwin : Expression}
  {branch branchTwin otherwise otherTwin : Statement}

theorem assign {target twin : Variable} {value valueTwin : Expression}
    (targets : twin.mark = target.mark) (values : value.Alike valueTwin) :
    (Statement.assign target.mark.line target value).Alike
      (.assign twin.mark.line twin valueTwin) := by
  have sameTarget := Variable.bare_toTree targets
  have sameValue : valueTwin.toTree.bare = value.toTree.bare := values
  simp [Alike, toTree, sameTarget, sameValue, targets]

theorem write (line : Nat)
    (arguments : argumentTwin.toTrees.map Tree.bare = argument.toTrees.map Tree.bare) :
    (Statement.write line argument).Alike (.write line argumentTwin) := by
  simp [Alike, toTree, arguments]

theorem writeln (line : Nat)
    (arguments : argumentTwin.toTrees.map Tree.bare = argument.toTrees.map Tree.bare) :
    (Statement.writeln line (some argument)).Alike (.writeln line (some argumentTwin)) := by
  simp [Alike, toTree, arguments]

theorem ifThen (line : Nat) (test : Mark) (conditions : condition.Alike conditionTwin)
    (branches : branch.Alike branchTwin) :
    (Statement.ifThen line test condition branch).Alike
      (.ifThen line test conditionTwin branchTwin) := by
  have sameTest : conditionTwin.toTree.bare = condition.toTree.bare := conditions
  have sameBranch : branchTwin.toTree.bare = branch.toTree.bare := branches
  simp [Alike, toTree, testTree, sameTest, sameBranch]

theorem ifElse (line : Nat) (test : Mark) (conditions : condition.Alike conditionTwin)
    (branches : branch.Alike branchTwin) (others : otherwise.Alike otherTwin) :
    (Statement.ifElse line test condition branch otherwise).Alike
      (.ifElse line test conditionTwin branchTwin otherTwin) := by
  have sameTest : conditionTwin.toTree.bare = condition.toTree.bare := conditions
  have sameBranch : branchTwin.toTree.bare = branch.toTree.bare := branches
  have sameOther : otherTwin.toTree.bare = otherwise.toTree.bare := others
  simp [Alike, toTree, testTree, sameTest, sameBranch, sameOther]

end Statement.Alike

/-- An assignment enters and passes its target first. -/
theorem Parse.assignmentOf_eq (expression : Parse Expression) :
    assignmentOf expression = (do
      let target ← (do
        let target ← declare
        advance
        return target)
      require (·.isSymbol .colonEquals) .missingAssignment
      let value ← expression
      return .assign target.mark.line target value) := by
  simp only [assignmentOf, bind_assoc, pure_bind]

namespace Borders

/-- No list of statements is opened inside a segment or at a border. -/
theorem Beside.noOpening {borders : Borders} {tokens : List Token} {state copy : ParseState}
    (beside : borders.Beside tokens state copy) :
    state.stream.current.kind.isKeyword .beginWord = false ∧
      state.stream.current.kind.isKeyword .repeatWord = false := by
  cases tokens with
  | nil =>
      have ends := borders.one.current_ends
      rw [← beside.stands] at ends
      constructor
      all_goals
        refine Bool.eq_false_iff.mpr fun found => ?_
        rw [Kind.isKeyword_iff.mp found] at ends
        cases ends
  | cons token left =>
      have inner := beside.inner token List.mem_cons_self
      rw [beside.stands]
      simp only [Kind.isInner, Bool.and_eq_true, Bool.not_eq_true'] at inner
      exact ⟨inner.1.2, inner.2⟩

theorem Beside.noElse {borders : Borders} {state copy : ParseState}
    (beside : borders.Beside [] state copy) :
    state.stream.current.kind.isKeyword .elseWord = false ∧
      copy.stream.current.kind.isKeyword .elseWord = false := by
  have ends := borders.one.current_ends
  rw [← beside.stands] at ends
  rw [beside.current, and_self]
  exact (apart_of_endsStatement ends).2.2

/-- From any two states before the same tokens a parser runs side by side with itself. -/
def Coincides {α : Type} (borders : Borders) (swallows : Prop) (same : α → α → Prop)
    (parse : Parse α) : Prop :=
  ∀ ⦃tokens state copy⦄, borders.Beside tokens state copy →
    borders.Runs swallows same tokens parse parse state copy

namespace Coincides

variable {borders : Borders} {tokens : List Token} {state copy : ParseState}

section Expressions

variable {factor operand : Parse Expression}

theorem chain {operator? : Kind → Option BinaryOperator}
    (inside : ∀ kind operator, operator? kind = some operator → endsStatement kind = false)
    (operands : borders.Coincides False Expression.Alike operand) (count : Nat)
    {left twin : Expression} (lefts : left.Alike twin)
    (beside : borders.Beside tokens state copy) :
    borders.Runs False Expression.Alike tokens (Parse.chain operator? operand count left)
      (Parse.chain operator? operand count twin) state copy := by
  induction count generalizing left twin tokens state copy with
  | zero => exact .pure beside lefts
  | succ count inductionHypothesis =>
      refine .current beside ?_
      cases goesOn : operator? state.stream.current.kind with
      | none => exact .pure beside lefts
      | some operator =>
          refine .bind (.mark beside (inside _ _ goesOn)) ?_
          rintro mark _ _ _ _ beside rfl
          refine .bind (operands beside) ?_
          intro right rightTwin _ _ _ beside rights
          exact inductionHypothesis (lefts.binary rights operator mark) beside

theorem termOf (factors : borders.Coincides False Expression.Alike factor) (count : Nat) :
    borders.Coincides False Expression.Alike (Parse.termOf factor count) := by
  intro tokens state copy beside
  refine .bind (factors beside) ?_
  intro first twin _ _ _ beside firsts
  have inside (kind operator) (found : Parse.multiplying? kind = some operator) :
      endsStatement kind = false :=
    inside_of_isOperator (@Rank.isOperator .multiplying kind operator found)
  exact Coincides.chain inside factors count firsts beside

theorem simpleExpressionOf (factors : borders.Coincides False Expression.Alike factor)
    (count : Nat) :
    borders.Coincides False Expression.Alike (Parse.simpleExpressionOf factor count) := by
  intro tokens state copy beside
  have terms := termOf factors count
  have inside (kind operator) (found : Parse.adding? kind = some operator) :
      endsStatement kind = false :=
    inside_of_isOperator (@Rank.isOperator .adding kind operator found)
  refine .current beside ?_
  split
  case h_1 =>
    refine .bind (terms beside) ?_
    exact fun first twin _ _ _ beside firsts =>
      Coincides.chain inside terms count firsts beside
  case h_2 operator isSign =>
    refine .bind (.mark beside (inside_of_isOperator (sign?_isOperator isSign))) ?_
    rintro mark _ _ _ _ beside rfl
    refine .bind (terms beside) ?_
    intro operand twin _ _ _ beside operands
    refine .bind (.pure beside (operands.unary operator mark)) ?_
    exact fun first twin _ _ _ beside firsts =>
      Coincides.chain inside terms count firsts beside

theorem expressionOf (factors : borders.Coincides False Expression.Alike factor) (count : Nat) :
    borders.Coincides False Expression.Alike (Parse.expressionOf factor count) := by
  intro tokens state copy beside
  have simples := simpleExpressionOf factors count
  refine .bind (simples beside) ?_
  intro left leftTwin _ middle _ beside lefts
  refine .current beside ?_
  cases compares : relational? middle.stream.current.kind with
  | none => exact .pure beside lefts
  | some operator =>
      refine .bind (.mark beside (inside_of_isOperator (relational?_isOperator compares))) ?_
      rintro mark _ _ _ _ beside rfl
      refine .bind (simples beside) ?_
      exact fun right rightTwin _ _ _ beside rights =>
        .pure beside (lefts.binary rights operator mark)

theorem factorWithin (count : Nat) :
    borders.Coincides False Expression.Alike (Parse.factorWithin count) := by
  induction count with
  | zero => exact fun _ _ _ beside => .fail beside _
  | succ count inductionHypothesis =>
      intro tokens state copy beside
      have expressions := expressionOf inductionHypothesis count
      refine .current beside ?_
      split
      case h_1 kind =>
        refine .bind (.variableRead beside (by rw [kind]; rfl)) ?_
        exact fun _ _ _ _ _ beside same => .pure beside (Variable.bare_toTree same)
      case h_2 number kind =>
        refine .bind (.mark beside (by rw [kind]; rfl)) ?_
        rintro mark _ _ _ _ beside rfl
        exact .pure beside rfl
      case h_3 number kind =>
        refine .bind (.mark beside (by rw [kind]; rfl)) ?_
        rintro mark _ _ _ _ beside rfl
        exact .pure beside rfl
      case h_4 kind =>
        refine .bind (.advance beside (by rw [kind]; rfl)) ?_
        intro _ _ _ _ _ beside _
        refine .bind (expressions beside) ?_
        intro found twin _ _ _ beside alike
        refine .bind (.require .expectingClosing (inside_of_isSymbol rfl) beside) ?_
        exact fun _ _ _ _ _ beside _ => .pure beside alike
      case h_5 kind =>
        refine .bind (.mark beside (by rw [kind]; rfl)) ?_
        rintro mark _ _ _ _ beside rfl
        refine .bind (expressions beside) ?_
        exact fun _ _ _ _ _ beside alike => .pure beside (alike.unary .negation mark)
      case h_6 => exact .fail beside _

theorem expressionWithin (count : Nat) :
    borders.Coincides False Expression.Alike (Parse.expressionWithin count) :=
  expressionOf (factorWithin count) count

end Expressions

section Statements

variable {statement : Parse (Option Statement)} {expression : Parse Expression}

theorem width (mistake : Mistake) : borders.Coincides False Eq (Parse.width mistake) := by
  intro tokens state copy beside
  refine .current beside ?_
  split
  case h_1 number kind =>
    refine .bind (.mark beside (by rw [kind]; rfl)) ?_
    rintro mark _ _ _ _ beside rfl
    exact .pure beside rfl
  case h_2 => exact .fail beside mistake

theorem format : borders.Coincides False Eq Parse.format := by
  intro tokens state copy beside
  refine .bind (.accept (inside_of_isSymbol rfl) beside) ?_
  rintro found _ _ _ _ beside rfl
  cases found with
  | false => exact .pure beside rfl
  | true =>
      refine .bind (width .invalidWidth beside) ?_
      rintro field _ _ _ _ beside rfl
      refine .bind (.accept (inside_of_isSymbol rfl) beside) ?_
      rintro found _ _ _ _ beside rfl
      cases found with
      | false => exact .pure beside rfl
      | true =>
          refine .bind (width .invalidPlaces beside) ?_
          rintro places _ _ _ _ beside rfl
          exact .pure beside rfl

theorem item : borders.Coincides False
    (fun one other => other.toTree.bare = one.toTree.bare) Parse.item := by
  intro tokens state copy beside
  refine .current beside ?_
  split
  case h_1 kind =>
    refine .bind (.variableRead beside (by rw [kind]; rfl)) ?_
    exact fun _ _ _ _ _ beside same => .pure beside (Variable.bare_toTree same)
  case h_2 content kind =>
    refine .bind (.mark beside (by rw [kind]; rfl)) ?_
    rintro mark _ _ _ _ beside rfl
    exact .pure beside rfl
  case h_3 content kind =>
    refine .bind (.mark beside (by rw [kind]; rfl)) ?_
    rintro mark _ _ _ _ beside rfl
    exact .pure beside rfl
  case h_4 => exact .fail beside .invalidWrite

theorem argument {tokens : List Token} {state copy : ParseState}
    (beside : borders.Beside tokens state copy)
    (inside : endsStatement state.stream.current.kind = false) :
    borders.Runs False
      (fun one other => other.toTrees.map Tree.bare = one.toTrees.map Tree.bare) tokens
      Parse.argument Parse.argument state copy := by
  refine .bind (.advance beside inside) ?_
  intro _ _ _ _ _ beside _
  refine .bind (item beside) ?_
  intro found twin _ _ _ beside items
  refine .bind (format beside) ?_
  rintro layout _ _ _ _ beside rfl
  refine .bind (.require .missingRightParenthesis (inside_of_isSymbol rfl) beside) ?_
  intro _ _ _ _ _ beside _
  exact .pure beside (by simp [Argument.toTrees, items])

theorem write (beside : borders.Beside tokens state copy)
    (inside : endsStatement state.stream.current.kind = false) :
    borders.Runs False Statement.Alike tokens Parse.write Parse.write state copy := by
  refine .bind (.mark beside inside) ?_
  rintro mark _ _ _ _ beside rfl
  refine .check beside fun found => ?_
  refine .bind (argument beside (inside_of_isSymbol rfl _ found)) ?_
  exact fun _ _ _ _ _ beside arguments => .pure beside (.write mark.line arguments)

theorem writeln (beside : borders.Beside tokens state copy)
    (inside : endsStatement state.stream.current.kind = false) :
    borders.Runs False Statement.Alike tokens Parse.writeln Parse.writeln state copy := by
  refine .bind (.mark beside inside) ?_
  rintro mark _ _ _ _ beside rfl
  refine .current beside ?_
  split
  case isTrue found =>
    refine .bind (argument beside (inside_of_isSymbol rfl _ found)) ?_
    exact fun _ _ _ _ _ beside arguments => .pure beside (.writeln mark.line arguments)
  case isFalse => exact .pure beside rfl

theorem assignmentOf (expressions : borders.Coincides False Expression.Alike expression)
    (beside : borders.Beside tokens state copy)
    (inside : endsStatement state.stream.current.kind = false) :
    borders.Runs False Statement.Alike tokens (Parse.assignmentOf expression)
      (Parse.assignmentOf expression) state copy := by
  rw [assignmentOf_eq]
  refine .bind (.target beside inside) ?_
  intro target twin _ _ _ beside same
  refine .bind (.require .missingAssignment (inside_of_isSymbol rfl) beside) ?_
  intro _ _ _ _ _ beside _
  refine .bind (expressions beside) ?_
  exact fun _ _ _ _ _ beside values => .pure beside (.assign same values)

/-- A loop never gets to its body, which opens a list of statements. -/
theorem whileOf (expressions : borders.Coincides False Expression.Alike expression) (count : Nat)
    (beside : borders.Beside tokens state copy)
    (inside : endsStatement state.stream.current.kind = false) :
    borders.Runs False Statement.Alike tokens (Parse.whileOf statement expression count)
      (Parse.whileOf statement expression count) state copy := by
  refine .bind (.mark beside inside) ?_
  rintro mark _ _ _ _ beside rfl
  refine .current beside (.bind (expressions beside) ?_)
  intro condition twin _ _ _ beside conditions
  refine .bind (.require .expectingDo (inside_of_isKeyword rfl) beside) ?_
  intro _ _ _ after _ beside _
  refine .check beside fun found => ?_
  rw [beside.noOpening.1] at found
  cases found

/-- A branch has the result of its statement at the border as well. -/
theorem branchOf (statements : borders.Coincides True (Option.Rel Statement.Alike) statement) :
    borders.Coincides True Statement.Alike (Parse.branchOf statement) := by
  intro tokens state copy beside
  have same {line : Nat} {found twin : Option Statement}
      (related : Option.Rel Statement.Alike found twin) :
      (found.getD (.empty line)).Alike (twin.getD (.empty line)) := by
    cases related with
    | none => rfl
    | some alike => exact alike
  refine .current beside (.bindCalm (statements beside) ?_ ?_)
  · exact fun _ _ _ _ _ beside related => .pure beside (same related)
  · exact fun _ _ _ _ _ related => ⟨_, _, rfl, rfl, same related⟩

theorem ifOf (expressions : borders.Coincides False Expression.Alike expression)
    (statements : borders.Coincides True (Option.Rel Statement.Alike) statement)
    (beside : borders.Beside tokens state copy)
    (inside : endsStatement state.stream.current.kind = false) :
    borders.Runs True Statement.Alike tokens (Parse.ifOf statement expression)
      (Parse.ifOf statement expression) state copy := by
  refine .bind (.mark beside inside) ?_
  rintro opening _ _ start _ beside rfl
  refine .current beside (.bind (expressions beside) ?_)
  intro condition conditionTwin _ _ _ beside conditions
  refine .bind (.require .expectingThen (inside_of_isKeyword rfl) beside) ?_
  intro _ _ _ _ _ beside _
  let test : Mark := ⟨opening.text, start.stream.current.line⟩
  refine .bindCalm (branchOf statements beside) ?_ ?_
  · intro branch branchTwin _ _ _ beside branches
    refine .bind (.accept (inside_of_isKeyword rfl) beside) ?_
    rintro found _ _ _ _ beside rfl
    cases found with
    | false => exact .pure beside (.ifThen opening.line test conditions branches)
    | true =>
        refine .bindCalm (branchOf statements beside) ?_ ?_
        · exact fun _ _ _ _ _ beside others =>
            .pure beside (.ifElse opening.line test conditions branches others)
        · exact fun _ _ _ _ _ others =>
            ⟨_, _, rfl, rfl, .ifElse opening.line test conditions branches others⟩
  -- Behind a swallowed mistake no ELSE comes at the border.
  · intro branch branchTwin after afterCopy beside branches
    obtain ⟨noElse, noElseCopy⟩ := beside.noElse
    refine ⟨_, _, ?_, ?_, .ifThen opening.line test conditions branches⟩
    · rw [on_bind, on_accept, noElse]
      rfl
    · rw [on_bind, on_accept, noElseCopy]
      rfl

theorem statementOf (statements : borders.Coincides True (Option.Rel Statement.Alike) statement)
    (count : Nat) :
    borders.Coincides True (Option.Rel Statement.Alike) (Parse.statementOf statement count) := by
  intro tokens state copy beside
  have expressions : borders.Coincides False Expression.Alike (Parse.expressionWithin count) :=
    expressionWithin count
  refine .current beside ?_
  split
  case h_1 kind =>
    refine .bind (assignmentOf expressions beside (by rw [kind]; rfl)) ?_
    exact fun _ _ _ _ _ beside alike => .pure beside (.some alike)
  case h_2 kind => simpa [kind, Kind.isKeyword] using beside.noOpening.1
  case h_3 kind => simpa [kind, Kind.isKeyword] using beside.noOpening.2
  case h_4 kind =>
    refine .bind (whileOf expressions count beside (by rw [kind]; rfl)) ?_
    exact fun _ _ _ _ _ beside alike => .pure beside (.some alike)
  case h_5 kind =>
    refine .bindCalm (ifOf expressions statements beside (by rw [kind]; rfl)) ?_ ?_
    · exact fun _ _ _ _ _ beside alike => .pure beside (.some alike)
    · exact fun _ _ _ _ _ alike => ⟨_, _, rfl, rfl, .some alike⟩
  case h_6 kind =>
    refine .bind (write beside (by rw [kind]; rfl)) ?_
    exact fun _ _ _ _ _ beside alike => .pure beside (.some alike)
  case h_7 kind =>
    refine .bind (writeln beside (by rw [kind]; rfl)) ?_
    exact fun _ _ _ _ _ beside alike => .pure beside (.some alike)
  case h_8 => exact .pure beside .none
  case h_9 => exact .fail beside .unexpectedToken

theorem statementWithin (count : Nat) :
    borders.Coincides True (Option.Rel Statement.Alike) (Parse.statementWithin count) := by
  induction count with
  | zero => exact fun _ _ _ beside => .dropMistake .none (.fail beside .unexpectedToken)
  | succ count inductionHypothesis =>
      exact fun _ _ _ beside => .dropMistake .none (statementOf inductionHypothesis count beside)

end Statements

end Coincides

end Borders

end MiniPascal
