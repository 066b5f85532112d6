/-
This file shows that the parser goes alike over alike tokens: it makes alike trees, reports the same
complaints, and leaves alike tables.
-/

import MiniPascal.Proofs.Parsing.Binding
import MiniPascal.Proofs.Parsing.Likeness

namespace MiniPascal

namespace Likeness

open Parse

/-- Expressions and statements are alike when their trees are. -/
def Expressions (alike : Likeness) (first second : Expression) : Prop :=
  alike.Trees first.toTree second.toTree

def Statements (alike : Likeness) (first second : Statement) : Prop :=
  alike.Trees first.toTree second.toTree

def Bodies (alike : Likeness) : List Statement → List Statement → Prop :=
  List.Forall₂ alike.Statements

def Programs (alike : Likeness) (first second : Program) : Prop :=
  alike.Trees first.toTree second.toTree

def Formats (alike : Likeness) (format other : Format) : Prop :=
  List.Forall₂ alike.Trees format.toTrees other.toTrees

variable {alike : Likeness}

section Nodes

variable {mark other : Mark} {first second : Tree}

theorem Marks.labels (marks : alike.Marks mark other) (kind : NodeKind) (value : Value) :
    alike.Labels (mark.label kind value) (other.label kind value) :=
  ⟨rfl, marks.line, .some marks.text, rfl, .none⟩

theorem Labels.plain (kind : NodeKind) {line lineCopy : Nat} (lines : alike.line line lineCopy) :
    alike.Labels (plainLabel kind line) (plainLabel kind lineCopy) :=
  ⟨rfl, lines, .none, rfl, .none⟩

theorem Variables.trees {source copy : Variable} (same : alike.Variables source copy) :
    alike.Trees source.toTree copy.toTree :=
  .node ⟨rfl, same.mark.line, .some same.mark.text, rfl, .some same.binding⟩ .nil

theorem Marks.leaf (marks : alike.Marks mark other) (kind : NodeKind) (value : Value) :
    alike.Trees (.node (mark.label kind value) []) (.node (other.label kind value) []) :=
  .node (marks.labels kind value) .nil

theorem Marks.unary (marks : alike.Marks mark other) (kind : NodeKind)
    (operand : alike.Trees first second) :
    alike.Trees (.node (mark.label kind .nothing) [first])
      (.node (other.label kind .nothing) [second]) :=
  .node (marks.labels kind .nothing) (.cons operand .nil)

theorem Marks.binary {right rightCopy : Tree} (marks : alike.Marks mark other) (kind : NodeKind)
    (left : alike.Trees first second) (operand : alike.Trees right rightCopy) :
    alike.Trees (.node (mark.label kind .nothing) [first, right])
      (.node (other.label kind .nothing) [second, rightCopy]) :=
  .node (marks.labels kind .nothing) (.cons left (.cons operand .nil))

/-- A test has the line on which its expression starts. -/
theorem Marks.test (marks : alike.Marks mark other) (condition : alike.Trees first second) :
    alike.Trees (testTree mark first) (testTree other second) := marks.unary .test condition

theorem Bodies.trees {body copy : List Statement} (bodies : alike.Bodies body copy) :
    List.Forall₂ alike.Trees (Statement.toTrees body) (Statement.toTrees copy) := by
  rw [Statement.toTrees_eq_map, Statement.toTrees_eq_map, List.forall₂_map_left_iff,
    List.forall₂_map_right_iff]
  exact bodies

/-- The bodies of alike programs are alike. -/
theorem Programs.bodies {program copy : Program} (programs : alike.Programs program copy) :
    alike.Bodies program.body copy.body := by
  cases programs with
  | node _ parts =>
      cases parts with
      | cons body _ =>
          cases body with
          | node _ statements =>
              rw [Statement.toTrees_eq_map, Statement.toTrees_eq_map, List.forall₂_map_left_iff,
                List.forall₂_map_right_iff] at statements
              exact statements

end Nodes

section Expressions

theorem Expressions.unary {mark other : Mark} {operand copy : Expression}
    (marks : alike.Marks mark other) (operands : alike.Expressions operand copy)
    (operator : UnaryOperator) :
    alike.Expressions (.unary operator mark operand) (.unary operator other copy) :=
  marks.unary _ operands

variable {factor : Parse Expression} {count : Nat}

theorem Reads.chain (reads : alike.Reads alike.Expressions factor factor)
    (operator? : Kind → Option BinaryOperator) (count : Nat) {left leftCopy : Expression}
    (lefts : alike.Expressions left leftCopy) :
    alike.Reads alike.Expressions (chain operator? factor count left)
      (chain operator? factor count leftCopy) := by
  induction count generalizing left leftCopy with
  | zero => exact .pure lefts
  | succ count inductionHypothesis =>
      refine .byCurrent fun token other tokens => ?_
      rw [tokens.kind]
      split
      · exact .pure lefts
      · refine Reads.mark.bind (fun _ _ marks => ?_) _
        refine reads.bind fun _ _ rights => ?_
        exact inductionHypothesis (marks.binary _ lefts rights)

theorem Reads.termOf (reads : alike.Reads alike.Expressions factor factor) (count : Nat) :
    alike.Reads alike.Expressions (termOf factor count) (termOf factor count) :=
  reads.bind fun _ _ firsts => reads.chain _ count firsts

theorem Reads.simpleExpressionOf (reads : alike.Reads alike.Expressions factor factor)
    (count : Nat) :
    alike.Reads alike.Expressions (simpleExpressionOf factor count)
      (simpleExpressionOf factor count) := by
  have goesOn {first second : Expression} (firsts : alike.Expressions first second) :=
    (reads.termOf count).chain adding? count firsts
  refine .byCurrent fun token other tokens => ?_
  rw [tokens.kind]
  split
  · exact ((reads.termOf count).bind fun _ _ => goesOn) _
  · refine Reads.mark.bind (fun _ _ marks => ?_) _
    refine (reads.termOf count).bind fun _ _ operands => ?_
    exact (Reads.pure (Expressions.unary marks operands _)).bind fun _ _ => goesOn

theorem Reads.expressionOf (reads : alike.Reads alike.Expressions factor factor) (count : Nat) :
    alike.Reads alike.Expressions (expressionOf factor count) (expressionOf factor count) := by
  refine (reads.simpleExpressionOf count).bind fun left leftCopy lefts => ?_
  refine .byCurrent fun token other tokens => ?_
  rw [tokens.kind]
  split
  · exact .pure lefts
  · refine Reads.mark.bind (fun _ _ marks => ?_) _
    refine (reads.simpleExpressionOf count).bind fun _ _ rights => ?_
    exact .pure (marks.binary _ lefts rights)

theorem Reads.factorWithin (count : Nat) :
    alike.Reads alike.Expressions (factorWithin count) (factorWithin count) := by
  induction count with
  | zero => exact .fail _
  | succ count inductionHypothesis =>
      refine .byCurrent fun token other tokens => ?_
      rw [tokens.kind]
      split
      case h_1 found =>
        rw [found]
        exact ReadsAt.variableRead.bind fun _ _ sources => .pure sources.trees
      case h_2 => exact (Reads.mark _).bind fun _ _ marks => .pure (marks.leaf _ _)
      case h_3 => exact (Reads.mark _).bind fun _ _ marks => .pure (marks.leaf _ _)
      case h_4 =>
        refine (Reads.advance _).bind fun _ _ _ => ?_
        refine (inductionHypothesis.expressionOf count).bind fun _ _ found => ?_
        exact (Reads.require _ _).bind fun _ _ _ => .pure found
      case h_5 =>
        refine (Reads.mark _).bind fun _ _ marks => ?_
        exact (inductionHypothesis.expressionOf count).bind fun _ _ operands =>
          .pure (.unary marks operands _)
      case h_6 => exact Reads.fail _ _

theorem Reads.expressionWithin (count : Nat) :
    alike.Reads alike.Expressions (expressionWithin count) (expressionWithin count) :=
  (Reads.factorWithin count).expressionOf count

end Expressions

section Arguments

theorem Reads.item :
    alike.Reads (fun item copy : Item => alike.Trees item.toTree copy.toTree) item item := by
  refine .byCurrent fun token other tokens => ?_
  rw [tokens.kind]
  split
  case h_1 found =>
    rw [found]
    exact ReadsAt.variableRead.bind fun _ _ sources => .pure sources.trees
  case h_2 => exact (Reads.mark _).bind fun _ _ marks => .pure (marks.leaf _ _)
  case h_3 => exact (Reads.mark _).bind fun _ _ marks => .pure (marks.leaf _ _)
  case h_4 => exact Reads.fail _ _

theorem Reads.width (mistake : Mistake) :
    alike.Reads (fun width copy : Width => alike.Trees width.toTree copy.toTree) (width mistake)
      (width mistake) := by
  refine .byCurrent fun token other tokens => ?_
  rw [tokens.kind]
  split
  case h_1 => exact (Reads.mark _).bind fun _ _ marks => .pure (marks.leaf _ _)
  case h_2 => exact Reads.fail _ _

theorem Reads.format : alike.Reads alike.Formats format format := by
  refine (Reads.accept _).bind fun found _ same => ?_
  subst same
  cases found with
  | false => exact .pure .nil
  | true =>
      refine (Reads.width _).bind fun _ _ fields => ?_
      refine (Reads.accept _).bind fun found _ same => ?_
      subst same
      cases found with
      | false => exact .pure (.cons fields .nil)
      | true => exact (Reads.width _).bind fun _ _ places => .pure (.cons fields (.cons places .nil))

theorem Reads.argument :
    alike.Reads (fun argument copy : Argument =>
      List.Forall₂ alike.Trees argument.toTrees copy.toTrees) argument argument := by
  refine Reads.advance.bind fun _ _ _ => Reads.item.bind fun _ _ items => ?_
  refine Reads.format.bind fun _ _ formats => (Reads.require _ _).bind fun _ _ _ => ?_
  exact .pure (.cons items formats)

theorem Reads.write : alike.Reads alike.Statements write write := by
  refine Reads.mark.bind fun _ _ marks => (Reads.check _ _).bind fun _ _ _ => ?_
  exact Reads.argument.bind fun _ _ parts => .pure (.node (.plain _ marks.line) parts)

theorem Reads.writeln : alike.Reads alike.Statements writeln writeln := by
  refine Reads.mark.bind fun _ _ marks => .byCurrent fun token other tokens => ?_
  rw [tokens.kind]
  split
  · exact (Reads.argument _).bind fun _ _ parts => .pure (.node (.plain _ marks.line) parts)
  · exact .pure (.node (.plain _ marks.line) .nil)

end Arguments

section Statements

variable {statement : Parse (Option Statement)} {expression : Parse Expression}

theorem Reads.separator : alike.Reads Eq separator separator := by
  refine .byCurrent fun token other tokens => ?_
  rw [tokens.kind]
  dsimp only
  split
  · exact Reads.skipAll _ _
  · split
    · exact Reads.recover _ _
    · exact .pure rfl

theorem Reads.statementsWithin (reads : alike.Reads (Option.Rel alike.Statements) statement statement)
    (terminal : Kind → Bool) (count : Nat) :
    alike.Reads alike.Bodies (statementsWithin statement terminal count)
      (statementsWithin statement terminal count) := by
  induction count with
  | zero => exact .pure .nil
  | succ count inductionHypothesis =>
      refine .byCurrent fun token other tokens => ?_
      rw [tokens.kind]
      split
      · exact .pure .nil
      · refine (reads _).bind fun _ _ firsts => Reads.separator.bind fun _ _ _ => ?_
        refine inductionHypothesis.bind fun _ _ others => .pure ?_
        cases firsts with
        | none => exact others
        | some first => exact .cons first others

theorem Reads.compoundOf (reads : alike.Reads (Option.Rel alike.Statements) statement statement)
    (count : Nat) :
    alike.Reads (fun found copy : Nat × List Statement =>
      alike.line found.1 copy.1 ∧ alike.Bodies found.2 copy.2) (compoundOf statement count)
        (compoundOf statement count) := by
  refine .byCurrent fun token other tokens => ?_
  refine (Reads.accept _ _).bind fun _ _ _ => ?_
  refine (reads.statementsWithin _ count).bind fun _ _ bodies => ?_
  exact (Reads.expect _ _).bind fun _ _ _ => .pure ⟨tokens.line, bodies⟩

theorem ReadsAt.assignmentOf (reads : alike.Reads alike.Expressions expression expression) :
    alike.ReadsAt .identifier alike.Statements (assignmentOf expression)
      (assignmentOf expression) := by
  refine ReadsAt.declare.bind fun _ _ targets => Reads.advance.bind fun _ _ _ => ?_
  refine (Reads.require _ _).bind fun _ _ _ => reads.bind fun _ _ values => ?_
  exact .pure (.node (.plain _ targets.mark.line) (.cons targets.trees (.cons values .nil)))

theorem Reads.repeatOf (reads : alike.Reads (Option.Rel alike.Statements) statement statement)
    (readsExpression : alike.Reads alike.Expressions expression expression) (count : Nat) :
    alike.Reads alike.Statements (repeatOf statement expression count)
      (repeatOf statement expression count) := by
  refine Reads.mark.bind fun _ _ marks => (reads.statementsWithin _ count).bind fun _ _ bodies => ?_
  refine (Reads.check _ _).bind fun _ _ _ => Reads.mark.bind fun _ _ tests => ?_
  refine readsExpression.bind fun _ _ conditions => .pure ?_
  exact .node (.plain _ marks.line) (List.rel_append bodies.trees (.cons (tests.test conditions) .nil))

theorem Reads.whileOf (reads : alike.Reads (Option.Rel alike.Statements) statement statement)
    (readsExpression : alike.Reads alike.Expressions expression expression) (count : Nat) :
    alike.Reads alike.Statements (whileOf statement expression count)
      (whileOf statement expression count) := by
  refine Reads.mark.bind fun opening openingCopy marks => .byCurrent fun token other tokens => ?_
  have tests : alike.Marks ⟨opening.text, token.line⟩ ⟨openingCopy.text, other.line⟩ :=
    ⟨marks.text, tokens.line⟩
  refine (readsExpression _).bind fun _ _ conditions => (Reads.require _ _).bind fun _ _ _ => ?_
  refine (Reads.check _ _).bind fun _ _ _ => (reads.compoundOf count).bind fun _ _ bodies => ?_
  exact .pure (.node (.plain _ marks.line) (.cons (tests.test (tests.unary _ conditions))
    (.cons (.node (.plain _ bodies.1) bodies.2.trees) .nil)))

theorem Reads.branchOf (reads : alike.Reads (Option.Rel alike.Statements) statement statement) :
    alike.Reads alike.Statements (branchOf statement) (branchOf statement) := by
  refine .byCurrent fun _ _ tokens => (reads _).bind fun _ _ found => .pure ?_
  cases found with
  | none => exact .node (.plain _ tokens.line) .nil
  | some found => exact found

theorem Reads.ifOf (reads : alike.Reads (Option.Rel alike.Statements) statement statement)
    (readsExpression : alike.Reads alike.Expressions expression expression) :
    alike.Reads alike.Statements (ifOf statement expression) (ifOf statement expression) := by
  refine Reads.mark.bind fun opening openingCopy marks => .byCurrent fun token other tokens => ?_
  have tests : alike.Marks ⟨opening.text, token.line⟩ ⟨openingCopy.text, other.line⟩ :=
    ⟨marks.text, tokens.line⟩
  refine (readsExpression _).bind fun _ _ conditions => (Reads.require _ _).bind fun _ _ _ => ?_
  refine reads.branchOf.bind fun _ _ branches => (Reads.accept _).bind fun found _ same => ?_
  subst same
  cases found with
  | false =>
      exact .pure (.node (.plain _ marks.line)
        (.cons (tests.test conditions) (.cons branches .nil)))
  | true =>
      refine reads.branchOf.bind fun _ _ others => ?_
      exact .pure (.node (.plain _ marks.line)
        (.cons (tests.test conditions) (.cons branches (.cons others .nil))))

theorem Reads.statementOf (reads : alike.Reads (Option.Rel alike.Statements) statement statement)
    (count : Nat) :
    alike.Reads (Option.Rel alike.Statements) (statementOf statement count)
      (statementOf statement count) := by
  have expressions : alike.Reads alike.Expressions _ _ := Reads.expressionWithin count
  refine .byCurrent fun token other tokens => ?_
  rw [tokens.kind]
  split
  case h_1 found =>
    rw [found]
    exact (ReadsAt.assignmentOf expressions).bind fun _ _ found => .pure (.some found)
  case h_2 =>
    exact (reads.compoundOf count _).bind fun _ _ bodies =>
      .pure (.some (.node (.plain _ bodies.1) bodies.2.trees))
  case h_3 => exact (reads.repeatOf expressions count _).bind fun _ _ found => .pure (.some found)
  case h_4 => exact (reads.whileOf expressions count _).bind fun _ _ found => .pure (.some found)
  case h_5 => exact (reads.ifOf expressions _).bind fun _ _ found => .pure (.some found)
  case h_6 => exact (Reads.write _).bind fun _ _ found => .pure (.some found)
  case h_7 => exact (Reads.writeln _).bind fun _ _ found => .pure (.some found)
  case h_8 => exact .pure .none
  case h_9 => exact Reads.fail _ _

/-- A mistake that is dropped leaves no statement in both readings. -/
theorem Reads.dropMistake (reads : alike.Reads (Option.Rel alike.Statements) statement statement) :
    alike.Reads (Option.Rel alike.Statements) (dropMistake statement) (dropMistake statement) := by
  intro kind state other states same
  rw [Parse.dropMistake, on_tryCatch, on_tryCatch]
  obtain ⟨results, after⟩ := reads kind state other states same
  generalize statement.on state = parsed at results after
  generalize statement.on other = copy at results after
  obtain ⟨result, parsed⟩ := parsed
  obtain ⟨resultCopy, copy⟩ := copy
  cases results with
  | ok found => exact ⟨.ok found, after⟩
  | error unwinding =>
      cases unwinding with
      | mistake mistake => exact ⟨.ok .none, after⟩
      | fault fault => exact ⟨.error _, after⟩

theorem Reads.statementWithin (count : Nat) :
    alike.Reads (Option.Rel alike.Statements) (statementWithin count) (statementWithin count) := by
  induction count with
  | zero => exact (Reads.fail _).dropMistake
  | succ count inductionHypothesis => exact (inductionHypothesis.statementOf count).dropMistake

end Statements

theorem Reads.programName :
    alike.Reads (Option.Rel alike.Texts) programName programName := by
  refine .byCurrent fun token other tokens => ?_
  rw [tokens.kind]
  split
  case isTrue found =>
    rw [Kind.isIdentifier_iff.mp found]
    refine ReadsAt.declare.bind fun _ _ names => Reads.advance.bind fun _ _ _ => ?_
    exact .pure (.some names.mark.text)
  case isFalse => exact (Reads.recover _ _).bind fun _ _ _ => .pure .none

theorem Reads.programBody {name copy : Option String} (names : Option.Rel alike.Texts name copy)
    {line lineCopy : Nat} (lines : alike.line line lineCopy) :
    alike.Reads alike.Programs (programBody line name) (programBody lineCopy copy) := by
  refine Reads.size.bind fun count _ same => ?_
  subst same
  refine ((Reads.statementWithin count).compoundOf count).bind fun body other bodies => ?_
  have labels : alike.Labels ⟨.program, line, name, .nothing, none⟩
      ⟨.program, lineCopy, copy, .nothing, none⟩ := ⟨rfl, lines, names, rfl, .none⟩
  have programs : alike.Programs ⟨line, name, body.1, body.2⟩ ⟨lineCopy, copy, other.1, other.2⟩ :=
    .node labels (.cons (.node (.plain _ bodies.1) bodies.2.trees) .nil)
  refine .byCurrent fun token other tokens => ?_
  dsimp only
  rw [tokens.kind]
  split
  · exact .pure programs
  · exact (Reads.recover _ _).bind fun _ _ _ => .pure programs

/-- Alike texts are read as alike programs. -/
theorem Reads.program : alike.Reads alike.Programs program program := by
  refine Reads.advance.bind fun _ _ _ => .byCurrent fun first firstCopy firsts => ?_
  refine (Reads.expect _ _ _).bind fun _ _ _ => Reads.programName.bind fun name copy names => ?_
  have goesOn := Reads.programBody names firsts.line
  refine (Reads.expect _ _).bind fun _ _ _ => .byCurrent fun token other tokens => ?_
  rw [tokens.kind]
  dsimp only
  split
  · exact goesOn _
  · exact (Reads.recover _ _).bind fun _ _ _ => goesOn

end Likeness

end MiniPascal
