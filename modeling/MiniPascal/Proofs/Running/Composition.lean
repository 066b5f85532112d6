/-
This file shows that programs over one table compose: two programs that run one after the other do
what the program of both bodies does.
-/

import MiniPascal.Proofs.Parsing.Sequence
import MiniPascal.Proofs.Running.AlikeRuns
import MiniPascal.Proofs.Running.Desugaring

namespace MiniPascal

/-- Runtime errors that differ in their lines only. -/
structure RuntimeError.SameButLine (error other : RuntimeError) : Prop where
  violation : other.violation = error.violation
  text : other.text = error.text

/-- The parts behind others are run where these end. -/
theorem Part.runAll_append (first second : List Part) :
    Part.runAll (first ++ second) = (do Part.runAll first; Part.runAll second) := by
  induction first with
  | nil => rfl
  | cons part parts inductionHypothesis =>
      rw [List.cons_append, Part.runAll, inductionHypothesis, Part.runAll, bind_assoc]

namespace Likeness

variable {alike : Likeness}

/-- A body that is like two others put together falls into bodies that are like these. -/
theorem Bodies.split {first second whole : List Statement}
    (bodies : alike.Bodies (first ++ second) whole) :
    ∃ front back, whole = front ++ back ∧ alike.Bodies first front ∧ alike.Bodies second back := by
  have flipped : List.Forall₂ (flip alike.Statements) whole (first ++ second) := bodies.flip
  exact ⟨whole.take first.length, whole.drop first.length, (List.take_append_drop _ _).symm,
    (List.forall₂_take_append _ _ _ flipped).flip, (List.forall₂_drop_append _ _ _ flipped).flip⟩

/-- Alike bodies are run alike. -/
theorem Bodies.runAll (keeps : alike.KeepsValues) (bound : Nat) {body copy : List Statement}
    (bodies : alike.Bodies body copy) :
    alike.Runs (Part.runAll (Statement.parts bound body))
      (Part.runAll (Statement.parts bound copy)) := by
  refine .runAll ?_
  rw [Statement.parts, Statement.parts, Tree.toParts_eq_map, Tree.toParts_eq_map,
    List.forall₂_map_left_iff, List.forall₂_map_right_iff]
  exact bodies.trees.imp fun _ _ trees => trees.parts keeps bound

/-- Equal variables have the same values in one table. -/
theorem same_keepsValues : same.KeepsValues where
  read := by
    rintro _ _ _ _ rfl rfl
    rfl
  write := by
    rintro _ _ _ _ _ rfl rfl
    rfl

theorem Errors.sameButLine {error other : RuntimeError} (errors : same.Errors error other) :
    error.SameButLine other := ⟨errors.violation, eq_of_rel errors.text fun _ _ => Texts.eq⟩

end Likeness

theorem Statement.parts_append_body (bound : Nat) (first second : List Statement) :
    Statement.parts bound (first ++ second) =
      Statement.parts bound first ++ Statement.parts bound second := by
  simp only [Statement.parts, Tree.toParts_eq_map, Statement.toTrees_eq_map, List.map_append]

/-- The whole goes on where the first program completes, as the second one does over the table that
is left, and stops where the first one stops. -/
theorem execute_sequence {first second whole : Program}
    (bodies : Likeness.same.Bodies (first.body ++ second.body) whole.body) (bound : Nat)
    (table : SymbolTable) :
    (∀ value, (execute bound first.toTree table).result = .ok value →
      EndAlike Eq RuntimeError.SameButLine "" (execute bound first.toTree table).machine.output
        (execute bound second.toTree (execute bound first.toTree table).machine.table)
        (execute bound whole.toTree table)) ∧
    ∀ stop, (execute bound first.toTree table).result = .error stop →
      EndAlike Eq RuntimeError.SameButLine "" "" (execute bound first.toTree table)
        (execute bound whole.toTree table) := by
  obtain ⟨front, back, same, fronts, backs⟩ := bodies.split
  have runs := fronts.runAll Likeness.same_keepsValues bound
  have goesOn : Likeness.same.Runs (second.toTree.visit bound)
      (do Part.runAll (Statement.parts bound back); return Value.nothing) := by
    rw [second.visit_eq]
    exact .bind (backs.runAll Likeness.same_keepsValues bound) fun _ => .pure Value.nothing
  have wholeRuns : whole.toTree.visit bound = (do
      Part.runAll (Statement.parts bound front)
      Part.runAll (Statement.parts bound back)
      return .nothing) := by
    rw [whole.visit_eq, same, Statement.parts_append_body, Part.runAll_append, bind_assoc]
  have ends := runs "" "" "" table table rfl
  rw [execute, execute, execute, wholeRuns, first.visit_eq, Run.on_bind, Run.on_bind]
  -- How the body of the first program ends decides how its whole run does.
  change EndAlike _ _ _ _ ((Part.runAll (Statement.parts bound first.body)).on ⟨table, ""⟩)
    ((Part.runAll (Statement.parts bound front)).on ⟨table, ""⟩) at ends
  generalize (Part.runAll (Statement.parts bound first.body)).on ⟨table, ""⟩ = outcome at ends
  generalize (Part.runAll (Statement.parts bound front)).on ⟨table, ""⟩ = outcomeCopy at ends
  cases ends with
  | @ok _ left right output same =>
      obtain rfl : left = right := same
      refine ⟨fun _ _ => ?_, fun _ stopped => by cases stopped⟩
      have after := goesOn "" ("" ++ output) "" left left rfl
      have behind : "" ++ output ++ "" = "" ++ output := String.append_empty
      rw [behind] at after
      exact after.imp (fun _ _ => id) fun _ _ errors => errors.sameButLine
  | error errors same =>
      refine ⟨fun _ completed => ?_, fun _ _ => .error errors.sameButLine same⟩
      cases completed
  | fault same =>
      refine ⟨fun _ completed => ?_, fun _ _ => .fault same⟩
      cases completed
  | exhausted same =>
      refine ⟨fun _ completed => ?_, fun _ _ => .exhausted same⟩
      cases completed

/-- When two programs of one name are parsed one after the other over one table without errors, so is
the program of both bodies with a semicolon between them, and it leaves the same table and has the
statements of both. Where a run of the first program completes, the run of the second one behind it
does what the run of the whole program does; where it stops early, the whole program stops in the same
way. -/
theorem programs_compose (name : String) (body others : List Token) (first second both : String)
    (table middle after : SymbolTable) (program other : Program)
    (derives : Derives .statementList body []) (derivesOther : Derives .statementList others [])
    (writes : WritesProgram first name body) (writesOther : WritesProgram second name others)
    (writesBoth : WritesProgram both name (body ++ ⟨.symbol .semicolon, ";", 1⟩ :: others))
    (parses : Parses first table program middle) (parsesOther : Parses second middle other after) :
    ∃ whole, Parses both table whole after ∧
      Tree.withoutLinesAll (Statement.toTrees whole.body) =
        Tree.withoutLinesAll (Statement.toTrees program.body ++ Statement.toTrees other.body) ∧
      ∀ bound,
        (∀ value, (execute bound program.toTree after).result = .ok value →
          EndAlike Eq RuntimeError.SameButLine "" (execute bound program.toTree after).machine.output
            (execute bound other.toTree (execute bound program.toTree after).machine.table)
            (execute bound whole.toTree after)) ∧
        ∀ stop, (execute bound program.toTree after).result = .error stop →
          EndAlike Eq RuntimeError.SameButLine "" "" (execute bound program.toTree after)
            (execute bound whole.toTree after) := by
  obtain ⟨whole, parsesBoth, bodies⟩ :=
    parses.sequence writes writesOther writesBoth derives derivesOther rfl parsesOther
  refine ⟨whole, parsesBoth, ?_, fun bound => execute_sequence bodies bound after⟩
  have trees := Likeness.withoutLinesAll_eq (bodies.trees.imp fun _ _ trees => trees.withoutLines)
  rw [trees, Statement.toTrees_eq_map, List.map_append, Statement.toTrees_eq_map,
    Statement.toTrees_eq_map]

/-- The programs of an assignment and of a statement that writes its target. -/
theorem programs_compose_write :
    Parses "program p; begin x := 1 end." .empty
        ⟨1, some "p", 1, [.assign 1 ⟨⟨"x", 1⟩, .cell "x" "x"⟩ (.integer ⟨"1", 1⟩ 1)]⟩
        ⟨[⟨"p", "p", .real 0⟩, ⟨"x", "x", .real 0⟩]⟩ ∧
      Parses "program p; begin write(X) end." ⟨[⟨"p", "p", .real 0⟩, ⟨"x", "x", .real 0⟩]⟩
        ⟨1, some "p", 1, [.write 1 ⟨.reference ⟨⟨"X", 1⟩, .cell "x" "x"⟩, .plain⟩]⟩
        ⟨[⟨"p", "p", .real 0⟩, ⟨"x", "x", .real 0⟩]⟩ ∧
      ∃ whole, Parses "program p; begin x := 1; \nwrite(X) end." .empty whole
        ⟨[⟨"p", "p", .real 0⟩, ⟨"x", "x", .real 0⟩]⟩ := by
  have derives : Derives .statementList
      [⟨.identifier, "x", 1⟩, ⟨.symbol .colonEquals, ":=", 1⟩, ⟨.integer 1, "1", 1⟩] [] :=
    .lastStatement (.statement (by decide) (.assignment rfl rfl
      (.alone (.unsigned (.term (.integer rfl) .noFurtherFactor) .noFurtherTerm))))
  have derivesOther : Derives .statementList [⟨.keyword .writeWord, "write", 1⟩,
      ⟨.symbol .leftParenthesis, "(", 1⟩, ⟨.identifier, "X", 1⟩,
      ⟨.symbol .rightParenthesis, ")", 1⟩] [] :=
    .lastStatement (.statement (by decide) (.writeStatement rfl rfl (.writeArgument rfl .plain) rfl))
  have parses : Parses "program p; begin x := 1 end." .empty
      ⟨1, some "p", 1, [.assign 1 ⟨⟨"x", 1⟩, .cell "x" "x"⟩ (.integer ⟨"1", 1⟩ 1)]⟩
      ⟨[⟨"p", "p", .real 0⟩, ⟨"x", "x", .real 0⟩]⟩ := ⟨by cbv, by decide +kernel, by cbv⟩
  have parsesOther : Parses "program p; begin write(X) end."
      ⟨[⟨"p", "p", .real 0⟩, ⟨"x", "x", .real 0⟩]⟩
      ⟨1, some "p", 1, [.write 1 ⟨.reference ⟨⟨"X", 1⟩, .cell "x" "x"⟩, .plain⟩]⟩
      ⟨[⟨"p", "p", .real 0⟩, ⟨"x", "x", .real 0⟩]⟩ := ⟨by cbv, by decide +kernel, by cbv⟩
  obtain ⟨whole, parsesBoth, _⟩ := programs_compose "p" _ _ _ _
    "program p; begin x := 1; \nwrite(X) end." _ _ _ _ _ derives derivesOther (by rfl) (by rfl)
    (by rfl) parses parsesOther
  exact ⟨parses, parsesOther, whole, parsesBoth⟩

end MiniPascal
