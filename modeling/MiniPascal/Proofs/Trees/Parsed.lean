/-
This file shows that every text that is parsed to its end has a well-formed tree, whatever mistakes
are reported, and what those who walk over this tree may rely on.
-/

import MiniPascal.Proofs.Running.FaultyRuns
import MiniPascal.Proofs.Trees.Views

namespace MiniPascal

namespace Tree

/-- The outline and the line of text of a tree look up nothing that is missing. -/
structure Viewable (tree : Tree) : Prop where
  outline : ∀ indent role, tree.outlineLines? indent role = some (tree.outlineLines indent role)
  surface : tree.strictSurface = tree.toSurface
  text : ∃ text, tree.surface? = some text

theorem AllWellFormed.viewable {state : ParseState} {tree : Tree}
    (formed : tree.AllWellFormed state) : tree.Viewable where
  outline := formed.outlineLines?
  surface := formed.strictSurface.1
  text := formed.strictSurface.2.text

end Tree

/-- A fault that a value or a layout has. All others come from a tree that is not well formed. -/
def Fault.isNumeric : Fault → Bool
  | .remainderDomain | .infinityToInteger | .tooManyDecimals | .widthTooLarge => true
  | _ => false

theorem Argument.isNumeric_of_fault? {argument : Argument} {table : SymbolTable} {fault : Fault}
    (faulty : argument.fault? table = some fault) : fault.isNumeric = true := by
  unfold Argument.fault? at faulty
  split at faulty
  · cases faulty
    rfl
  · split at faulty
    · cases faulty
      rfl
    · split at faulty <;> cases faulty
      rfl

theorem Query.Faulty.isNumeric {table : SymbolTable} {query : Query} {fault : Fault}
    (faulty : query.Faulty table fault) : fault.isNumeric = true := by
  cases faulty with
  | number | truth => rfl
  | text same => exact Argument.isNumeric_of_fault? same

/-- The tree of a program whose variables are bound is run without a look-up that fails. -/
theorem Program.isNumeric_of_fault {program : Program} {state : ParseState} {table : SymbolTable}
    (bound : AllBound state (Statement.allVariables program.body)) (reals : table.HoldsReals)
    (covers : table.Covers state.table) {passes : Nat} {fault : Fault}
    (fails : (execute passes program.toTree table).result = .error (.fault fault)) :
    fault.isNumeric = true := by
  obtain exhausted | ⟨result, after, ends⟩ := execute_cases passes program table
  · rw [exhausted] at fails
    cases fails
  rw [ends] at fails
  cases result with
  | ok => cases fails
  | error halt =>
      cases halt with
      | error => cases fails
      | fault found =>
          cases fails
          obtain ⟨query, place, asks, stops, rfl⟩ :=
            Command.runs_error_iff.mp (runs_of_execute ends)
          obtain ⟨known, reals⟩ := Program.Asks.known asks bound reals covers
          exact ((Query.fails_fault_iff known reals).mp stops).isNumeric

/-- Every node of the tree of a parsed text is well formed, however many mistakes are reported.
Outlines and lines of text find all that they look up, and a run over a table of real numbers that
has the names of the parser meets no fault but one of a value or a layout. -/
theorem parsed_tree_wellFormed (text : String) (table : SymbolTable) (program : Program)
    (result : (parseProgram text table).result = .ok program) :
    program.toTree.AllWellFormed (parseProgram text table).state ∧
      (∀ node ∈ program.toTree.preorder, node.Viewable) ∧
      ∀ store : SymbolTable, store.HoldsReals →
        store.Covers (parseProgram text table).state.table → ∀ passes fault,
          (execute passes program.toTree store).result = .error (.fault fault) →
            fault.isNumeric = true := by
  have bound := parseProgram_bound result
  have formed := Program.wellFormed_toTree bound
  refine ⟨formed, fun node inside => (formed.part inside).viewable, ?_⟩
  intro store reals covers passes fault fails
  exact Program.isNumeric_of_fault bound reals covers fails

/-- A program with a name that is read before it is assigned and with a statement that is dropped. -/
def mistakenProgram : Program :=
  ⟨1, some "p", 1, [.whileDo 1 ⟨"while", 1⟩ (.reference ⟨⟨"y", 1⟩, .detached "y"⟩) 1
    [.writeln 1 (some ⟨.string ⟨"'a'", 1⟩ "a", .field ⟨⟨"2", 1⟩, 2⟩⟩)]]⟩

theorem mistakenProgram_wellFormed :
    (parseProgram "program p; begin while y do begin writeln('a':2) end; 5 end." .empty).result =
        .ok mistakenProgram ∧
      mistakenProgram.toTree.AllWellFormed (parseProgram
        "program p; begin while y do begin writeln('a':2) end; 5 end." .empty).state := by
  have result : (parseProgram "program p; begin while y do begin writeln('a':2) end; 5 end."
      .empty).result = .ok mistakenProgram := by cbv
  exact ⟨result, (parsed_tree_wellFormed _ _ _ result).1⟩

end MiniPascal
