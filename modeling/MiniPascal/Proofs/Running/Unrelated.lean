/-
This file shows that the names that a program does not mention neither change nor influence it.
-/

import MiniPascal.Proofs.Parsing.Acceptance
import MiniPascal.Proofs.Parsing.Names
import MiniPascal.Proofs.Running.Frames
import MiniPascal.Proofs.Running.Renaming
import MiniPascal.Proofs.Trees.Relabel
import Mathlib

namespace MiniPascal

/-- Two tables agree on names when each of them is in both tables, with the same value, or in none. -/
def SymbolTable.AgreeOn (names : List String) (table other : SymbolTable) : Prop :=
  ∀ name ∈ names,
    other.valueAt? (SymbolTable.key name) = table.valueAt? (SymbolTable.key name)

/-- A variable without the spelling that entered its cell. -/
def Binding.withoutSpelling : Binding → Binding
  | .cell key _ => .cell key ""
  | .detached _ => .detached ""

/-- A tree without the spellings that entered the cells of its variables. -/
def Tree.withoutSpellings : Tree → Tree :=
  Tree.relabel fun label => { label with binding := label.binding.map Binding.withoutSpelling }

/-- The names of a list stay as they are. -/
def Renaming.identity (names : List String) : Renaming where
  known := (· ∈ names)
  rename := id
  text := Eq
  noText := rfl
  injective _ _ same := same

theorem Renaming.text_eq {names : List String} {text copy : Option String}
    (texts : Option.Rel (identity names).likeness.Texts text copy) : copy = text :=
  Likeness.eq_of_rel texts fun _ _ ⟨_, same, _⟩ => Eq.symm same

theorem Renaming.withoutSpelling_eq {names : List String} {source copy : Option Binding}
    (bindings : Option.Rel (identity names).Bindings source copy) :
    copy.map Binding.withoutSpelling = source.map Binding.withoutSpelling :=
  Likeness.map_eq_of_rel bindings fun _ _ binding => by cases binding <;> rfl

/-- Trees that are alike under the same names have the same cells. -/
theorem Renaming.withoutSpellings_eq {names : List String} {tree other : Tree}
    (trees : (identity names).likeness.Trees tree other) :
    other.withoutSpellings = tree.withoutSpellings := by
  refine trees.relabel fun label copy labels => ?_
  rw [Label.mk.injEq]
  exact ⟨labels.kind, Eq.symm labels.line, Renaming.text_eq labels.text, labels.value,
    Renaming.withoutSpelling_eq labels.binding⟩

/-- Two runs over tables that agree on names have the same result, write the same, and leave the same
values for these names. -/
structure Outcome.AgreeOn (names : List String) (outcome other : Outcome Value) : Prop where
  result : other.result = outcome.result
  output : other.machine.output = outcome.machine.output
  table : SymbolTable.AgreeOn names outcome.machine.table other.machine.table

theorem Renaming.outcome_agrees {names : List String} {outcome other : Outcome Value}
    (ends : EndAlike (identity names).Tables (identity names).likeness.Errors "" "" outcome other) :
    outcome.AgreeOn names other := by
  cases ends with
  | ok left => exact ⟨rfl, rfl, left⟩
  | fault left => exact ⟨rfl, rfl, left⟩
  | exhausted left => exact ⟨rfl, rfl, left⟩
  | @error error copy _ _ _ errors left =>
      obtain ⟨violation, line, text⟩ := error
      obtain ⟨violationCopy, lineCopy, textCopy⟩ := copy
      obtain rfl : violationCopy = violation := errors.violation
      obtain rfl : line = lineCopy := errors.line
      obtain rfl : textCopy = text := Renaming.text_eq errors.text
      exact ⟨rfl, rfl, left⟩

/-- Every cell of a table is a cell of the other one, with the same value. -/
def SymbolTable.KeptBy (table after : SymbolTable) : Prop :=
  ∀ key cell, table.find? key = some cell → after.find? key = some cell

/-- The tables have the same cells but for the targets of some assignments. -/
def SymbolTable.SameBut (targets : List Variable) (table after : SymbolTable) : Prop :=
  ∀ key, (∀ target ∈ targets, SymbolTable.key target.mark.text ≠ key) →
    after.find? key = table.find? key

/-- Parsing changes no cell that a table has, whatever mistakes the text has. -/
theorem parseProgram_keeps (text : String) (table : SymbolTable) :
    table.KeptBy (parseProgram text table).state.table := by
  intro key cell present
  refine (Parse.program_binds ⟨.ofText text, [], table⟩).steps.keep
    (fun state => state.table.find? key = some cell) ?_ present
  rintro state _ (_ | _ | _) present
  · exact present
  · exact present
  · rw [SymbolTable.find?_enter, present]
    rfl

/-- A run changes no cell but those of assigned names, wherever it stops. -/
theorem Parses.execute_sameBut {text : String} {table after : SymbolTable} {program : Program}
    (parses : Parses text table program after) (bound : Nat) :
    SymbolTable.SameBut (Statement.allTargets program.body) after
      (execute bound program.toTree after).machine.table := by
  intro key unassigned
  have kept : ∀ target ∈ Statement.allTargets program.body,
      target.Keeps fun last => last.find? key = after.find? key := by
    intro target inside last number same
    have bound := parseProgram_bound parses.result target (Statement.allTargets_subset inside)
    obtain ⟨cell, known, binding⟩ | ⟨binding, _⟩ := bound
    · have other : key ≠ cell.key := fun same =>
        unassigned target inside ((SymbolTable.key_of_lookup? known).symm.trans same.symm)
      rw [binding, Cell.binding, SymbolTable.write, SymbolTable.find?_store, same]
      simp only [if_neg other, Option.map_id']
    · rw [binding]
      exact same
  exact program.execute_keeps bound kept rfl

/-- A text is parsed over tables that agree on its names to programs with the same tree. -/
theorem Parses.agree {text : String} {program : Program} {table after other : SymbolTable}
    (parses : Parses text table program after)
    (agree : SymbolTable.AgreeOn program.names table other) :
    ∃ copy afterCopy, Parses text other copy afterCopy ∧
      (Renaming.identity program.names).likeness.Programs program copy ∧
      SymbolTable.AgreeOn program.names after afterCopy := by
  obtain ⟨rest, reading⟩ := parses_iff_reading.mp parses
  obtain ⟨accepted, period, more, same, alone⟩ := reading.restrict
  have tokens : List.Forall₂ (Renaming.identity program.names).likeness.Tokens accepted accepted :=
    List.forall₂_same.mpr fun token inside =>
      ⟨rfl, ⟨rfl, fun kind => ⟨alone.mentioned inside kind, rfl⟩⟩, rfl⟩
  obtain ⟨copy, afterCopy, restCopy, readingCopy, programs, tables, rests⟩ :=
    alone.alike tokens agree
  cases rests with
  | cons _ none =>
      cases none
      exact ⟨copy, afterCopy, parses_iff_reading.mpr (readingCopy.extend ⟨more, same.symm⟩), programs,
        tables⟩

/-- Two tables that agree on the names that a program mentions make no difference to it. Over the
other one the text is parsed without errors to the same tree, and each run has the same result, writes
the same, and leaves the same values for those names. Parsing changes no cell of either table, and a
run changes the values of assigned names only. -/
theorem unmentioned_names_irrelevant (text : String) (program : Program)
    (table after other : SymbolTable) (parses : Parses text table program after)
    (agree : SymbolTable.AgreeOn program.names table other) :
    table.KeptBy after ∧
    (∀ bound, SymbolTable.SameBut (Statement.allTargets program.body) after
      (execute bound program.toTree after).machine.table) ∧
    ∃ copy afterCopy, Parses text other copy afterCopy ∧
      copy.toTree.withoutSpellings = program.toTree.withoutSpellings ∧
      (∀ bound, (execute bound program.toTree after).AgreeOn program.names
        (execute bound copy.toTree afterCopy)) ∧
      other.KeptBy afterCopy ∧
      ∀ bound, SymbolTable.SameBut (Statement.allTargets copy.body) afterCopy
        (execute bound copy.toTree afterCopy).machine.table := by
  obtain ⟨copy, afterCopy, parsesCopy, programs, tables⟩ := parses.agree agree
  refine ⟨parses.table ▸ parseProgram_keeps text table, parses.execute_sameBut, copy, afterCopy,
    parsesCopy, Renaming.withoutSpellings_eq programs, fun bound => ?_,
    parsesCopy.table ▸ parseProgram_keeps text other, parsesCopy.execute_sameBut⟩
  exact Renaming.outcome_agrees
    (Likeness.execute_endAlike (Renaming.keepsValues _) bound programs tables)

/-- A program that copies a variable of the table over which it is parsed. -/
def copying : Program :=
  ⟨1, some "p", 1, [.assign 1 ⟨⟨"x", 1⟩, .cell "x" "x"⟩ (.reference ⟨⟨"Y", 1⟩, .cell "y" "y"⟩)]⟩

/-- The other table spells the variable in another way and has one that the program does not
mention. -/
theorem unmentioned_names_irrelevant_copying :
    Parses "program p; begin x := Y end." ⟨[⟨"y", "y", .real 2⟩]⟩ copying
        ⟨[⟨"y", "y", .real 2⟩, ⟨"p", "p", .real 0⟩, ⟨"x", "x", .real 0⟩]⟩ ∧
      ∃ copy afterCopy, Parses "program p; begin x := Y end."
          ⟨[⟨"z", "Z", .real 1⟩, ⟨"y", "Y", .real 2⟩]⟩ copy afterCopy ∧
        copy.toTree.withoutSpellings = copying.toTree.withoutSpellings := by
  have parses : Parses "program p; begin x := Y end." ⟨[⟨"y", "y", .real 2⟩]⟩ copying
      ⟨[⟨"y", "y", .real 2⟩, ⟨"p", "p", .real 0⟩, ⟨"x", "x", .real 0⟩]⟩ :=
    ⟨by cbv, by decide +kernel, by cbv⟩
  have agree : SymbolTable.AgreeOn copying.names ⟨[⟨"y", "y", .real 2⟩]⟩
      ⟨[⟨"z", "Z", .real 1⟩, ⟨"y", "Y", .real 2⟩]⟩ := by
    have names : copying.names = ["p", "x", "Y"] := rfl
    rw [names, SymbolTable.AgreeOn]
    simp only [List.forall_mem_cons]
    exact ⟨by cbv, by cbv, by cbv, by simp⟩
  obtain ⟨_, _, copy, afterCopy, parsesCopy, trees, _⟩ :=
    unmentioned_names_irrelevant _ _ _ _ _ parses agree
  exact ⟨parses, copy, afterCopy, parsesCopy, trees⟩

end MiniPascal
