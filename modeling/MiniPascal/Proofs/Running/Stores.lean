/-
This file says what a program may rely on in the table on which it runs: its variables can be
read, and all values are real.
-/

import MiniPascal.Proofs.Running.Queries

namespace MiniPascal

/-- A variable can be read in a table. -/
def Variable.Known (table : SymbolTable) (source : Variable) : Prop :=
  ∃ value, table.read source.binding = .ok value

/-- Every cell holds a real number. -/
def SymbolTable.HoldsReals (table : SymbolTable) : Prop :=
  ∀ cell ∈ table.cells, ∃ number, cell.value = .real number

/-- A table covers another one when it has a cell for each key of that one. -/
def SymbolTable.Covers (table other : SymbolTable) : Prop :=
  ∀ cell ∈ other.cells, ∃ own, table.find? cell.key = some own

variable {table other : SymbolTable}

theorem SymbolTable.Covers.refl (table : SymbolTable) : table.Covers table := by
  intro cell inside
  have present : (table.cells.find? (·.key = cell.key)).isSome :=
    List.find?_isSome.mpr ⟨cell, inside, decide_eq_true rfl⟩
  exact Option.isSome_iff_exists.mp present

/-- A variable that is bound by a parser is known in every table that covers that of the parser. -/
theorem Variable.Bound.known {state : ParseState} {source : Variable} (bound : source.Bound state)
    (covers : table.Covers state.table) : source.Known table := by
  obtain ⟨cell, known, same⟩ | ⟨same, _⟩ := bound
  · obtain ⟨own, found⟩ := covers cell (List.mem_of_find?_eq_some known)
    refine ⟨own.value, ?_⟩
    rw [same, Cell.binding, SymbolTable.read, found]
  · refine ⟨.real 0, ?_⟩
    rw [same, SymbolTable.read]

/-- A write loses no cell. -/
theorem SymbolTable.read_write {source : Binding} {value : Value} {number : Float}
    {target : Binding} (reads : table.read source = .ok value) :
    ∃ value, (table.write number target).read source = .ok value := by
  cases target with
  | detached => exact ⟨value, reads⟩
  | cell key name =>
      cases source with
      | detached => exact ⟨.real 0, rfl⟩
      | cell sought spelling =>
          rw [write, read, find?_store]
          rw [read] at reads
          cases found : table.find? sought with
          | none =>
              rw [found] at reads
              cases reads
          | some cell => exact ⟨_, rfl⟩

theorem Variable.Known.write {source : Variable} (known : source.Known table) (number : Float)
    (target : Binding) : source.Known (table.write number target) :=
  known.elim fun _ reads => SymbolTable.read_write reads

namespace SymbolTable.HoldsReals

theorem empty : SymbolTable.empty.HoldsReals := by
  intro cell inside
  cases inside

/-- A write keeps all values real. -/
theorem write (reals : table.HoldsReals) (number : Float) (target : Binding) :
    (table.write number target).HoldsReals := by
  cases target with
  | detached => exact reals
  | cell key name =>
      intro cell inside
      obtain ⟨before, member, rfl⟩ := List.mem_map.mp inside
      split
      · exact ⟨number, rfl⟩
      · exact reals before member

/-- A parser enters real numbers only. -/
theorem enter (reals : table.HoldsReals) (name : String) : (table.enter name).HoldsReals := by
  unfold SymbolTable.enter
  split
  · exact reals
  · intro cell inside
    rcases List.mem_append.mp inside with before | fresh
    · exact reals cell before
    · rw [List.mem_singleton.mp fresh]
      exact ⟨0, rfl⟩

/-- What is read is real. -/
theorem read (reals : table.HoldsReals) {source : Binding} {value : Value}
    (reads : table.read source = .ok value) : ∃ number, value = .real number := by
  cases source with
  | detached =>
      cases reads
      exact ⟨0, rfl⟩
  | cell key name =>
      rw [SymbolTable.read] at reads
      cases found : table.find? key with
      | none =>
          rw [found] at reads
          cases reads
      | some cell =>
          rw [found] at reads
          cases reads
          exact reals cell (List.mem_of_find?_eq_some found)

end SymbolTable.HoldsReals

end MiniPascal
