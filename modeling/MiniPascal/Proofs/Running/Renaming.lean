/-
This file shows that the names of a program matter only in so far as they tell its variables apart.
-/

import MiniPascal.Proofs.Parsing.AlikePrograms
import MiniPascal.Proofs.Running.AlikeRuns
import MiniPascal.Proofs.Running.Values

namespace MiniPascal

/-- A naming changes the keys of known names and keeps them apart. Texts that are no names may
change too. -/
structure Renaming where
  known : String → Prop
  rename : String → String
  text : String → String → Prop
  noText : text "" ""
  injective {name other : String} : known name → known other →
    rename (SymbolTable.key name) = rename (SymbolTable.key other) →
      SymbolTable.key name = SymbolTable.key other

namespace Renaming

variable (naming : Renaming)

/-- The cells of a known name, whichever spelling entered them, or the cell of an unknown name. -/
inductive Bindings : Binding → Binding → Prop where
  | cell {name : String} (spelling other : String) (known : naming.known name) :
      Bindings (.cell (SymbolTable.key name) spelling)
        (.cell (naming.rename (SymbolTable.key name)) other)
  | detached (name other : String) : Bindings (.detached name) (.detached other)

/-- Every known name has the same value under both keys. -/
def Tables (table other : SymbolTable) : Prop :=
  ∀ name, naming.known name →
    other.valueAt? (naming.rename (SymbolTable.key name)) = table.valueAt? (SymbolTable.key name)

variable {naming} {table other : SymbolTable} {name copy : String}

theorem Tables.enter (tables : naming.Tables table other) (known : naming.known name)
    (same : SymbolTable.key copy = naming.rename (SymbolTable.key name)) :
    naming.Tables (table.enter name) (other.enter copy) := by
  intro sought knownSought
  rw [SymbolTable.valueAt?_enter, SymbolTable.valueAt?_enter, tables sought knownSought, same]
  congr 1
  by_cases equal : SymbolTable.key name = SymbolTable.key sought
  · rw [if_pos equal, if_pos (congrArg _ equal)]
  · rw [if_neg equal, if_neg fun renamed => equal (naming.injective known knownSought renamed)]

theorem Tables.entered (known : naming.known name)
    (same : SymbolTable.key copy = naming.rename (SymbolTable.key name)) :
    naming.Bindings (table.entered name).binding (other.entered copy).binding := by
  rw [Cell.binding, Cell.binding, SymbolTable.key_entered, SymbolTable.key_entered, same]
  exact .cell _ _ known

theorem Tables.lookup? (tables : naming.Tables table other) (known : naming.known name)
    (same : SymbolTable.key copy = naming.rename (SymbolTable.key name)) :
    Option.Rel (fun cell copy => naming.Bindings cell.binding copy.binding)
      (table.lookup? name) (other.lookup? copy) := by
  have values := tables name known
  rw [← same, SymbolTable.valueAt?, SymbolTable.valueAt?] at values
  cases found : table.find? (SymbolTable.key name) with
  | none =>
      rw [found] at values
      rw [SymbolTable.lookup?, SymbolTable.lookup?, found, Option.map_eq_none_iff.mp values]
      exact .none
  | some cell =>
      rw [found] at values
      obtain ⟨cellCopy, foundCopy, _⟩ := Option.map_eq_some_iff.mp values
      rw [SymbolTable.lookup?, SymbolTable.lookup?, found, foundCopy]
      refine .some ?_
      rw [Cell.binding, Cell.binding, SymbolTable.key_of_lookup? found,
        SymbolTable.key_of_lookup? foundCopy, same]
      exact .cell _ _ known

/-- Readings of a program before and after its names are changed. -/
def likeness (naming : Renaming) : Likeness where
  spelling kind name copy := naming.text name copy ∧
    (kind = .identifier → naming.known name ∧
      SymbolTable.key copy = naming.rename (SymbolTable.key name))
  line := Eq
  table := naming.Tables
  binding := naming.Bindings
  endOfText := ⟨naming.noText, nofun⟩
  firstLine := rfl
  enter spelled tables := tables.enter (spelled.2 rfl).1 (spelled.2 rfl).2
  entered spelled _ := Tables.entered (spelled.2 rfl).1 (spelled.2 rfl).2
  lookup? spelled tables := tables.lookup? (spelled.2 rfl).1 (spelled.2 rfl).2
  detached _ := .detached _ _

/-- What a program reads and writes keeps known names at the same values. -/
theorem keepsValues (naming : Renaming) : naming.likeness.KeepsValues where
  read := by
    intro table other source copy tables bindings
    cases bindings with
    | detached => rfl
    | cell spelling copy known =>
        rw [SymbolTable.read_cell, SymbolTable.read_cell, tables _ known]
  write := by
    intro table other source copy number tables bindings
    cases bindings with
    | detached => exact tables
    | @cell name spelling copy known =>
        intro sought knownSought
        rw [SymbolTable.write, SymbolTable.write, SymbolTable.valueAt?_store,
          SymbolTable.valueAt?_store, tables sought knownSought]
        congr 1
        funext old
        by_cases equal : SymbolTable.key sought = SymbolTable.key name
        · rw [if_pos equal, if_pos (congrArg _ equal)]
        · rw [if_neg equal,
            if_neg fun renamed => equal (naming.injective knownSought known renamed)]

end Renaming

end MiniPascal
