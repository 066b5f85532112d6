/-
This file says which value a table has under a key, and how entering a name and writing a variable
change it.
-/

import MiniPascal.Proofs.Running.Meaning

namespace MiniPascal

namespace SymbolTable

/-- The value under a key, where the table has one. -/
def valueAt? (table : SymbolTable) (key : String) : Option Value :=
  (table.find? key).map Cell.value

variable {table : SymbolTable} {name : String}

theorem key_of_lookup? {cell : Cell} (known : table.lookup? name = some cell) :
    cell.key = key name := by
  simpa using List.find?_some known

theorem key_entered (table : SymbolTable) (name : String) :
    (table.entered name).key = key name := by
  rw [entered]
  cases known : table.lookup? name with
  | none => rfl
  | some cell => exact key_of_lookup? known

/-- Entering a name adds its cell where there is none. -/
theorem find?_enter (table : SymbolTable) (name sought : String) :
    (table.enter name).find? sought =
      (table.find? sought).or (if key name = sought then some (freshCell name) else none) := by
  by_cases known : table.contains name = true
  · rw [enter_of_contains known]
    cases found : table.find? sought with
    | some cell => rfl
    | none =>
        have other : key name ≠ sought := fun same => by
          rw [contains, lookup?, same, found] at known
          cases known
        rw [if_neg other]
        rfl
  · rw [enter, if_neg known, find?, List.find?_append]
    refine congrArg _ ?_
    by_cases same : key name = sought <;> simp [freshCell, same]

/-- A name that is entered has the value zero where it had none. -/
theorem valueAt?_enter (table : SymbolTable) (name sought : String) :
    (table.enter name).valueAt? sought =
      (table.valueAt? sought).or (if key name = sought then some (.real 0) else none) := by
  rw [valueAt?, find?_enter, valueAt?]
  cases table.find? sought with
  | some cell => rfl
  | none => by_cases same : key name = sought <;> simp [same, freshCell]

theorem valueAt?_store (table : SymbolTable) (stored sought : String) (value : Value) :
    (table.store stored value).valueAt? sought =
      (table.valueAt? sought).map fun old => if sought = stored then value else old := by
  rw [valueAt?, find?_store, valueAt?]
  cases table.find? sought with
  | none => rfl
  | some cell => by_cases same : sought = stored <;> simp [same]

/-- A variable is read as the value under its key. -/
theorem read_cell (table : SymbolTable) (sought spelling : String) :
    table.read (.cell sought spelling) =
      (table.valueAt? sought).elim (.error (.fault .unbound)) .ok := by
  rw [read, valueAt?]
  cases table.find? sought <;> rfl

end SymbolTable

end MiniPascal
