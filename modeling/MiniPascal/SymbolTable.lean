/-
This file holds the variables of a program with their values.
-/

import MiniPascal.Text.LowerCase
import MiniPascal.Value

namespace MiniPascal

/-- A cell stores a value under the lower case of the name that first entered it. -/
structure Cell where
  key : String
  name : String
  value : Value

/-- The listing form of a cell. -/
def Cell.description (cell : Cell) : String :=
  "SymbolTableEntry(" ++ cell.name ++ ", value=" ++ cell.value.plain ++ ")"

/-- The cells of a table stand in the order of their entry. -/
structure SymbolTable where
  cells : List Cell

namespace SymbolTable

def empty : SymbolTable := ⟨[]⟩

/-- The key under which a name is stored. -/
def key (name : String) : String := Text.lower name

/-- The cell with the given key. -/
def find? (table : SymbolTable) (key : String) : Option Cell :=
  table.cells.find? (·.key = key)

/-- The cell of a name in any mixture of cases. -/
def lookup? (table : SymbolTable) (name : String) : Option Cell := table.find? (key name)

def contains (table : SymbolTable) (name : String) : Bool := (table.lookup? name).isSome

/-- A new cell holds zero. -/
def freshCell (name : String) : Cell := ⟨key name, name, .real 0⟩

/-- A name is entered once; later spellings reuse its cell. -/
def enter (table : SymbolTable) (name : String) : SymbolTable :=
  if table.contains name then table else ⟨table.cells ++ [freshCell name]⟩

/-- The cell that entering a name reuses or adds. -/
def entered (table : SymbolTable) (name : String) : Cell :=
  (table.lookup? name).getD (freshCell name)

/-- The cell with the given key takes a new value. -/
def store (table : SymbolTable) (key : String) (value : Value) : SymbolTable :=
  ⟨table.cells.map fun cell => if cell.key = key then { cell with value } else cell⟩

/-- The place of a key in the order of entry. -/
def index? (table : SymbolTable) (key : String) : Option Nat :=
  table.cells.findIdx? (·.key = key)

/-- Entering a name makes its cell known. -/
theorem lookup?_enter (table : SymbolTable) (name : String) :
    (table.enter name).lookup? name = some (table.entered name) := by
  unfold enter contains entered
  cases known : table.lookup? name with
  | some cell => simp [known]
  | none =>
      simp only [lookup?, find?] at known
      simp [lookup?, find?, known, freshCell]

/-- A name that is known already enters nothing. -/
theorem enter_of_contains {table : SymbolTable} {name : String}
    (known : table.contains name = true) : table.enter name = table := by
  simp [enter, known]

/-- A store keeps the keys, their spellings and their order. -/
theorem keys_store (table : SymbolTable) (key : String) (value : Value) :
    (table.store key value).cells.map (fun cell => (cell.key, cell.name)) =
      table.cells.map fun cell => (cell.key, cell.name) := by
  simp only [store, List.map_map]
  apply List.map_congr_left
  intro cell _
  by_cases same : cell.key = key <;> simp [same]

/-- Only the cell with the stored key changes its value. -/
theorem find?_store (table : SymbolTable) (key other : String) (value : Value) :
    (table.store key value).find? other =
      (table.find? other).map fun cell => if other = key then { cell with value } else cell := by
  obtain ⟨cells⟩ := table
  simp only [find?, store]
  induction cells with
  | nil => rfl
  | cons cell cells inductionHypothesis =>
      by_cases stored : cell.key = key <;> by_cases sought : cell.key = other <;>
        simp_all

end SymbolTable

/-- A variable of a program refers to a cell of the table, or to a cell of its own that holds
zero and that no table lists. -/
inductive Binding where
  | cell (key name : String)
  | detached (name : String)
deriving DecidableEq, Repr

/-- The spelling that entered the cell. -/
def Binding.name : Binding → String
  | .cell _ name => name
  | .detached name => name

def Cell.binding (cell : Cell) : Binding := .cell cell.key cell.name

end MiniPascal
