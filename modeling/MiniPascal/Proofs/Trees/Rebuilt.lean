/-
This file reads the structured value of a tree back. Together with the table of a program the value
gives the tree again.
-/

import MiniPascal.Proofs.Parsing.Acceptance
import MiniPascal.Proofs.Running.Values
import MiniPascal.Proofs.Trees.Enumeration
import MiniPascal.Proofs.Trees.Shape
import Mathlib

namespace MiniPascal

namespace Json

def text? : Json → Option String
  | text characters => some characters
  | _ => none

@[simp] theorem text?_text (characters : String) : (text characters).text? = some characters := rfl

/-- A number that counts something. -/
def count? : Json → Option Nat
  | integer number => if 0 ≤ number then some number.toNat else none
  | _ => none

/-- The value of a literal. Nothing is not written as a value. -/
def value? : Json → Option Value
  | integer number => some (.integer number)
  | real number => some (.real number)
  | text characters => some (.text characters)
  | truth flag => some (.truth flag)
  | _ => none

/-- What an object may lack is read when it is there. -/
def optional? {α : Type} (read : Json → Option α) (key : String) (json : Json) :
    Option (Option α) :=
  match json.member? key with
  | none => some none
  | some found => (read found).map some

end Json

def NodeKind.ofName? (name : String) : Option NodeKind := NodeKind.all.find? (·.name = name)

theorem NodeKind.ofName?_name (kind : NodeKind) : ofName? kind.name = some kind := by
  cases kind with
  | unary operator => cases operator <;> decide +kernel
  | binary operator => cases operator <;> decide +kernel
  | _ => decide +kernel

/-- The binding of a name that a table knows. -/
def SymbolTable.binding? (table : SymbolTable) (name : String) : Option Binding :=
  (table.lookup? name).map Cell.binding

/-- The label that an object shows. The binding of an entry is the one of its name. -/
def Label.ofJson? (binding? : String → Option Binding) (json : Json) : Option Label := do
  let kind ← NodeKind.ofName? (← (← json.member? "node_type").text?)
  let line ← (← json.member? "line").count?
  let text ← json.optional? Json.text? "text"
  let value ← json.optional? Json.value? "value"
  let binding ← json.optional? (fun entry => entry.text?.bind binding?) "entry"
  return ⟨kind, line, text, value.getD .nothing, binding⟩

namespace Tree

mutual

/-- The tree that a structured value shows. -/
def ofJson? (binding? : String → Option Binding) : Json → Option Tree
  | .object members => do
      let label ← Label.ofJson? binding? (.object members)
      let children ← ofMembers? binding? members
      return .node label children
  | _ => none

/-- The trees under the key of children; without the key there are none. -/
def ofMembers? (binding? : String → Option Binding) : List (String × Json) → Option (List Tree)
  | [] => some []
  | (key, .array elements) :: members =>
      if key = "children" then ofJsons? binding? elements else ofMembers? binding? members
  | _ :: members => ofMembers? binding? members

def ofJsons? (binding? : String → Option Binding) : List Json → Option (List Tree)
  | [] => some []
  | json :: jsons => do
      let tree ← ofJson? binding? json
      let trees ← ofJsons? binding? jsons
      return tree :: trees

end

end Tree

section Labels

variable {binding? : String → Option Binding} {label : Label}

/-- The name of the entry leads to the binding of the label. -/
def Label.FoundBy (binding? : String → Option Binding) (label : Label) : Prop :=
  ∀ binding ∈ label.binding, binding? binding.name = some binding

/-- What an object of a label has under the keys of its parts. -/
structure Label.ShownIn (label : Label) (json : Json) : Prop where
  kind : json.member? "node_type" = some (.text label.kind.name)
  line : json.member? "line" = some (.integer label.line)
  text : json.member? "text" = label.text.map .text
  value : json.member? "value" = if label.value.isNothing then none else some label.value.toJson
  entry : json.member? "entry" = label.binding.map fun binding => .text binding.name

/-- Children behind the members of a label hide none of them. -/
theorem Label.shownIn_toMembers (label : Label) {children : List (String × Json)}
    (behind : ∀ member ∈ children, member.1 = "children") :
    label.ShownIn (.object (label.toMembers ++ children)) := by
  have without (key : String) (other : "children" ≠ key) :
      children.find? (·.1 = key) = none := by
    refine List.find?_eq_none.mpr fun member inside => ?_
    rw [behind member inside, decide_eq_true_iff]
    exact other
  have text := without "text" (by decide)
  have value := without "value" (by decide)
  have entry := without "entry" (by decide)
  obtain ⟨kind, line, labelText, labelValue, binding⟩ := label
  constructor <;> cases labelText <;> cases labelValue <;> cases binding <;>
    simp [toMembers, Json.member?, Value.isNothing, text, value, entry]

/-- A label is read back from an object that shows it. -/
theorem Label.ShownIn.read {json : Json} (shown : label.ShownIn json)
    (found : label.FoundBy binding?) : Label.ofJson? binding? json = some label := by
  obtain ⟨kind, line, text, value, binding⟩ := label
  have kindRead : NodeKind.ofName? kind.name = some kind := kind.ofName?_name
  have lineRead : Json.count? (.integer line) = some line := by simp [Json.count?]
  have textRead : json.optional? Json.text? "text" = some text := by
    rw [Json.optional?, shown.text]
    cases text <;> rfl
  have valueRead : (json.optional? Json.value? "value").map (·.getD .nothing) = some value := by
    rw [Json.optional?, shown.value]
    cases value <;> rfl
  have bindingRead : json.optional? (fun entry => entry.text?.bind binding?) "entry" =
      some binding := by
    rw [Json.optional?, shown.entry]
    cases binding with
    | none => rfl
    | some binding =>
        have known : binding? binding.name = some binding := found binding rfl
        simp [known]
  obtain ⟨valueFound, valueRead, same⟩ := Option.map_eq_some_iff.mp valueRead
  simp [ofJson?, shown.kind, shown.line, kindRead, lineRead, textRead, valueRead,
    bindingRead, same]

theorem Tree.ofMembers?_toMembers (label : Label) (members : List (String × Json)) :
    Tree.ofMembers? binding? (label.toMembers ++ members) = Tree.ofMembers? binding? members := by
  obtain ⟨kind, line, text, value, binding⟩ := label
  cases text <;> cases value <;> cases binding <;>
    simp [Label.toMembers, Tree.ofMembers?, Value.isNothing, Value.toJson]

end Labels

namespace Tree

section Trees

variable {binding? : String → Option Binding}

/-- Every name of an entry in a tree leads to the binding of its node. -/
def FoundBy (binding? : String → Option Binding) (tree : Tree) : Prop :=
  ∀ node ∈ tree.preorder, node.label.FoundBy binding?

theorem ofJsons?_toJsons {trees : List Tree}
    (parts : ∀ tree ∈ trees, ofJson? binding? tree.toJson = some tree) :
    ofJsons? binding? (toJsons trees) = some trees := by
  induction trees with
  | nil => rfl
  | cons tree trees inductionHypothesis =>
      obtain ⟨first, others⟩ := List.forall_mem_cons.mp parts
      simp [toJsons, ofJsons?, first, inductionHypothesis others]

/-- A tree is read back from its structured value. -/
theorem FoundBy.ofJson?_toJson {tree : Tree} (found : tree.FoundBy binding?) :
    ofJson? binding? tree.toJson = some tree := by
  induction tree using Tree.inductionOn with
  | node label children inductionHypothesis =>
      obtain ⟨own, parts⟩ := forall_mem_preorder.mp found
      have children? : ofJsons? binding? (toJsons children) = some children :=
        ofJsons?_toJsons fun child inside => inductionHypothesis child inside (parts child inside)
      have behind : ∀ member ∈ if children.isEmpty then [] else
          [("children", Json.array (toJsons children))], member.1 = "children" := by
        intro member inside
        split at inside
        · cases inside
        · rw [List.mem_singleton.mp inside]
      rw [toJson, ofJson?, (label.shownIn_toMembers behind).read own, ofMembers?_toMembers]
      cases children with
      | nil => rfl
      | cons first others =>
          rw [List.isEmpty_cons, if_neg Bool.false_ne_true, ofMembers?, if_pos rfl, children?]
          rfl

end Trees

end Tree

namespace SymbolTable

/-- Every cell is stored under the lower case of its name. -/
def Keyed (table : SymbolTable) : Prop := ∀ cell ∈ table.cells, cell.key = key cell.name

theorem Keyed.enter {table : SymbolTable} (keyed : table.Keyed) (name : String) :
    (table.enter name).Keyed := by
  unfold SymbolTable.enter
  split
  · exact keyed
  · exact List.forall_mem_append.mpr ⟨keyed, List.forall_mem_singleton.mpr rfl⟩

/-- The name of a cell that is looked up leads to the cell again. -/
theorem Keyed.lookup?_name {table : SymbolTable} (keyed : table.Keyed) {name : String}
    {cell : Cell} (known : table.lookup? name = some cell) :
    table.lookup? cell.name = some cell := by
  have same : key cell.name = key name :=
    (keyed cell (List.mem_of_find?_eq_some known)).symm.trans (key_of_lookup? known)
  rw [lookup?, same]
  exact known

end SymbolTable

/-- A parser keeps the table in order. -/
theorem parseProgram_keyed (text : String) {table : SymbolTable} (keyed : table.Keyed) :
    (parseProgram text table).state.table.Keyed := by
  refine (Parse.program_binds ⟨.ofText text, [], table⟩).steps.keep (·.table.Keyed) ?_ keyed
  rintro state _ (_ | _ | _) held
  · exact held
  · exact held
  · exact held.enter _

section Accepted

variable {text : String} {program : Program} {table : SymbolTable}

theorem Accepts.keyed (accepts : Accepts text program table) : table.Keyed :=
  accepts.table ▸ parseProgram_keyed text nofun

/-- Every binding of an accepted program is one of its table. -/
theorem Accepts.binding (accepts : Accepts text program table) {node : Tree}
    (inside : node ∈ program.toTree.preorder) {binding : Binding}
    (bound : node.label.binding = some binding) :
    ∃ cell ∈ table.cells, binding = cell.binding ∧ table.lookup? cell.name = some cell := by
  have keyed := accepts.keyed
  obtain ⟨result, quiet, rfl⟩ := accepts
  cases (Program.wellFormed_toTree (parseProgram_bound result) node inside).bound with
  | other _ none =>
      rw [none] at bound
      cases bound
  | reference source _ _ _ same sourceBound =>
      obtain rfl := Option.some.inj (same.symm.trans bound)
      rcases sourceBound with ⟨cell, known, same⟩ | ⟨_, reported⟩
      · exact ⟨cell, List.mem_of_find?_eq_some known, same, keyed.lookup?_name known⟩
      · -- A detached cell is reported, and nothing is.
        have none := List.length_eq_zero_iff.mp quiet
        rw [none] at reported
        cases reported

theorem Accepts.foundBy (accepts : Accepts text program table) :
    program.toTree.FoundBy table.binding? := by
  intro node inside binding bound
  obtain ⟨cell, _, rfl, known⟩ := accepts.binding inside bound
  exact congrArg (Option.map Cell.binding) known

/-- The bindings of an accepted program are known by their names alone. -/
theorem Accepts.foundByName (accepts : Accepts text program table) :
    program.toTree.FoundBy fun name => some (.cell (SymbolTable.key name) name) := by
  intro node inside binding bound
  obtain ⟨cell, listed, rfl, _⟩ := accepts.binding inside bound
  rw [Cell.binding, accepts.keyed cell listed]
  rfl

end Accepted

/-- The structured value of an accepted program, read back with the names of its table, gives the tree
of the program. The binding of each variable is that of a cell of the table, to which the name of the
cell leads. Accepted programs with equal values have equal trees. -/
theorem structured_value_lossless (text : String) (program : Program) (table : SymbolTable)
    (accepts : Accepts text program table) :
    Tree.ofJson? table.binding? program.toTree.toJson = some program.toTree ∧
      (∀ node ∈ program.toTree.preorder, node.kind = .reference →
        ∃ cell ∈ table.cells, node.label.binding = some cell.binding ∧
          table.lookup? cell.name = some cell) ∧
      ∀ other copy tableOther, Accepts other copy tableOther →
        program.toTree.toJson = copy.toTree.toJson → program.toTree = copy.toTree := by
  refine ⟨accepts.foundBy.ofJson?_toJson, fun node inside kind => ?_, ?_⟩
  · have bound := (Program.wellFormed_toTree (parseProgram_bound accepts.result) node inside).bound
    cases bound with
    | other noReference => exact absurd kind noReference
    | reference source _ _ _ same =>
        obtain ⟨cell, listed, binding, known⟩ := accepts.binding inside same
        exact ⟨cell, listed, same.trans (congrArg some binding), known⟩
  · intro other copy tableOther acceptsOther same
    have read := accepts.foundByName.ofJson?_toJson
    rw [same, acceptsOther.foundByName.ofJson?_toJson] at read
    exact (Option.some.inj read).symm

/-- A program with a whole and a real zero, an empty string and two spellings of a name. -/
def zerosProgram : Program :=
  ⟨1, some "p", 1, [.assign 1 ⟨⟨"X", 1⟩, .cell "x" "X"⟩ (.integer ⟨"0", 1⟩ 0),
    .assign 1 ⟨⟨"x", 1⟩, .cell "x" "X"⟩ (.real ⟨"0e0", 1⟩ (Binary64.ofPattern false 0)),
    .write 1 ⟨.string ⟨"''", 1⟩ "", .plain⟩]⟩

theorem structured_value_lossless_zeros :
    Accepts "program p; begin X := 0; x := 0e0; write('') end." zerosProgram
        ((SymbolTable.empty.enter "p").enter "X") ∧
      Tree.ofJson? ((SymbolTable.empty.enter "p").enter "X").binding? zerosProgram.toTree.toJson =
        some zerosProgram.toTree := by
  have accepts : Accepts "program p; begin X := 0; x := 0e0; write('') end." zerosProgram
      ((SymbolTable.empty.enter "p").enter "X") := ⟨by cbv, by decide +kernel, by cbv⟩
  exact ⟨accepts, (structured_value_lossless _ _ _ accepts).1⟩

end MiniPascal
