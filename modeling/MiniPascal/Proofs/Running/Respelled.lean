/-
This file shows that the spelling of a program matters only up to the lower case of its names: under
other names it has the same tree and does the same.
-/

import MiniPascal.Proofs.Parsing.Acceptance
import MiniPascal.Proofs.Parsing.Separation
import MiniPascal.Proofs.Running.Renaming
import MiniPascal.Proofs.Trees.Relabel
import Mathlib

namespace MiniPascal

/-- Names in lower case that are different stay different. -/
def KeepsApart (names : String → String) : Prop :=
  ∀ name other, names (SymbolTable.key name) = names (SymbolTable.key other) →
    SymbolTable.key name = SymbolTable.key other

/-- Every name has the same value in the one table as the new name in the other one. -/
def SymbolTable.RenamedBy (names : String → String) (table other : SymbolTable) : Prop :=
  ∀ name, other.valueAt? (names (SymbolTable.key name)) = table.valueAt? (SymbolTable.key name)

/-- Runtime errors that differ in the spelling of a node only. -/
structure RuntimeError.SameButSpelling (error other : RuntimeError) : Prop where
  violation : other.violation = error.violation
  line : other.line = error.line
  text : other.text.isSome = error.text.isSome

/-- A tree without the texts of its nodes and without the names of its variables. -/
def Tree.withoutNames : Tree → Tree :=
  Tree.relabel fun label =>
    { label with
      text := label.text.map fun _ => ""
      binding := label.binding.map fun _ => .detached "" }

/-- The key of the cell to which a variable refers. -/
def Binding.key? : Binding → Option String
  | .cell key _ => some key
  | .detached _ => none

/-- The key of the cell at a node, where this is a variable. The nodes are counted in preorder. -/
def Tree.keyAt? (tree : Tree) (index : Nat) : Option String :=
  tree.preorder[index]?.bind fun node => node.label.binding.bind Binding.key?

/-- Two nodes are variables with one cell. -/
def Tree.SharesAt (tree : Tree) (first second : Nat) : Prop :=
  ∃ key, tree.keyAt? first = some key ∧ tree.keyAt? second = some key

/-- All names are changed, and all texts may change. -/
def Renaming.everywhere (names : String → String) (apart : KeepsApart names) : Renaming where
  known _ := True
  rename := names
  text _ _ := True
  noText := trivial
  injective _ _ := apart _ _

variable {names : String → String} {apart : KeepsApart names}

namespace Renaming

theorem everywhere_tokens {token copy : Token} (renamed : token.RenamedBy names copy) :
    (everywhere names apart).likeness.Tokens token copy :=
  ⟨renamed.kind, ⟨trivial, fun kind => ⟨trivial, renamed.name kind⟩⟩, renamed.line.symm⟩

theorem withoutNames_eq {tree other : Tree}
    (trees : (everywhere names apart).likeness.Trees tree other) :
    other.withoutNames = tree.withoutNames := by
  refine trees.relabel fun label copy labels => ?_
  rw [Label.mk.injEq]
  exact ⟨labels.kind, Eq.symm labels.line, Likeness.map_eq_of_rel labels.text fun _ _ _ => rfl,
    labels.value, Likeness.map_eq_of_rel labels.binding fun _ _ _ => rfl⟩

/-- Alike nodes have cells with the old and the new key of one name, or none. -/
theorem keyAt?_rel {tree other : Tree}
    (trees : (everywhere names apart).likeness.Trees tree other) (index : Nat) :
    Option.Rel (fun key keyCopy => ∃ name, key = SymbolTable.key name ∧ keyCopy = names key)
      (tree.keyAt? index) (other.keyAt? index) := by
  have nodes := getElem?_rel trees.preorder index
  rw [Tree.keyAt?, Tree.keyAt?]
  generalize tree.preorder[index]? = node at nodes
  generalize other.preorder[index]? = copy at nodes
  cases nodes with
  | none => exact .none
  | @some node copy labels =>
      have bindings := labels.binding
      rw [Option.bind_some, Option.bind_some]
      generalize node.label.binding = source at bindings
      generalize copy.label.binding = sourceCopy at bindings
      cases bindings with
      | none => exact .none
      | some binding =>
          cases binding with
          | cell => exact .some ⟨_, rfl, rfl⟩
          | detached => exact .none

/-- Variables have one cell exactly when their copies do. -/
theorem sharesAt_iff {tree other : Tree}
    (trees : (everywhere names apart).likeness.Trees tree other) (first second : Nat) :
    other.SharesAt first second ↔ tree.SharesAt first second := by
  have keys := keyAt?_rel trees first
  have keysBehind := keyAt?_rel trees second
  rw [Tree.SharesAt, Tree.SharesAt]
  generalize tree.keyAt? first = key at keys
  generalize other.keyAt? first = keyCopy at keys
  generalize tree.keyAt? second = keyBehind at keysBehind
  generalize other.keyAt? second = keyBehindCopy at keysBehind
  cases keys with
  | none => simp
  | some keys =>
      cases keysBehind with
      | none => simp
      | some keysBehind =>
          obtain ⟨name, rfl, rfl⟩ := keys
          obtain ⟨nameBehind, rfl, rfl⟩ := keysBehind
          simp only [Option.some.injEq, exists_eq_left']
          exact ⟨fun same => (apart _ _ same.symm).symm, fun same => congrArg names same⟩

theorem sameButSpelling {error other : RuntimeError}
    (errors : (everywhere names apart).likeness.Errors error other) :
    error.SameButSpelling other := by
  refine ⟨errors.violation, Eq.symm errors.line, ?_⟩
  have texts := errors.text
  generalize error.text = text at texts
  generalize other.text = textCopy at texts
  cases texts <;> rfl

end Renaming

/-- A text that is accepted is accepted under other names, with a tree like its own. -/
theorem Accepts.respelt {text other : String} {program : Program} {after : SymbolTable}
    (accepts : Accepts text program after) (apart : KeepsApart names)
    (spelt : (Scanner.ofText text).Respelt names other.toList) :
    ∃ copy afterCopy, Accepts other copy afterCopy ∧
      (Renaming.everywhere names apart).likeness.Programs program copy ∧
      after.RenamedBy names afterCopy := by
  obtain ⟨rest, reading⟩ := accepts_iff_reading.mp accepts
  obtain ⟨accepted, period, more, same, alone⟩ := reading.restrict
  obtain ⟨last, takes⟩ := Scanner.takes_of_scanTokens same
  have spelt : (Scanner.ofText text).Respelt names (Scanner.ofText other).rest := spelt
  obtain ⟨copies, lastCopy, takesCopy, renamed⟩ :=
    takes.respelt alone.sound.1.numbersEnd spelt rfl
  have tokens := renamed.imp fun _ _ => @Renaming.everywhere_tokens names apart _ _
  have tables : (Renaming.everywhere names apart).likeness.table .empty .empty := fun _ _ => rfl
  obtain ⟨copy, afterCopy, restCopy, reading, programs, left, rests⟩ := alone.alike tokens tables
  cases rests with
  | cons _ none =>
      cases none
      have enough := takesCopy.length_le
      have starts : copies <+: (Scanner.ofText other).scan.tokens := by
        rw [Scanner.scan, takesCopy.tokens_scanTokens (by omega)]
        exact List.prefix_append _ _
      exact ⟨copy, afterCopy, accepts_iff_reading.mpr (reading.extend starts), programs,
        fun name => left name trivial⟩

/-- Names matter only up to their lower case. When the identifiers of a program are written with other
names that are as different in lower case, and its reserved words in any case, the text is parsed
without errors to the same tree, in which the same variables share a cell. Each run does the same, and
leaves the same value for every name; a runtime error may spell the node in another way. -/
theorem spelling_irrelevant (text other : String) (names : String → String) (program : Program)
    (after : SymbolTable) (accepts : Accepts text program after) (apart : KeepsApart names)
    (spelt : (Scanner.ofText text).Respelt names other.toList) :
    ∃ copy afterCopy, Accepts other copy afterCopy ∧
      copy.toTree.withoutNames = program.toTree.withoutNames ∧
      (∀ first second, copy.toTree.SharesAt first second ↔ program.toTree.SharesAt first second) ∧
      ∀ bound, EndAlike (SymbolTable.RenamedBy names) RuntimeError.SameButSpelling "" ""
        (execute bound program.toTree after) (execute bound copy.toTree afterCopy) := by
  obtain ⟨copy, afterCopy, acceptsCopy, programs, tables⟩ := accepts.respelt apart spelt
  refine ⟨copy, afterCopy, acceptsCopy, Renaming.withoutNames_eq programs,
    Renaming.sharesAt_iff programs, fun bound => ?_⟩
  have ends := Likeness.execute_endAlike (Renaming.keepsValues _) bound programs
    fun name _ => tables name
  exact ends.imp (fun _ _ left name => left name trivial) fun _ _ => Renaming.sameButSpelling

/-- A program that assigns a number to a variable. -/
def assigning : Program :=
  ⟨1, some "p", 1, [.assign 1 ⟨⟨"x", 1⟩, .cell "x" "x"⟩ (.integer ⟨"1", 1⟩ 1)]⟩

/-- The reserved word right behind the number goes on with a letter, and is no exponent. -/
theorem respelt_assigning :
    (Scanner.ofText "program p;begin x:=1end.").Respelt ("z" ++ ·)
      "PROGRAM Zp;Begin zX:=1EnD.".toList := by
  have word {token : Token} {reserved : Keyword} {spelling : String}
      (kind : token.kind = .keyword reserved)
      (recased : spelling.toList.map Char.toLower = reserved.spelling.toList) :
      token.Respelt ("z" ++ ·) spelling := .keyword kind recased
  have last : Scanner.Respelt ("z" ++ ·) ⟨[], 24, 1⟩ [] := .rest (by
    intro token after step
    have ended : Scanner.next ⟨[], 24, 1⟩ = (.ok (.endOfText 1), ⟨[], 24, 1⟩) := by rfl
    rw [ended] at step
    cases step
    rfl)
  have point := @Scanner.Respelt.token _ ⟨['.'], 23, 1⟩ _ ⟨.symbol .period, ".", 1⟩ [] _ _
    (by rfl) rfl (by rfl) (.other (by simp) (by simp)) last
  have closing := @Scanner.Respelt.token _ ⟨"end.".toList, 20, 1⟩ _
    ⟨.keyword .endWord, "end", 1⟩ [] _ "EnD" (by rfl) rfl (by rfl) (word rfl (by decide)) point
  have number := @Scanner.Respelt.token _ ⟨"1end.".toList, 19, 1⟩ _
    ⟨.integer 1, "1", 1⟩ [] _ _ (by rfl) rfl (by rfl) (.other (by simp) (by simp)) closing
  have sign := @Scanner.Respelt.token _ ⟨":=1end.".toList, 17, 1⟩ _
    ⟨.symbol .colonEquals, ":=", 1⟩ [] _ _ (by rfl) rfl (by rfl) (.other (by simp) (by simp)) number
  have target := @Scanner.Respelt.token _ ⟨" x:=1end.".toList, 15, 1⟩ _
    ⟨.identifier, "x", 1⟩ [' '] _ "zX" (by rfl) rfl (by rfl)
    (.identifier rfl ⟨by decide, by decide⟩ (by cbv) (by cbv)) sign
  have opening := @Scanner.Respelt.token _ ⟨"begin x:=1end.".toList, 10, 1⟩ _
    ⟨.keyword .beginWord, "begin", 1⟩ [] _ "Begin" (by rfl) rfl (by rfl)
    (word rfl (by decide)) target
  have semicolon := @Scanner.Respelt.token _ ⟨";begin x:=1end.".toList, 9, 1⟩ _
    ⟨.symbol .semicolon, ";", 1⟩ [] _ _ (by rfl) rfl (by rfl) (.other (by simp) (by simp)) opening
  have name := @Scanner.Respelt.token _ ⟨" p;begin x:=1end.".toList, 7, 1⟩ _
    ⟨.identifier, "p", 1⟩ [' '] _ "Zp" (by rfl) rfl (by rfl)
    (.identifier rfl ⟨by decide, by decide⟩ (by cbv) (by cbv)) semicolon
  exact @Scanner.Respelt.token _ ⟨"program p;begin x:=1end.".toList, 0, 1⟩ _
    ⟨.keyword .programWord, "program", 1⟩ [] _ "PROGRAM" (by rfl) rfl (by rfl)
    (word rfl (by decide)) name

/-- The copy spells the variable and the reserved words in mixed cases. -/
theorem spelling_irrelevant_assigning :
    Accepts "program p;begin x:=1end." assigning
        ⟨[⟨"p", "p", .real 0⟩, ⟨"x", "x", .real 0⟩]⟩ ∧
      KeepsApart ("z" ++ ·) ∧
      ∃ copy afterCopy, Accepts "PROGRAM Zp;Begin zX:=1EnD." copy afterCopy ∧
        copy.toTree.withoutNames = assigning.toTree.withoutNames ∧
        ∀ bound, EndAlike (SymbolTable.RenamedBy ("z" ++ ·)) RuntimeError.SameButSpelling "" ""
          (execute bound assigning.toTree ⟨[⟨"p", "p", .real 0⟩, ⟨"x", "x", .real 0⟩]⟩)
          (execute bound copy.toTree afterCopy) := by
  have accepts : Accepts "program p;begin x:=1end." assigning
      ⟨[⟨"p", "p", .real 0⟩, ⟨"x", "x", .real 0⟩]⟩ := ⟨by cbv, by decide +kernel, by cbv⟩
  have apart : KeepsApart ("z" ++ ·) := fun _ _ same => (String.append_right_inj _).mp same
  obtain ⟨copy, afterCopy, acceptsCopy, trees, _, ends⟩ :=
    spelling_irrelevant _ _ _ _ _ accepts apart respelt_assigning
  exact ⟨accepts, apart, copy, afterCopy, acceptsCopy, trees, ends⟩

end MiniPascal
