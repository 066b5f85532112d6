/-
This file shows when the file into which a tree is dumped holds a text of the grammar.
-/

import MiniPascal.Proofs.Json.ReadBack
import MiniPascal.Proofs.Parsing.Binding
import MiniPascal.Proofs.Parsing.SpelledPrograms
import MiniPascal.Proofs.Processing.Shown
import MiniPascal.Proofs.Scanning.LongestMatch

namespace MiniPascal

open Lexeme

section Values

variable {label : Label}

/-- Only the value of a node can be a number that is not finite. -/
theorem Label.finite_toMembers_iff :
    (∀ member ∈ label.toMembers, member.2.Finite) ↔ label.value.toJson.Finite := by
  have texts {α : Type} (name : String) (read : α → String) (found : Option α) :
      ∀ member ∈ (found.map fun value => (name, Json.text (read value))).toList, member.2.Finite := by
    cases found with
    | none => nofun
    | some value => exact List.forall_mem_singleton.mpr .text
  have value : (∀ member ∈ (if label.value.isNothing then [] else
      [("value", label.value.toJson)]), member.2.Finite) ↔ label.value.toJson.Finite := by
    cases label.value with
    | nothing => exact ⟨fun _ => .null, fun _ => nofun⟩
    | _ => exact List.forall_mem_singleton
  have front : ∀ member ∈ [("node_type", Json.text label.kind.name),
      ("line", Json.integer label.line)], member.2.Finite :=
    List.forall_mem_cons.mpr ⟨.text, List.forall_mem_singleton.mpr .integer⟩
  rw [toMembers, List.forall_mem_append, List.forall_mem_append, List.forall_mem_append, value]
  constructor
  · exact fun all => all.1.2
  · exact fun finite => ⟨⟨⟨front, texts _ id _⟩, finite⟩, texts _ Binding.name _⟩

theorem Tree.finite_toJson_iff {tree : Tree} :
    tree.toJson.Finite ↔ ∀ node ∈ tree.preorder, node.label.value.toJson.Finite := by
  induction tree using Tree.inductionOn with
  | node label children inductionHypothesis =>
      have parts : (∀ member ∈ (if children.isEmpty then [] else
          [("children", Json.array (toJsons children))]), member.2.Finite) ↔
            ∀ child ∈ children, child.toJson.Finite := by
        cases children with
        | nil => exact ⟨fun _ => nofun, fun _ => nofun⟩
        | cons child children =>
            rw [List.isEmpty_cons, if_neg Bool.false_ne_true, List.forall_mem_singleton,
              Json.finite_array_iff, toJsons_eq_map, List.forall_mem_map]
      rw [toJson, Json.finite_object_iff, List.forall_mem_append, label.finite_toMembers_iff, parts,
        forall_mem_preorder]
      exact and_congr_right fun _ => forall₂_congr inductionHypothesis

end Values

section Literals

variable {label : Label}

/-- The number that a literal writes. -/
def literalValue (spelling : String) : ℚ := Binary64.numeralValue (Numeral.scan spelling.toList)

/-- A real literal is below the middle between the greatest double and the next power of two. -/
def Label.LiteralFits (label : Label) : Prop :=
  label.kind = .realConstant → ∀ spelling, label.text = some spelling →
    literalValue spelling < 2 ^ 1024 - 2 ^ 970

def Tree.LiteralsFit (tree : Tree) : Prop := ∀ node ∈ tree.preorder, node.label.LiteralFits

theorem isFinite_ofDecimal_iff (numeral : Numeral) :
    Binary64.isFinite (Binary64.ofDecimal false numeral.whole numeral.fraction numeral.power) = true ↔
      Binary64.numeralValue numeral < 2 ^ 1024 - 2 ^ 970 := by
  have rounds := Binary64.roundsTo_decimalPattern
    (Text.digitsValue (numeral.whole ++ numeral.fraction))
    (numeral.power - numeral.fraction.length)
  have infinite := rounds.infinite_iff
  rw [Binary64.middle_greatest, ← Binary64.numeralValue] at infinite
  rw [Binary64.isFinite, Binary64.ofDecimal, Binary64.pattern_ofPattern false rounds.inside,
    decide_eq_true_eq]
  exact rounds.inside.lt_iff_ne.trans (infinite.not.trans not_le)

theorem number_of_word {number : Float} {spelling : List Char} (word : Word (.real number) spelling) :
    number = Binary64.ofDecimal false (Numeral.scan spelling).whole (Numeral.scan spelling).fraction
      (Numeral.scan spelling).power := by
  obtain ⟨piece, outcome, lexes⟩ := exists_lexes word.nonempty
  obtain ⟨front, taken⟩ := lexes.piece
  have again := (word.before_apart nofun apart_nil).piece
  rw [List.append_nil, taken] at again
  obtain ⟨length, same⟩ := Prod.mk.inj again
  obtain rfl := front.eq_of_length length
  cases lexes with
  | real _ formed =>
      cases same
      rw [Numeral.scan_spelling formed]
  | string =>
      unfold literalKind at same
      split at same <;> cases same
  | _ => cases same

/-- No value but that of a real literal which overflows is infinite. -/
theorem Label.finite_value_iff (valued : label.Valued) (spelled : label.Spelled) :
    label.value.toJson.Finite ↔ label.LiteralFits := by
  cases valued with
  | integer number kind value =>
      rw [LiteralFits, kind, value]
      exact ⟨fun _ => nofun, fun _ => .integer⟩
  | string content kind value =>
      rw [LiteralFits, kind, value]
      exact ⟨fun _ => nofun, fun _ => .text⟩
  | other _ kind _ value =>
      rw [value]
      exact ⟨fun _ same => absurd same kind, fun _ => .null⟩
  | real number kind value =>
      cases spelled with
      | @real spelling _ _ word =>
          have finite : Binary64.isFinite number = true ↔
              literalValue spelling < 2 ^ 1024 - 2 ^ 970 := by
            cases value
            rw [number_of_word word]
            exact isFinite_ofDecimal_iff _
          rw [value, Value.toJson, Json.finite_real_iff, finite]
          exact ⟨fun below _ _ same => Option.some.inj same ▸ below, fun all => all rfl _ rfl⟩
      | other unspelled =>
          rw [kind] at unspelled
          cases unspelled
      | _ => cases kind

end Literals

section Files

variable {text : String} {table : SymbolTable} {program : Program}

theorem finite_toJson_program (result : (parseProgram text table).result = .ok program) :
    program.toTree.toJson.Finite ↔ program.toTree.LiteralsFit := by
  have formed := Program.wellFormed_toTree (parseProgram_bound result)
  have spelled := parseProgram_spelled result
  rw [Tree.finite_toJson_iff]
  exact forall₂_congr fun node inside =>
    Label.finite_value_iff (formed node inside).valued (spelled node inside)

/-- Where the file of a dump is not refused, it holds a text of the grammar for the structured value of
the tree and for no other, if no real literal of the program overflows, and else for none. -/
theorem dumped_file_is_json (text : String) (table : SymbolTable) (program : Program)
    (result : (parseProgram text table).result = .ok program) (surroundings : Surroundings)
    (path : String) (desk : Desk)
    (allowed : surroundings.refusal? desk.files .dump path = none) :
    ∃ content, ((dumpTree surroundings program.toTree path).on desk).2.files =
        desk.files ++ [⟨.dump, path, content⟩] ∧
      ∀ json, Json.IsText content json ↔
        json = program.toTree.toJson ∧ program.toTree.LiteralsFit := by
  refine ⟨program.toTree.toJson.dump, ?_, fun json => ?_⟩
  · rw [dumpTree, Work.on_bind, on_trySave, allowed]
    rfl
  · rw [Json.isText_dump_iff, finite_toJson_program result]

/-- A program with a quote in a string literal and with a real literal. -/
def quoteProgram : Program :=
  ⟨1, some "p", 1, [.assign 1 ⟨⟨"x", 1⟩, .cell "x" "x"⟩
      (.real ⟨"0e0", 1⟩ (Binary64.ofPattern false 0)),
    .write 1 ⟨.string ⟨"'\"'", 1⟩ "\"", .plain⟩]⟩

/-- The file of this program is read as its tree, and as nothing else. -/
theorem quoteProgram_dump :
    (parseProgram "program p; begin x := 0e0; write('\"') end." .empty).result = .ok quoteProgram ∧
      Surroundings.permissive.refusal? [] .dump "t.json" = none ∧
      ∃ content, ((dumpTree .permissive quoteProgram.toTree "t.json").on ⟨[], []⟩).2.files =
          [⟨.dump, "t.json", content⟩] ∧
        ∀ json, Json.IsText content json ↔ json = quoteProgram.toTree.toJson := by
  have result : (parseProgram "program p; begin x := 0e0; write('\"') end." .empty).result =
      .ok quoteProgram := by cbv
  have allowed : Surroundings.permissive.refusal? [] .dump "t.json" = none := rfl
  obtain ⟨content, files, texts⟩ :=
    dumped_file_is_json _ _ _ result .permissive "t.json" ⟨[], []⟩ allowed
  refine ⟨result, allowed, content, files, fun json => (texts json).trans (and_iff_left ?_)⟩
  have literals : quoteProgram.toTree.preorder.all (fun node =>
      decide (node.label.kind = .realConstant → node.label.text = some "0e0")) = true := by rfl
  intro node inside kind spelling same
  obtain rfl := Option.some.inj
    (same.symm.trans (of_decide_eq_true (List.all_eq_true.mp literals node inside) kind))
  have scanned : Numeral.scan "0e0".toList = ⟨['0'], [], ['e'], ['0']⟩ := by rfl
  have zero : Text.digitsValue (['0'] ++ []) = 0 := by rfl
  rw [literalValue, scanned, Binary64.numeralValue, zero, Nat.cast_zero, zero_mul]
  exact sub_pos.mpr (pow_lt_pow_right₀ one_lt_two (by decide))

/-- A program with a real literal beyond the greatest double. -/
def overflowProgram : Program :=
  ⟨1, some "p", 1, [.assign 1 ⟨⟨"x", 1⟩, .cell "x" "x"⟩
    (.real ⟨"1e999", 1⟩ Binary64.positiveInfinity)]⟩

/-- The file of this program is no text of the grammar. -/
theorem overflowProgram_dump :
    (parseProgram "program p; begin x := 1e999 end." .empty).result = .ok overflowProgram ∧
      ((dumpTree .permissive overflowProgram.toTree "t.json").on ⟨[], []⟩).2.files =
        [⟨.dump, "t.json", overflowProgram.toTree.toJson.dump⟩] ∧
      ∀ json, ¬Json.IsText overflowProgram.toTree.toJson.dump json := by
  have result : (parseProgram "program p; begin x := 1e999 end." .empty).result =
      .ok overflowProgram := by cbv
  refine ⟨result, rfl, fun json isText => ?_⟩
  let literal : Tree :=
    .node ⟨.realConstant, 1, some "1e999", .real Binary64.positiveInfinity, none⟩ []
  have inside : overflowProgram.toTree.preorder[4]? = some literal := rfl
  have finite := Tree.finite_toJson_iff.mp (Json.isText_dump_iff.mp isText).2 literal
    (List.mem_of_getElem? inside)
  have infinite : Binary64.isFinite Binary64.positiveInfinity = false := by decide +kernel
  rw [Json.finite_real_iff.mp finite] at infinite
  cases infinite

end Files

end MiniPascal
