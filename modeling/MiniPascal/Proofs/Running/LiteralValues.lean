/-
This file shows that an integer literal and the real literals of the same number yield one double,
which is the nearest one.
-/

import MiniPascal.Execution
import MiniPascal.Proofs.Numbers.Nearest
import MiniPascal.Proofs.Parsing.SpelledPrograms
import MiniPascal.Proofs.Parsing.SurfaceParsing
import MiniPascal.Proofs.Scanning.LongestMatch

namespace MiniPascal

open Lexeme

section Words

/-- The spelling of a number is a word of its kind. -/
theorem word_of_numeral {numeral : Numeral} {kind : Kind} (formed : numeral.Formed)
    (some : numeral.whole ≠ []) (read : numeral.kind = .ok kind) : Word kind numeral.spelling := by
  obtain ⟨first, behind, spelling, digit⟩ := formed.head some
  have continues : continuesName first = true := by
    rw [continuesName, isAlphanumeric_of_isDigit digit, Bool.true_or]
  obtain ⟨starts, unmarked, _⟩ := starts_of_continuesName continues behind
  have same := Numeral.scan_spelling formed
  rw [spelling] at same
  have word := word_of_number starts unmarked digit (same.symm ▸ read)
  rwa [same] at word

/-- A word is of one kind only. -/
theorem Lexeme.Word.unique {kind other : Kind} {word : List Char} (formed : Word kind word)
    (again : Word other word) (closed : kind ≠ .error) (otherClosed : other ≠ .error) :
    kind = other := by
  have first := (formed.before_apart closed apart_nil).piece
  rw [(again.before_apart otherClosed apart_nil).piece] at first
  exact (Except.ok.inj (Prod.mk.inj first).2).symm

end Words

/-- A literal of the given kind is an expression that yields the number, and so does every constant
with its spelling in a program. -/
structure LiteralYields (kind : NodeKind) (spelling : String) (number : Float) : Prop where
  read : ∀ table, ∃ source : Expression, source.toTree.label.kind = kind ∧
    source.toTree.label.text = some spelling ∧
    (Parse.expression.started.onText spelling table).Complete table source
  yields : ∀ text table program, (parseProgram text table).result = .ok program →
    ∀ node ∈ program.toTree.preorder, node.label.kind = kind → node.label.text = some spelling →
      ∀ bound machine, (node.visit bound).on machine = ⟨.ok (.real number), machine⟩

section Literals

/-- The core of a label that is no negation has its kind and its text. -/
theorem Label.kind_text_of_core {label other : Label} (same : label.core = other.core)
    (plain : other.kind ≠ .unary .negation) :
    label.kind = other.kind ∧ label.text = other.text := by
  have kind : label.core.kind = other.core.kind := congrArg Label.kind same
  have text : label.core.text = other.core.text := congrArg Label.text same
  change label.kind = other.kind at kind
  simp only [Label.core, kind, plain, if_false] at text
  exact ⟨kind, text⟩

/-- The text of a printed leaf is an expression of its kind. -/
theorem Expression.Printed.reads_literal {table : SymbolTable} {source : Expression}
    {contents : List (Kind × String)} (printed : source.Printed table contents)
    (stands : source.toTree.standsAt .whole = true)
    (plain : source.toTree.label.kind ≠ .unary .negation) :
    ∃ copy : Expression, copy.toTree.label.kind = source.toTree.label.kind ∧
      copy.toTree.label.text = source.toTree.label.text ∧
      (Parse.expression.started.onText source.toTree.surface table).Complete table copy := by
  obtain ⟨copy, same, complete⟩ := printed.parses stands
  have core (tree : Tree) : tree.core.label = tree.label.core := by
    cases tree
    rw [Tree.core_node]
    rfl
  have labels := congrArg Tree.label same
  rw [core, core] at labels
  obtain ⟨kind, text⟩ := Label.kind_text_of_core labels plain
  exact ⟨copy, kind, text, complete⟩

variable {spelling : String}

/-- The whole number of an integer literal is rounded when it is run. -/
theorem literalYields_integer {number : Nat} (word : Word (.integer number) spelling.toList) :
    LiteralYields .integerConstant spelling (Binary64.ofInteger number) where
  read table := by
    have printed : Expression.Printed table (.integer ⟨spelling, 1⟩ number)
      [(.integer number, spelling)] := .integer word
    exact printed.reads_literal rfl nofun
  yields text table program result node inside kind same bound machine := by
    have spelled := parseProgram_spelled result node inside
    obtain ⟨label, children⟩ := node
    cases spelled with
    | integer found =>
        cases same
        cases found.unique word nofun nofun
        rfl
    | other none =>
        rw [kind] at none
        cases none
    | _ => cases kind

/-- A real literal is rounded when it is scanned. -/
theorem literalYields_real {number : Float} (word : Word (.real number) spelling.toList) :
    LiteralYields .realConstant spelling number where
  read table := by
    have printed : Expression.Printed table (.real ⟨spelling, 1⟩ number)
      [(.real number, spelling)] := .real word
    exact printed.reads_literal rfl nofun
  yields text table program result node inside kind same bound machine := by
    have spelled := parseProgram_spelled result node inside
    obtain ⟨label, children⟩ := node
    cases spelled with
    | real found =>
        cases same
        cases found.unique word nofun nofun
        rfl
    | other none =>
        rw [kind] at none
        cases none
    | _ => cases kind

end Literals

namespace Binary64

/-- A whole number is rounded to the nearest double. -/
theorem roundsTo_ofInteger (number : Nat) : RoundsTo number (nearestPattern number 1) := by
  have rounds := roundsTo_nearestPattern number Nat.one_pos
  rwa [Nat.cast_one, div_one] at rounds

theorem nearest_ofInteger (number : Nat) : Nearest number (ofInteger number) := by
  rw [ofInteger_eq_ofPattern]
  exact (roundsTo_ofInteger number).nearest (Nat.cast_nonneg _)

/-- A numeral that writes a whole number is rounded like this number. -/
theorem ofDecimal_eq_ofInteger {whole fraction : List Char} {exponent : ℤ} {number : Nat}
    (same : (Text.digitsValue (whole ++ fraction) * 10 ^ (exponent - fraction.length) : ℚ) = number) :
    ofDecimal false whole fraction exponent = ofInteger number := by
  have rounds := roundsTo_decimalPattern (Text.digitsValue (whole ++ fraction))
    (exponent - fraction.length)
  rw [same] at rounds
  rw [ofDecimal, rounds.unique (roundsTo_ofInteger number), ofInteger_eq_ofPattern]

end Binary64

/-- A literal of digits, and the same digits with a fraction or an exponent of zero, yield the double
that is nearest to the number that the digits write. -/
theorem integer_and_real_literals_agree (digits : String) (some : digits ≠ "")
    (all : ∀ digit ∈ digits.toList, Text.isDigit digit = true) (short : digits.length ≤ 4300) :
    ∃ number : Float, Binary64.Nearest (decimalValue digits.toList) number ∧
      LiteralYields .integerConstant digits number ∧
      LiteralYields .realConstant (digits ++ ".0") number ∧
      LiteralYields .realConstant (digits ++ "e0") number := by
  have nonempty : digits.toList ≠ [] := mt String.toList_eq_nil_iff.mp some
  have fits : ¬integerDigitLimit < digits.toList.length := by
    rw [integerDigitLimit, String.length_toList]
    omega
  have zero : ∀ digit ∈ ['0'], Text.isDigit digit = true := List.forall_mem_singleton.mpr rfl
  have none : ∀ digit ∈ [], Text.isDigit digit = true := List.forall_mem_nil _
  refine ⟨_, Binary64.nearest_ofInteger _, literalYields_integer ?_, ?_, ?_⟩
  · have formed : Numeral.Formed ⟨digits.toList, [], [], []⟩ := ⟨all, none, none, .inl ⟨rfl, rfl⟩⟩
    have kind := Numeral.kind_of_digits nonempty
    rw [if_neg fits] at kind
    have word := word_of_numeral formed nonempty kind
    rwa [Numeral.spelling_eq, fractionText, List.isEmpty_nil, if_pos rfl, List.append_nil,
      List.append_nil, List.append_nil] at word
  · have formed : Numeral.Formed ⟨digits.toList, ['0'], [], []⟩ := ⟨all, zero, none, .inl ⟨rfl, rfl⟩⟩
    have word := word_of_numeral formed nonempty
      (Numeral.kind_of_options nonempty (.inl (List.cons_ne_nil _ _)))
    have spelling : (⟨digits.toList, ['0'], [], []⟩ : Numeral).spelling = (digits ++ ".0").toList := by
      rw [Numeral.spelling_eq, String.toList_append]
      rfl
    rw [spelling, Binary64.ofDecimal_eq_ofInteger] at word
    · exact literalYields_real word
    · change (Text.digitsValue (digits.toList ++ ['0']) * 10 ^ (-1 : ℤ) : ℚ) = _
      rw [Text.digitsValue_append, digitsValue_eq, Nat.sub_self, Nat.add_zero, Nat.cast_mul,
        Nat.cast_ofNat, mul_comm (10 : ℚ), mul_assoc, zpow_neg_one, mul_inv_cancel₀ (by norm_num),
        mul_one]
  · have formed : Numeral.Formed ⟨digits.toList, [], ['e'], ['0']⟩ :=
      ⟨all, none, zero, .inr ⟨List.cons_ne_nil _ _, .plain (.inl rfl)⟩⟩
    have word := word_of_numeral formed nonempty
      (Numeral.kind_of_options nonempty (.inr (List.cons_ne_nil _ _)))
    have spelling : (⟨digits.toList, [], ['e'], ['0']⟩ : Numeral).spelling =
        (digits ++ "e0").toList := by
      rw [Numeral.spelling_eq, String.toList_append]
      rfl
    rw [spelling, Binary64.ofDecimal_eq_ofInteger] at word
    · exact literalYields_real word
    · change (Text.digitsValue (digits.toList ++ []) * 10 ^ (0 : ℤ) : ℚ) = _
      rw [List.append_nil, digitsValue_eq, zpow_zero, mul_one]

/-- The first whole number that is no double stands in the middle of two. -/
theorem integer_and_real_literals_agree_middle :
    "9007199254740993" ≠ "" ∧
      (∀ digit ∈ "9007199254740993".toList, Text.isDigit digit = true) ∧
      "9007199254740993".length ≤ 4300 ∧
      ∃ number : Float, Binary64.Nearest (2 ^ 53 + 1) number ∧
        LiteralYields .integerConstant "9007199254740993" number ∧
        LiteralYields .realConstant ("9007199254740993" ++ ".0") number ∧
        LiteralYields .realConstant ("9007199254740993" ++ "e0") number := by
  have some : "9007199254740993" ≠ "" := by decide
  have all : ∀ digit ∈ "9007199254740993".toList, Text.isDigit digit = true :=
    List.all_eq_true.mp rfl
  have short : "9007199254740993".length ≤ 4300 := by decide
  have value : decimalValue "9007199254740993".toList = 2 ^ 53 + 1 := by decide +kernel
  obtain ⟨number, nearest, yields⟩ := integer_and_real_literals_agree _ some all short
  rw [value] at nearest
  exact ⟨some, all, short, number, by exact_mod_cast nearest, yields⟩

end MiniPascal
