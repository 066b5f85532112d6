/-
This file shows that the parser accepts exactly the texts that start with a program of the grammar,
and that nothing behind such a program matters.
-/

import MiniPascal.Proofs.Parsing.GrammarSoundness
import MiniPascal.Proofs.Parsing.Locality
import MiniPascal.Proofs.Parsing.ProgramRuns
import MiniPascal.Proofs.Parsing.StatementCompleteness
import MiniPascal.Proofs.Scanning.Runs

namespace MiniPascal

/-- A program ends with a reserved word and a point. -/
theorem ProgramReading.ends {table after : SymbolTable} {tokens : List Token} {period : Token}
    {found : Program} (reading : ProgramReading table tokens found after [period]) :
    ∃ front closing, tokens = front ++ [closing, period] ∧ closing.kind = .keyword .endWord ∧
      period.kind = .symbol .period := by
  cases reading with
  | @program _ opening name semicolon bodyOpening closing _ _ _ _ _ _ _ _ body closes ends =>
      obtain ⟨front, rfl⟩ := body.leaves.1
      exact ⟨opening :: name :: semicolon :: bodyOpening :: front, closing, rfl, closes, ends⟩

/-- A program can be read off every list of tokens that starts with the tokens of one. -/
theorem ProgramReading.extend {table after : SymbolTable} {tokens all : List Token}
    {period : Token} {found : Program}
    (reading : ProgramReading table tokens found after [period]) (starts : tokens <+: all) :
    ∃ rest, ProgramReading table all found after rest := by
  obtain ⟨front, first, tail, same, rfl, anywhere⟩ := reading.endsFreely
  obtain ⟨rfl, rfl⟩ := List.cons.inj same
  obtain ⟨more, rfl⟩ := starts
  have whole := anywhere more
  rw [List.append_nil]
  exact ⟨_, whole⟩

/-- A program that is read off tokens is read off those up to its period. -/
theorem ProgramReading.restrict {table after : SymbolTable} {tokens rest : List Token}
    {found : Program} (reading : ProgramReading table tokens found after rest) :
    ∃ accepted period more, tokens = accepted ++ more ∧
      ProgramReading table accepted found after [period] := by
  obtain ⟨front, period, tail, _, rfl, anywhere⟩ := reading.endsFreely
  have alone := anywhere []
  rw [List.append_nil] at alone
  exact ⟨front, period, tail, rfl, alone⟩

/-- Tokens that the grammar derives as a program and that read only what they have declared. -/
structure WellFormed (tokens : List Token) : Prop where
  derives : Derives .program tokens []
  declared : ReadsDeclared tokens

/-- A text is accepted over an empty table when it is parsed and nothing is reported. -/
structure Accepts (text : String) (program : Program) (table : SymbolTable) : Prop where
  result : (parseProgram text .empty).result = .ok program
  quiet : (parseProgram text .empty).errors = 0
  table : (parseProgram text .empty).state.table = table

/-- A text is parsed over a table to a program without a report, and leaves another table. -/
structure Parses (text : String) (table : SymbolTable) (program : Program) (after : SymbolTable) :
    Prop where
  result : (parseProgram text table).result = .ok program
  quiet : (parseProgram text table).errors = 0
  table : (parseProgram text table).state.table = after

theorem parses_iff_reading {text : String} {table after : SymbolTable} {program : Program} :
    Parses text table program after ↔ ∃ rest,
      ProgramReading table (Scanner.ofText text).scan.tokens program after rest := by
  constructor
  · rintro ⟨result, quiet, rfl⟩
    obtain ⟨after, rest, reading⟩ := parseProgram_iff_reading.mp ⟨result, quiet⟩
    rw [parseProgram_of_reading reading]
    exact ⟨rest, reading⟩
  · rintro ⟨rest, reading⟩
    have parsed := parseProgram_of_reading reading
    exact ⟨by rw [parsed], by rw [parsed]; rfl, by rw [parsed]; rfl⟩

theorem accepts_iff_parses {text : String} {program : Program} {table : SymbolTable} :
    Accepts text program table ↔ Parses text .empty program table :=
  ⟨fun ⟨result, quiet, same⟩ => ⟨result, quiet, same⟩,
    fun ⟨result, quiet, same⟩ => ⟨result, quiet, same⟩⟩

theorem accepts_iff_reading {text : String} {program : Program} {table : SymbolTable} :
    Accepts text program table ↔ ∃ rest,
      ProgramReading .empty (Scanner.ofText text).scan.tokens program table rest :=
  accepts_iff_parses.trans parses_iff_reading

/-- The tokens of an accepted text start with a well-formed program. -/
theorem Accepts.wellFormed {text : String} {program : Program} {table : SymbolTable}
    (accepts : Accepts text program table) :
    ∃ accepted, accepted <+: (Scanner.ofText text).scan.tokens ∧ WellFormed accepted := by
  obtain ⟨rest, reading⟩ := accepts_iff_reading.mp accepts
  obtain ⟨accepted, period, more, same, alone⟩ := reading.restrict
  obtain ⟨derives, declared⟩ := alone.sound
  exact ⟨accepted, ⟨more, same.symm⟩, derives, declared⟩

/-- Every text whose tokens start with a well-formed program is accepted. -/
theorem WellFormed.accepts {text : String} {accepted : List Token}
    (wellFormed : WellFormed accepted)
    (starts : accepted <+: (Scanner.ofText text).scan.tokens) :
    ∃ program table, Accepts text program table := by
  obtain ⟨found, after, period, alone⟩ :=
    ProgramReading.complete wellFormed.derives wellFormed.declared
  exact ⟨found, after, accepts_iff_reading.mpr (alone.extend starts)⟩

/-- The well-formed program of an accepted text ends at a point, and what comes behind the point
changes neither the program nor the table. -/
theorem Accepts.up_to_period {text : String} {program : Program} {table : SymbolTable}
    (accepts : Accepts text program table) :
    ∃ head tail, text = head ++ "." ++ tail ∧
      WellFormed (Scanner.ofText (head ++ ".")).scan.tokens ∧
      ∀ other, Accepts (head ++ "." ++ other) program table := by
  obtain ⟨rest, reading⟩ := accepts_iff_reading.mp accepts
  obtain ⟨accepted, period, more, same, alone⟩ := reading.restrict
  obtain ⟨derives, declared⟩ := alone.sound
  obtain ⟨front, closing, rfl, closes, ends⟩ := alone.ends
  obtain ⟨head, tail, rfl, whole, anywhere⟩ := tokens_up_to_period same closes ends
  rw [← whole] at derives declared
  refine ⟨head, tail, rfl, ⟨derives, declared⟩, fun other => ?_⟩
  exact accepts_iff_reading.mpr (alone.extend (anywhere other))

/-- The parser accepts exactly the texts whose tokens start with a well-formed program, and what it
finds depends on the text up to the point that ends this program alone. -/
theorem accepts_iff_wellFormed_prefix (text : String) :
    ((∃ program table, Accepts text program table) ↔
      ∃ accepted, accepted <+: (Scanner.ofText text).scan.tokens ∧ WellFormed accepted) ∧
    ∀ program table, Accepts text program table ↔
      ∃ head tail, text = head ++ "." ++ tail ∧
        WellFormed (Scanner.ofText (head ++ ".")).scan.tokens ∧
        ∀ other, Accepts (head ++ "." ++ other) program table := by
  refine ⟨⟨?_, ?_⟩, fun program table => ⟨?_, ?_⟩⟩
  · rintro ⟨program, table, accepts⟩
    exact accepts.wellFormed
  · rintro ⟨accepted, starts, wellFormed⟩
    exact wellFormed.accepts starts
  · exact Accepts.up_to_period
  · rintro ⟨head, tail, rfl, _, anywhere⟩
    exact anywhere tail

end MiniPascal
