/-
This file carries the reading of a program over to alike tokens.
-/

import MiniPascal.Proofs.Parsing.LikeReadings
import MiniPascal.Proofs.Parsing.ProgramRuns

namespace MiniPascal

/-- A reading stops before its period. -/
theorem ProgramReading.rest_eq_cons {table after : SymbolTable} {tokens rest : List Token}
    {found : Program} (reading : ProgramReading table tokens found after rest) :
    ∃ period others, rest = period :: others := by
  cases reading
  exact ⟨_, _, rfl⟩

/-- A program that is read off tokens is read, as an alike program, off alike tokens over an alike
table, and leaves alike tokens. -/
theorem ProgramReading.alike {alike : Likeness} {table after tableCopy : SymbolTable}
    {tokens rest copies : List Token} {found : Program}
    (reading : ProgramReading table tokens found after rest)
    (same : List.Forall₂ alike.Tokens tokens copies) (tables : alike.table table tableCopy) :
    ∃ copy afterCopy restCopy, ProgramReading tableCopy copies copy afterCopy restCopy ∧
      alike.Programs found copy ∧ alike.table after afterCopy ∧
      List.Forall₂ alike.Tokens rest restCopy := by
  let frame : Frame := ⟨.endOfText 1, []⟩
  let state (table : SymbolTable) (tokens : List Token) : ParseState :=
    ⟨⟨.endOfText 1, tokens, frame.ending⟩, frame.diagnostics, table⟩
  have streams : alike.Streams (state table tokens).stream (state tableCopy copies).stream :=
    ⟨⟨rfl, alike.endOfText, alike.firstLine⟩, same, .endOfText alike.firstLine⟩
  obtain ⟨results, states⟩ :=
    Likeness.Reads.program _ (state table tokens) (state tableCopy copies)
      ⟨streams, .nil, tables⟩ rfl
  have follows : Parse.program.on (state table tokens) = ⟨.ok found, frame.before after rest⟩ :=
    Parse.program_follows frame reading
  rw [follows] at results states
  generalize ended : Parse.program.on (state tableCopy copies) = outcome at results states
  obtain ⟨result, last⟩ := outcome
  cases results with
  | @ok _ copy programs =>
      have quiet : last.errors = (state tableCopy copies).errors := states.diagnostics.length_eq.symm
      have reached := (Parse.program_reads (state tableCopy copies)).reached copy
      rw [ended] at reached
      obtain ⟨afterCopy, restCopy, readingCopy, rfl⟩ := reached rfl quiet frame tableCopy copies rfl
      refine ⟨copy, afterCopy, restCopy, readingCopy, programs, states.table, ?_⟩
      obtain ⟨period, others, rfl⟩ := reading.rest_eq_cons
      obtain ⟨periodCopy, othersCopy, rfl⟩ := readingCopy.rest_eq_cons
      exact .cons states.stream.current states.stream.rest

end MiniPascal
