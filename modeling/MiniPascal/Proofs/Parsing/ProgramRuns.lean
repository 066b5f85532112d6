/-
This file shows that a text is parsed without a report exactly when a program is read off its
tokens.
-/

import MiniPascal.Proofs.Parsing.Binding
import MiniPascal.Proofs.Parsing.StatementFollowing

namespace MiniPascal

/-- The frame of a text has no diagnostics yet. -/
def Frame.ofText (text : String) : Frame := ⟨(Scanner.ofText text).scan.ending, []⟩

open ParseState

section Sound

variable {frame : Frame} {table : SymbolTable} {tokens : List Token} {after : ParseState}

theorem NameTrace.reading {name : Option String}
    (trace : NameTrace (frame.before table tokens) name after)
    (quiet : after.errors = (frame.before table tokens).errors) :
    ∃ word rest, tokens = word :: rest ∧ word.kind = .identifier ∧ name = some word.text ∧
      after = frame.before (table.enter word.text) rest := by
  cases trace with
  | named kind next =>
      obtain ⟨word, rest, rfl, kind, rfl⟩ := Frame.passes_kind kind next rfl
      exact ⟨word, rest, rfl, kind, rfl, rfl⟩
  | missing recovers => exact absurd quiet (Nat.ne_of_gt recovers.reported)

/-- Before the word that opens it a body is read up to behind the word that closes it. -/
theorem BodyTrace.reading {opening : Token} {line : Nat} {body : List Statement}
    (trace : BodyTrace (frame.before table (opening :: tokens)) line body after)
    (opens : opening.kind = .keyword .beginWord)
    (quiet : after.errors = (frame.before table (opening :: tokens)).errors) :
    line = opening.line ∧ ∃ last closing rest,
      StatementReading (.list .endWord) table tokens body last (closing :: rest) ∧
        closing.kind = .keyword .endWord ∧ after = frame.before last rest := by
  obtain ⟨entered, behind, opened, statements, closing⟩ := trace.parts
  refine ⟨trace.line, ?_⟩
  cases opened with
  | absent missed => exact absurd opens missed
  | present _ next =>
      obtain ⟨rfl, _⟩ := Frame.passes_cons next
      obtain ⟨quietBody, quietEnd⟩ := statements.steps.quiet_parts closing.steps quiet
      obtain ⟨last, rest, reading, rfl⟩ :=
        statements.reading quietBody (rfl : _ = frame.before table tokens)
      obtain ⟨ending, rest, rfl, closes, rfl⟩ := closing.stands rfl quietEnd
      exact ⟨last, ending, rest, reading.list, Kind.isKeyword_iff.mp closes, rfl⟩

theorem ProgramTrace.reading {program : Program}
    (trace : ProgramTrace (frame.before table tokens) program after)
    (quiet : after.errors = (frame.before table tokens).errors) :
    ∃ last rest, ProgramReading table tokens program last rest ∧ after = frame.before last rest := by
  cases trace with
  | program opening name semicolon beginning body period =>
      have toHeaded := name.steps.trans semicolon.steps
      have toClosed := beginning.steps.trans body.steps
      obtain ⟨quietOpening, quietRest⟩ := opening.steps.quiet_parts
        (toHeaded.trans (toClosed.trans period.steps)) quiet
      obtain ⟨quietHead, quietRest⟩ :=
        Steps.quiet_parts toHeaded (toClosed.trans period.steps) quietRest
      obtain ⟨quietName, quietSemicolon⟩ := name.steps.quiet_parts semicolon.steps quietHead
      obtain ⟨quietBody, quietPeriod⟩ := Steps.quiet_parts toClosed period.steps quietRest
      obtain ⟨quietBegin, quietBody⟩ := beginning.steps.quiet_parts body.steps quietBody
      obtain ⟨first, rest, rfl, opens, rfl⟩ := opening.stands rfl quietOpening
      obtain ⟨word, rest, rfl, nameKind, rfl, rfl⟩ := name.reading quietName
      obtain ⟨separator, rest, rfl, separates, rfl⟩ := semicolon.stands rfl quietSemicolon
      obtain ⟨bodyOpening, rest, rfl, begins, rfl⟩ := beginning.stands rfl quietBegin
      replace begins := Kind.isKeyword_iff.mp begins
      obtain ⟨rfl, last, closing, rest, reading, closes, rfl⟩ := body.reading begins quietBody
      obtain ⟨point, rest, rfl, ends, rfl⟩ := period.stands rfl quietPeriod
      exact ⟨last, point :: rest, .program (Kind.isKeyword_iff.mp opens) nameKind
        (Kind.isSymbol_iff.mp separates) begins reading closes (Kind.isSymbol_iff.mp ends), rfl⟩

end Sound

namespace Parse

theorem programBody_follows (frame : Frame) (line : Nat) (name : Option String)
    {table after : SymbolTable} {opening closing period : Token} {body : List Statement}
    {tokens rest : List Token} (opens : opening.kind = .keyword .beginWord)
    (reading : StatementReading (.list .endWord) table tokens body after
      (closing :: period :: rest))
    (closes : closing.kind = .keyword .endWord) (ends : period.kind = .symbol .period) :
    (programBody line name).on (frame.before table (opening :: tokens)) =
      ⟨.ok ⟨line, name, opening.line, body⟩, frame.before after (period :: rest)⟩ := by
  have statementFollows := statementWithin_follows frame (tokens.length + 1)
  have counted : size.on (frame.before table (opening :: tokens)) =
      ⟨.ok (tokens.length + 1), frame.before table (opening :: tokens)⟩ := rfl
  rw [programBody, on_bind_ok counted,
    on_bind_ok (compoundOf_follows statementFollows opens reading closes (Nat.le_succ _)
      Frame.allows_cons)]
  dsimp only
  rw [on_bind_ok (on_current _), Frame.before_current_cons, if_pos (Kind.isSymbol_iff.mpr ends)]
  rfl

/-- The first step of a parser places it before the tokens of its text. -/
theorem starts_before {frame : Frame} (table : SymbolTable) {tokens : List Token} {stream : Stream}
    (next : (⟨.endOfText 1, tokens, frame.ending⟩ : Stream).next = .ok stream) :
    (⟨stream, frame.diagnostics, table⟩ : ParseState) = frame.before table tokens := by
  cases tokens with
  | cons token rest =>
      cases next
      rfl
  | nil =>
      simp only [Stream.next] at next
      cases ending : frame.ending with
      | endOfText line =>
          rw [ending] at next
          cases next
          simp [Frame.before, Stream.before, ending, Ending.line]
      | fault fault =>
          rw [ending] at next
          cases next

theorem program_reads (state : ParseState) :
    program.Leads state fun found after =>
      after.errors = state.errors → ∀ (frame : Frame) table tokens,
        state = ⟨⟨.endOfText 1, tokens, frame.ending⟩, frame.diagnostics, table⟩ →
          ∃ table' rest, ProgramReading table tokens found table' rest ∧
            after = frame.before table' rest := by
  refine (program_traces state).weaken ?_
  rintro found after - ⟨stream, next, trace⟩ quiet frame table tokens rfl
  rw [starts_before table next] at trace
  exact trace.reading quiet

/-- A program is followed from the first word of its text to its period. -/
theorem program_follows (frame : Frame) {table after : SymbolTable} {tokens rest : List Token}
    {found : Program} (reading : ProgramReading table tokens found after rest) :
    program.on ⟨⟨.endOfText 1, tokens, frame.ending⟩, frame.diagnostics, table⟩ =
      ⟨.ok found, frame.before after rest⟩ := by
  cases reading with
  | @program _ opening name semicolon bodyOpening closing period _ tokens _ opens nameKind
      semicolonKind bodyOpens bodyReading closes periodKind =>
      have start : advance.on ⟨⟨.endOfText 1, opening :: name :: semicolon :: bodyOpening :: tokens,
          frame.ending⟩, frame.diagnostics, table⟩ =
          ⟨.ok (), frame.before table (opening :: name :: semicolon :: bodyOpening :: tokens)⟩ := by
        rw [on_advance]
        rfl
      have named : programName.on
          (frame.before table (name :: semicolon :: bodyOpening :: tokens)) =
          ⟨.ok (some name.text), frame.before (table.enter name.text)
            (semicolon :: bodyOpening :: tokens)⟩ := by
        rw [programName, on_bind_ok (on_current _), Frame.before_current_cons,
          if_pos (Kind.isIdentifier_iff.mpr nameKind), on_bind_ok declare_run,
          on_bind_ok (advance_run Frame.allows_cons)]
        rfl
      have bodyFollows := programBody_follows frame opening.line (some name.text) bodyOpens bodyReading
        closes periodKind
      rw [program, on_bind_ok start, on_bind_ok (on_current _),
        on_bind_ok (expect_run Frame.allows_cons (Kind.isKeyword_iff.mpr opens)),
        on_bind_ok named,
        on_bind_ok (expect_run Frame.allows_cons (Kind.isSymbol_iff.mpr semicolonKind)),
        on_bind_ok (on_current _)]
      dsimp only
      rw [Frame.before_current_cons, if_pos (Kind.isKeyword_iff.mpr bodyOpens)]
      exact bodyFollows

end Parse

/-- A program that is read off the tokens of a text is parsed, and nothing is reported. -/
theorem parseProgram_of_reading {text : String} {table after : SymbolTable} {found : Program}
    {rest : List Token}
    (reading : ProgramReading table (Scanner.ofText text).scan.tokens found after rest) :
    parseProgram text table = ⟨.ok found, (Frame.ofText text).before after rest⟩ :=
  Parse.program_follows (.ofText text) reading

/-- A text is parsed without a report exactly when a program is read off its tokens. -/
theorem parseProgram_iff_reading {text : String} {table : SymbolTable} {found : Program} :
    (parseProgram text table).result = .ok found ∧ (parseProgram text table).errors = 0 ↔
      ∃ after rest, ProgramReading table (Scanner.ofText text).scan.tokens found after rest := by
  constructor
  · rintro ⟨result, quiet⟩
    obtain ⟨after, rest, reading, _⟩ :=
      (Parse.program_reads ⟨.ofText text, [], table⟩).reached found result quiet (.ofText text)
        table _ rfl
    exact ⟨after, rest, reading⟩
  · rintro ⟨after, rest, reading⟩
    rw [parseProgram_of_reading reading]
    exact ⟨rfl, rfl⟩

end MiniPascal
