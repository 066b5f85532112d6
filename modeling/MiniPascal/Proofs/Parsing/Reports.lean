/-
This file shows what a parser writes: one line for each error, in the order of the lines of the text,
each of which quotes a token on its own line.
-/

import MiniPascal.Proofs.Parsing.Among
import MiniPascal.Proofs.Trees.OutlineText

namespace MiniPascal

def Complaint.severity : Complaint → String
  | .mistake _ => "SYNTAX"
  | .undeclared => "SEMANTIC"

def Complaint.message : Complaint → String
  | .mistake found => found.message
  | .undeclared => "Undeclared identifier"

/-- The line that reports a complaint at a token. -/
def Complaint.lineAt (complaint : Complaint) (token : Token) : String :=
  complaint.severity ++ " ERROR at line " ++ toString token.line ++ ": " ++ complaint.message ++
    " at '" ++ token.text ++ "'"

/-- A complaint at a token, as it is kept. -/
def Complaint.diagnosticAt (complaint : Complaint) (token : Token) : Diagnostic :=
  ⟨complaint, token.line, token.text⟩

theorem Complaint.render_diagnosticAt (complaint : Complaint) (token : Token) :
    (complaint.diagnosticAt token).render = complaint.lineAt token ++ "\n" := by
  cases complaint <;> simp [Diagnostic.render, Complaint.diagnosticAt, lineAt, severity, message,
    String.append_assoc]

theorem Complaint.oneLine_severity (complaint : Complaint) : OneLine complaint.severity := by
  cases complaint with
  | mistake mistake => exact (by decide : OneLine "SYNTAX")
  | undeclared => exact (by decide : OneLine "SEMANTIC")

theorem Mistake.oneLine_message (mistake : Mistake) : OneLine mistake.message := by
  cases mistake <;> decide

theorem Complaint.oneLine_message (complaint : Complaint) : OneLine complaint.message := by
  cases complaint with
  | mistake mistake => exact mistake.oneLine_message
  | undeclared => exact (by decide : OneLine "Undeclared identifier")

theorem Complaint.oneLine_lineAt (complaint : Complaint) {token : Token}
    (text : OneLine token.text) : OneLine (complaint.lineAt token) :=
  ((((((complaint.oneLine_severity.append (by decide)).append (oneLine_nat _)).append
    (by decide)).append complaint.oneLine_message).append (by decide)).append text).append
    (by decide)

/-- A parser among the tokens of a text has reported at some of these, none of them behind the
current line. -/
structure ParseState.Quotes (scan : Scan) (state : ParseState) : Prop where
  among : state.stream.Among scan
  quoted : ∀ diagnostic ∈ state.diagnostics,
    ∃ token ∈ scan.allTokens, diagnostic = diagnostic.complaint.diagnosticAt token
  sorted : state.diagnostics.Pairwise (·.line ≤ ·.line)
  passed : ∀ diagnostic ∈ state.diagnostics, diagnostic.line ≤ state.stream.current.line

namespace ParseState.Quotes

variable {scan : Scan} {before after : ParseState}

theorem step (inOrder : scan.allTokens.Pairwise (·.line ≤ ·.line)) (step : Step before after)
    (quotes : before.Quotes scan) : after.Quotes scan := by
  obtain ⟨among, quoted, sorted, passed⟩ := quotes
  cases step with
  | pass next =>
      refine ⟨among.next next, quoted, sorted, fun diagnostic inside => ?_⟩
      exact (passed diagnostic inside).trans (among.line_le inOrder next)
  | report complaint =>
      refine ⟨among, ?_, ?_, ?_⟩
      · refine List.forall_mem_append.mpr ⟨quoted, List.forall_mem_singleton.mpr ?_⟩
        exact ⟨_, among.mem, rfl⟩
      · refine List.pairwise_append.mpr ⟨sorted, List.pairwise_singleton _ _, ?_⟩
        rintro diagnostic inside _ last
        rw [List.mem_singleton.mp last]
        exact passed diagnostic inside
      · exact List.forall_mem_append.mpr ⟨passed, List.forall_mem_singleton.mpr (Nat.le_refl _)⟩
  | enter => exact ⟨among, quoted, sorted, passed⟩

theorem steps (inOrder : scan.allTokens.Pairwise (·.line ≤ ·.line)) (steps : Steps before after)
    (quotes : before.Quotes scan) : after.Quotes scan :=
  steps.keep (fun state => state.Quotes scan) (fun _ _ => step inOrder) quotes

end ParseState.Quotes

/-- The diagnostics of a text are in the order of their lines, and each quotes a token of it. -/
theorem parseProgram_quotes (text : String) (table : SymbolTable) :
    (parseProgram text table).state.diagnostics.Pairwise (·.line ≤ ·.line) ∧
      ∀ diagnostic ∈ (parseProgram text table).state.diagnostics,
        ∃ token ∈ tokensOf text, diagnostic = diagnostic.complaint.diagnosticAt token := by
  obtain ⟨fault, same⟩ | ⟨stream, among, same⟩ := parseProgram_cases text table
  · rw [same]
    exact ⟨.nil, List.forall_mem_nil _⟩
  · rw [same]
    have start : ParseState.Quotes (Scanner.ofText text).scan ⟨stream, [], table⟩ :=
      ⟨among, List.forall_mem_nil _, .nil, List.forall_mem_nil _⟩
    have quotes := start.steps (tokensOf_sorted text) (Parse.programHere_proceeds.steps _)
    exact ⟨quotes.sorted, quotes.quoted⟩

/-- What is chosen for each member of a list, in one list. -/
theorem exists_diagnostics_eq_map {diagnostics : List Diagnostic} {tokens : List Token}
    (quoted : ∀ diagnostic ∈ diagnostics,
      ∃ token ∈ tokens, diagnostic = diagnostic.complaint.diagnosticAt token) :
    ∃ quotes : List (Complaint × Token),
      diagnostics = quotes.map (fun quote => quote.1.diagnosticAt quote.2) ∧
        ∀ quote ∈ quotes, quote.2 ∈ tokens := by
  induction diagnostics with
  | nil => exact ⟨[], rfl, List.forall_mem_nil _⟩
  | cons diagnostic diagnostics inductionHypothesis =>
      obtain ⟨first, others⟩ := List.forall_mem_cons.mp quoted
      obtain ⟨token, inside, same⟩ := first
      obtain ⟨quotes, rfl, all⟩ := inductionHypothesis others
      exact ⟨(diagnostic.complaint, token) :: quotes, by rw [List.map_cons, ← same],
        List.forall_mem_cons.mpr ⟨inside, all⟩⟩

/-- Whatever a text is, its parser writes one line for each error. Each line ends with a line end and
has no other one; it says on which line of the text it found something wrong, and quotes a token that
stands there. The lines of the text that are named do not decrease. Nothing is written exactly when
there is no error. -/
theorem report_quotes_tokens (text : String) (table : SymbolTable) :
    ∃ quotes : List (Complaint × Token),
      (parseProgram text table).report =
          String.join (quotes.map fun quote => quote.1.lineAt quote.2 ++ "\n") ∧
        quotes.length = (parseProgram text table).errors ∧
        quotes.Pairwise (fun first second => first.2.line ≤ second.2.line) ∧
        (∀ quote ∈ quotes, OneLine (quote.1.lineAt quote.2) ∧ quote.2 ∈ tokensOf text ∧
          (∃ front back, text.toList = front ++ (quote.2.text.toList ++ back) ∧
            quote.2.line = 1 + front.count '\n') ∧
          1 ≤ quote.2.line ∧ quote.2.line ≤ 1 + text.toList.count '\n') ∧
        ((parseProgram text table).report = "" ↔ (parseProgram text table).errors = 0) := by
  obtain ⟨sorted, quoted⟩ := parseProgram_quotes text table
  obtain ⟨quotes, same, inside⟩ := exists_diagnostics_eq_map quoted
  have written : (parseProgram text table).report =
      String.join (quotes.map fun quote => quote.1.lineAt quote.2 ++ "\n") := by
    rw [Parsed.report, same, List.map_map]
    exact congrArg String.join (List.map_congr_left fun quote _ => Complaint.render_diagnosticAt _ _)
  have counted : quotes.length = (parseProgram text table).errors := by
    rw [Parsed.errors, same, List.length_map]
  refine ⟨quotes, written, counted, ?_, fun quote listed => ?_, ?_⟩
  · rw [same, List.pairwise_map] at sorted
    exact sorted
  · have found := inside quote listed
    exact ⟨quote.1.oneLine_lineAt (lineEnd_not_mem_of_mem_tokensOf found), found,
      placed_of_mem_tokensOf found, line_bounds_of_mem_tokensOf found⟩
  · rw [written, ← counted, List.length_eq_zero_iff]
    cases quotes with
    | nil => exact iff_of_true rfl rfl
    | cons quote quotes =>
        refine iff_of_false (fun empty => ?_) (List.cons_ne_nil _ _)
        rw [List.map_cons, String.join_cons] at empty
        have ended := congrArg String.toList empty
        simp at ended

end MiniPascal
