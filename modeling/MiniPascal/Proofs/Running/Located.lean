/-
This file shows where a runtime error points: to the operator, the keyword or the target whose check is
the first to fail. The line is that of this token, unless it is a keyword before its condition.
-/

import MiniPascal.Proofs.Parsing.Marked
import MiniPascal.Proofs.Running.Checks
import MiniPascal.Proofs.Running.FaultyRuns
import MiniPascal.Proofs.Running.TypedRuns

namespace MiniPascal

/-- The mark that the failure of a check reports. -/
def Check.mark : Check → Mark
  | .operand mark _ _ => mark
  | .combination _ mark _ _ => mark

/-- The checks of the expression that is asked for, and then that of its own type. An argument is
written without a check. -/
def Query.checks : Query → List Check
  | .number mark source => source.checks ++ [.operand mark .numeric source]
  | .truth mark source => source.checks ++ [.operand mark .truth source]
  | .text _ => []

/-- The checks that an operator of an expression makes are made at tokens of these kinds. -/
inductive Check.MadeBy : Check → Kind → Prop where
  | negation {mark : Mark} {operand : Expression} :
      MadeBy (.operand mark .truth operand) (.keyword .notWord)
  | sign {kind : Kind} {operator : UnaryOperator} {mark : Mark} {operand : Expression}
      (found : Parse.sign? kind = some operator) : MadeBy (.operand mark operator.type operand) kind
  | operand {kind : Kind} {operator : BinaryOperator} {mark : Mark} {source : Expression}
      (operates : kind.Operates operator) :
      MadeBy (.operand mark operator.operandType source) kind
  | combination {kind : Kind} {operator : BinaryOperator} {mark : Mark} {left right : Expression}
      (operates : kind.Operates operator) : MadeBy (.combination operator mark left right) kind

/-- A query makes a check at a token of a text, and reports it on a line: that of the token, or that of
the token behind it when a keyword comes before its condition. -/
inductive Query.ChecksAt (tokens : List Token) : Query → Check → Token → Nat → Prop where
  | operator {query : Query} {check : Check} {token : Token} (inside : token ∈ tokens)
      (made : check.MadeBy token.kind) (marked : check.mark = token.mark) :
      ChecksAt tokens query check token token.line
  | target {target sign : Token} {source : Expression} (near : [target, sign] <:+: tokens)
      (kind : target.kind = .identifier) (signKind : sign.kind = .symbol .colonEquals) :
      ChecksAt tokens (.number target.mark source) (.operand target.mark .numeric source) target
        target.line
  | untilTest {test : Token} {source : Expression} (inside : test ∈ tokens)
      (kind : test.kind = .keyword .untilWord) :
      ChecksAt tokens (.truth test.mark source) (.operand test.mark .truth source) test test.line
  | guard {opening first : Token} {source : Expression} (near : [opening, first] <:+: tokens)
      (kind : opening.kind = .keyword .whileWord ∨ opening.kind = .keyword .ifWord) :
      ChecksAt tokens (.truth ⟨opening.text, first.line⟩ source)
        (.operand ⟨opening.text, first.line⟩ .truth source) opening first.line

variable {tokens : List Token} {bound : Nat} {place : Machine}

theorem Query.ChecksAt.mem {query : Query} {check : Check} {token : Token} {line : Nat}
    (checks : query.ChecksAt tokens check token line) : token ∈ tokens := by
  cases checks with
  | operator inside | untilTest inside => exact inside
  | target near | guard near => exact near.subset List.mem_cons_self

theorem Query.ChecksAt.line_eq {query : Query} {check : Check} {token : Token} {line : Nat}
    (checks : query.ChecksAt tokens check token line) (noLoop : token.kind ≠ .keyword .whileWord)
    (noBranch : token.kind ≠ .keyword .ifWord) : line = token.line := by
  cases checks with
  | operator | target | untilTest => rfl
  | guard _ kind => exact (kind.elim noLoop noBranch).elim

/-- Every check of an expression is made at an operator of it. -/
theorem Expression.Marked.check {source : Expression} (marked : source.Marked tokens)
    {check : Check} (listed : check ∈ source.checks) :
    ∃ token ∈ tokens, check.MadeBy token.kind ∧ check.mark = token.mark := by
  induction marked with
  | reference | integer | real => cases listed
  | @negation token _ inside kind _ operand =>
      obtain listed | own := List.mem_append.mp listed
      · exact operand listed
      · rw [List.mem_singleton.mp own]
        exact ⟨token, inside, kind ▸ .negation, rfl⟩
  | @sign token _ _ inside kind _ operand =>
      obtain listed | own := List.mem_append.mp listed
      · exact operand listed
      · rw [List.mem_singleton.mp own]
        exact ⟨token, inside, .sign kind, rfl⟩
  | @binary token _ _ _ inside operates _ _ left right =>
      obtain leftPart | rightPart := List.mem_append.mp listed
      · obtain listed | own := List.mem_append.mp leftPart
        · exact left listed
        · rw [List.mem_singleton.mp own]
          exact ⟨token, inside, .operand operates, rfl⟩
      · obtain rightPart | own := List.mem_append.mp rightPart
        · obtain listed | own := List.mem_append.mp rightPart
          · exact right listed
          · rw [List.mem_singleton.mp own]
            exact ⟨token, inside, .operand operates, rfl⟩
        · rw [List.mem_singleton.mp own]
          exact ⟨token, inside, .combination operates, rfl⟩

/-- All checks of a query are made at tokens. -/
def Query.Located (tokens : List Token) (query : Query) : Prop :=
  ∀ check ∈ query.checks, ∃ token line, query.ChecksAt tokens check token line ∧
    check.mark = ⟨token.text, line⟩

/-- The check of the type comes behind those of the operators. -/
theorem Query.located_of_own {query : Query} {source : Expression} {own : Check}
    (marked : source.Marked tokens) (parts : query.checks = source.checks ++ [own])
    (located : ∃ token line, query.ChecksAt tokens own token line ∧ own.mark = ⟨token.text, line⟩) :
    query.Located tokens := by
  rw [Located, parts]
  refine List.forall_mem_append.mpr ⟨fun check listed => ?_, List.forall_mem_singleton.mpr located⟩
  obtain ⟨token, inside, made, mark⟩ := marked.check listed
  exact ⟨token, token.line, .operator inside made mark, mark⟩

theorem Token.Guards.located {opening : Token} {word : Keyword} {test : Mark}
    {condition : Expression} (guards : opening.Guards tokens word test)
    (either : word = .whileWord ∨ word = .ifWord) (marked : condition.Marked tokens) :
    (Query.truth test condition).Located tokens := by
  obtain ⟨kind, first, near, rfl⟩ := guards
  have keyword : opening.kind = .keyword .whileWord ∨ opening.kind = .keyword .ifWord := by
    rw [kind]
    exact either.imp (congrArg _) (congrArg _)
  exact Query.located_of_own marked rfl ⟨opening, first.line, .guard near keyword, rfl⟩

theorem Statement.mem_allQueries {body : List Statement} {query : Query} :
    query ∈ Statement.allQueries body ↔ ∃ part ∈ body, query ∈ part.queries := by
  induction body with
  | nil => exact ⟨nofun, nofun⟩
  | cons statement body inductionHypothesis =>
      rw [Statement.allQueries, List.mem_append, inductionHypothesis, List.exists_mem_cons_iff]

/-- Whatever a marked statement asks for is located. -/
theorem Statement.Marked.located {statement : Statement} (marked : statement.Marked tokens) :
    ∀ query ∈ statement.queries, query.Located tokens := by
  have parts {body : List Statement}
      (located : ∀ part ∈ body, ∀ query ∈ part.queries, query.Located tokens) :
      ∀ query ∈ Statement.allQueries body, query.Located tokens := by
    intro query asked
    obtain ⟨part, inside, asked⟩ := Statement.mem_allQueries.mp asked
    exact located part inside query asked
  have text {argument : Argument} : ∀ query ∈ [Query.text argument], query.Located tokens :=
    List.forall_mem_singleton.mpr nofun
  induction marked with
  | empty | writelnPlain => exact nofun
  | compound _ body => exact parts body
  | assign near kind signKind value =>
      exact List.forall_mem_singleton.mpr
        (Query.located_of_own value rfl ⟨_, _, .target near kind signKind, rfl⟩)
  | repeatUntil _ inside kind condition body =>
      exact List.forall_mem_append.mpr ⟨parts body, List.forall_mem_singleton.mpr
        (Query.located_of_own condition rfl ⟨_, _, .untilTest inside kind, rfl⟩)⟩
  | whileDo guards condition _ body =>
      exact List.forall_mem_cons.mpr ⟨guards.located (.inl rfl) condition, parts body⟩
  | ifThen guards condition _ branch =>
      exact List.forall_mem_cons.mpr ⟨guards.located (.inr rfl) condition, branch⟩
  | ifElse guards condition _ _ branch otherwise =>
      exact List.forall_mem_cons.mpr ⟨guards.located (.inr rfl) condition,
        List.forall_mem_append.mpr ⟨branch, otherwise⟩⟩
  | write | writeln => exact text

section Failures

variable {halt : Halt}

/-- The first of the checks that fails, the own one last, tells that an operand is not accepted. -/
theorem Expression.findSome?_of_refused {source : Expression} {mark : Mark} {type : ExpressionType}
    (known : ∀ part ∈ source.variables, part.Known place.table)
    (refused : mark.accepted type (source.value place.table) = .error halt) :
    (source.checks ++ [Check.operand mark type source]).findSome? (·.failure? bound place) =
      some halt := by
  rw [List.findSome?_append, Expression.findSome?_failure? known, List.findSome?_singleton,
    Check.or_operand_failure?, refused]
  rfl

/-- A query that ends with a runtime error ends with its first check that fails. -/
theorem Query.Fails.first {query : Query} {error : RuntimeError}
    (fails : query.Fails place.table (.error error))
    (known : ∀ source ∈ query.variables, source.Known place.table)
    (reals : place.table.HoldsReals) :
    query.checks.findSome? (·.failure? bound place) = some (.error error) := by
  cases query with
  | number mark source =>
      exact Expression.findSome?_of_refused known (Mark.number_eq_error_iff.mp fails)
  | truth mark source =>
      exact Expression.findSome?_of_refused known (Mark.truth_eq_error_iff.mp fails)
  | text argument =>
      replace fails : argument.text place.table = .error (.error error) := fails
      obtain ⟨fault, _, same⟩ | ⟨_, text, same⟩ := Argument.text_cases known reals
      · rw [same] at fails
        cases fails
      · rw [same] at fails
        cases fails

/-- The failure of a check reports its mark. -/
theorem Check.mark_of_failure {check : Check} {error : RuntimeError}
    (fails : check.failure? bound place = some (.error error)) :
    error.line = check.mark.line ∧ error.text = some check.mark.text := by
  cases check with
  | operand mark type source =>
      rw [failure?] at fails
      split at fails
      · cases fails
      · split at fails
        · cases fails
        · cases fails
          exact ⟨rfl, rfl⟩
  | combination operator mark left right =>
      rw [failure?] at fails
      split at fails
      · unfold BinaryOperator.failure? at fails
        split at fails
        · cases fails
          exact ⟨rfl, rfl⟩
        · split at fails <;> cases fails
      · cases fails

end Failures

/-- A runtime error of an accepted program points to a token of its text: to the operator, the target
or the keyword whose check is the first one to fail, of all the checks of what the program comes to
ask. It has the spelling of this token, and the line of it unless the token is the keyword before the
condition of a loop or a conditional, for which it has the line of the token behind. -/
theorem runtime_error_points_to_token (text : String) (program : Program) (declared : SymbolTable)
    (accepts : Accepts text program declared) (table : SymbolTable) (reals : table.HoldsReals)
    (covers : table.Covers declared) (bound : Nat) (error : RuntimeError)
    (stops : (execute bound program.toTree table).result = .error (.error error)) :
    ∃ query place token, program.Asks table query place ∧
      (execute bound program.toTree table).machine.output = place.output ++ error.render ∧
      token ∈ tokensOf text ∧ error.text = some token.text ∧
      (token.kind ≠ .keyword .whileWord → token.kind ≠ .keyword .ifWord →
        error.line = token.line) ∧
      ∃ earlier check later, query.checks = earlier ++ check :: later ∧
        (∀ other ∈ earlier, other.failure? bound place = none) ∧
        check.failure? bound place = some (.error error) ∧
        query.ChecksAt (tokensOf text) check token error.line := by
  cases accepts.stops reals covers bound with
  | exhausted result | ends result | faults _ _ result =>
      rw [result] at stops
      cases stops
  | @reports query place found asks fails result machine =>
      rw [result] at stops
      cases stops
      obtain ⟨known, real⟩ := accepts.asks_known reals covers asks
      have first : query.checks.findSome? (·.failure? bound place) = some (.error error) :=
        fails.first known real
      obtain ⟨earlier, check, later, parts, failure, passed⟩ := List.findSome?_eq_some_iff.mp first
      have located : query.Located (tokensOf text) := by
        obtain ⟨part, inside, asked⟩ := Statement.mem_allQueries.mp asks.mem_queries
        exact (parseProgram_marked accepts.result part inside).located query asked
      obtain ⟨token, line, checks, mark⟩ := located check (by rw [parts]; simp)
      obtain ⟨sameLine, sameText⟩ := Check.mark_of_failure failure
      rw [mark] at sameLine sameText
      subst sameLine
      refine ⟨query, place, token, asks, by rw [machine]; rfl, checks.mem, sameText,
        checks.line_eq, earlier, check, later, parts, passed, failure, checks⟩

/-- A program that assigns a truth value on its second line. -/
def truthAssigned : Program :=
  ⟨1, some "p", 1, [.assign 2 ⟨⟨"x", 2⟩, .cell "x" "x"⟩
    (.binary .less ⟨"<", 3⟩ (.integer ⟨"1", 3⟩ 1) (.integer ⟨"2", 3⟩ 2))]⟩

def truthAssignedTable : SymbolTable := (SymbolTable.empty.enter "p").enter "x"

theorem truthAssigned_points_to_target :
    Accepts "program p; begin\nx :=\n1 < 2 end." truthAssigned truthAssignedTable ∧
      truthAssignedTable.HoldsReals ∧ truthAssignedTable.Covers truthAssignedTable ∧
      ∃ bound, (execute bound truthAssigned.toTree truthAssignedTable).result =
          .error (.error ⟨.incompatibleTypes, 2, some "x"⟩) ∧
        ∃ token ∈ tokensOf "program p; begin\nx :=\n1 < 2 end.", token.text = "x" := by
  have accepts : Accepts "program p; begin\nx :=\n1 < 2 end." truthAssigned truthAssignedTable :=
    ⟨by cbv, by decide +kernel, by cbv⟩
  have reals : truthAssignedTable.HoldsReals := (SymbolTable.HoldsReals.empty.enter "p").enter "x"
  obtain ⟨bound, ends⟩ : ∃ bound, execute bound truthAssigned.toTree truthAssignedTable =
      .ended (.error (.error ⟨.incompatibleTypes, 2, some "x"⟩)) _ :=
    execute_of_runs (.stop (.assignFails rfl))
  have stops := congrArg Outcome.result ends
  obtain ⟨query, place, token, _, _, inside, same, _⟩ := runtime_error_points_to_token _ _ _ accepts _
    reals (.refl _) bound _ stops
  exact ⟨accepts, reals, .refl _, bound, stops, token, inside, (Option.some.inj same).symm⟩

/-- A loop whose condition is a number and stands on the second line. -/
def lateCondition : Program :=
  ⟨1, some "p", 1, [.whileDo 1 ⟨"while", 2⟩ (.integer ⟨"1", 2⟩ 1) 2 []]⟩

/-- The runtime error of an accepted program has the spelling of a keyword and another line than that:
no token of the text has both. -/
theorem lateCondition_points_elsewhere :
    Accepts "program p; begin while\n1 do begin end end." lateCondition
        (SymbolTable.empty.enter "p") ∧
      (∃ bound, (execute bound lateCondition.toTree (SymbolTable.empty.enter "p")).result =
        .error (.error ⟨.incompatibleTypes, 2, some "while"⟩)) ∧
      ¬∃ token ∈ tokensOf "program p; begin while\n1 do begin end end.",
        token.line = 2 ∧ token.text = "while" := by
  refine ⟨⟨by cbv, by decide +kernel, by cbv⟩, ?_, by decide +kernel⟩
  obtain ⟨bound, ends⟩ : ∃ bound, execute bound lateCondition.toTree (SymbolTable.empty.enter "p") =
      .ended (.error (.error ⟨.incompatibleTypes, 2, some "while"⟩)) _ :=
    execute_of_runs (.stop (.whileFails rfl))
  exact ⟨bound, congrArg Outcome.result ends⟩

end MiniPascal
