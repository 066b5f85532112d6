/-
This file says at which tokens a parser begins its statements, and shows that it enters the names of
these tokens into its table, and nothing else, whatever the mistakes are.
-/

import MiniPascal.Parse.Program
import MiniPascal.Proofs.Parsing.Binding
import MiniPascal.Proofs.Parsing.Declaration

namespace MiniPascal

def identifiersOf (tokens : List Token) : List Token := tokens.filter (·.kind.isIdentifier)

/-- The spellings of the identifiers among tokens. -/
def namesOf (tokens : List Token) : List String := (identifiersOf tokens).map Token.text

theorem identifiersOf_append (first second : List Token) :
    identifiersOf (first ++ second) = identifiersOf first ++ identifiersOf second :=
  List.filter_append _ _

theorem namesOf_append (first second : List Token) :
    namesOf (first ++ second) = namesOf first ++ namesOf second := by
  rw [namesOf, identifiersOf_append, List.map_append]
  rfl

theorem identifiersOf_cons_of_identifier {token : Token} {rest : List Token}
    (kind : token.kind = .identifier) :
    identifiersOf (token :: rest) = token :: identifiersOf rest :=
  List.filter_cons_of_pos (by rw [kind]; rfl)

theorem identifiersOf_cons_of_other {token : Token} {rest : List Token}
    (other : token.kind.isIdentifier = false) :
    identifiersOf (token :: rest) = identifiersOf rest :=
  List.filter_cons_of_neg (by rw [other]; exact Bool.false_ne_true)

theorem namesOf_single_of_identifier {token : Token} (kind : token.kind = .identifier) :
    namesOf [token] = [token.text] := by
  rw [namesOf, identifiersOf_cons_of_identifier kind]
  rfl

theorem namesOf_single_of_other {token : Token} (other : token.kind.isIdentifier = false) :
    namesOf [token] = [] := by
  rw [namesOf, identifiersOf_cons_of_other other]
  rfl

namespace SymbolTable

/-- Names are entered one after the other. -/
def enterAll (table : SymbolTable) (names : List String) : SymbolTable := names.foldl enter table

/-- The names that a table lacks, each in its first spelling. -/
def newNames (table : SymbolTable) (names : List String) : List String :=
  (names.filter (!table.contains ·)).eraseDupsBy fun later earlier => key later == key earlier

variable {table : SymbolTable} {name : String}

theorem enterAll_append (table : SymbolTable) (first second : List String) :
    table.enterAll (first ++ second) = (table.enterAll first).enterAll second := List.foldl_append

theorem newNames_cons_of_contains (known : table.contains name = true) (names : List String) :
    table.newNames (name :: names) = table.newNames names := by
  rw [newNames, List.filter_cons_of_neg (by simp [known])]
  rfl

/-- A new name is no longer new behind its first spelling. -/
theorem newNames_cons_of_new (new : table.contains name = false) (names : List String) :
    table.newNames (name :: names) = name :: (table.enter name).newNames names := by
  have others : (names.filter (!table.contains ·)).filter
      (fun later => decide ((key later == key name) = false)) =
        names.filter (!(table.enter name).contains ·) := by
    rw [List.filter_filter]
    refine List.filter_congr fun other _ => ?_
    have known : (table.enter name).contains other =
        (table.contains other || decide (key other = key name)) := by
      rw [Bool.eq_iff_iff, contains_enter, Bool.or_eq_true, decide_eq_true_iff,
        eq_comm (a := key other)]
    simp [known, Bool.and_comm]
  rw [newNames, List.filter_cons_of_pos (by simp [new]), List.eraseDupsBy_cons, others]
  rfl

/-- The cells of a table stay as they are; behind them comes a fresh cell for every new name. -/
theorem cells_enterAll (table : SymbolTable) (names : List String) :
    (table.enterAll names).cells = table.cells ++ (table.newNames names).map freshCell := by
  induction names generalizing table with
  | nil => exact (List.append_nil _).symm
  | cons name names inductionHypothesis =>
      have step : table.enterAll (name :: names) = (table.enter name).enterAll names := rfl
      rw [step, inductionHypothesis]
      cases known : table.contains name with
      | true => rw [newNames_cons_of_contains known, enter_of_contains known]
      | false =>
          rw [newNames_cons_of_new known, List.map_cons, List.append_cons]
          simp [enter, known]

end SymbolTable

/-- The identifiers that a stream has not passed. -/
def Stream.identifiers (stream : Stream) : List Token :=
  identifiersOf (stream.current :: stream.rest)

theorem Stream.identifiers_next {stream after : Stream} (next : stream.next = .ok after) :
    after.identifiers = identifiersOf stream.rest := by
  obtain ⟨current, rest, ending⟩ := stream
  cases rest with
  | cons token rest =>
      cases next
      rfl
  | nil =>
      cases ending with
      | fault => cases next
      | endOfText line =>
          cases next
          rfl

/-- The identifiers that a parser leaves to pass; behind a fault no token is passed. -/
def Parsed.identifiers {α : Type} (parsed : Parsed α) : List Token :=
  match parsed.result with
  | .error (.fault _) => []
  | _ => parsed.state.stream.identifiers

namespace Parse

/-- What is met behind a parser that yields a value. Where it unwinds, nothing is. -/
def behind {α : Type} (parse : Parse α) (walk : α → ParseState → List Token)
    (state : ParseState) : List Token :=
  match (parse.on state).result with
  | .ok value => walk value (parse.on state).state
  | .error _ => []

section Begun

variable (statement : Parse (Option Statement)) (expression : Parse Expression)
  (begun : ParseState → List Token)

/-- The tokens at which a list begins statements, given those of one statement. -/
def begunInList (terminal : Kind → Bool) : Nat → ParseState → List Token
  | 0, _ => []
  | count + 1, state =>
      if endsList terminal state.stream.current.kind then []
      else begun state ++
        behind statement (fun _ => behind separator fun _ => begunInList terminal count) state

def begunInCompound (count : Nat) : ParseState → List Token :=
  behind (accept (·.isKeyword .beginWord)) fun _ =>
    begunInList statement begun (·.isKeyword .endWord) count

def begunInRepeat (count : Nat) : ParseState → List Token :=
  behind mark fun _ => begunInList statement begun (·.isKeyword .untilWord) count

def begunInWhile (count : Nat) : ParseState → List Token :=
  behind mark fun _ => behind expression fun _ =>
    behind (require (·.isKeyword .doWord) .expectingDo) fun _ =>
      behind (check (·.isKeyword .beginWord) .expectingBegin) fun _ =>
        begunInCompound statement begun count

/-- Both branches of a conditional begin statements. -/
def begunInIf : ParseState → List Token :=
  behind mark fun _ => behind expression fun _ =>
    behind (require (·.isKeyword .thenWord) .expectingThen) fun _ state =>
      begun state ++ behind (branchOf statement) (fun _ =>
        behind (accept (·.isKeyword .elseWord)) fun found state =>
          if found then begun state else []) state

/-- The tokens at which the statement at the parser begins others. -/
def begunInStatement (count : Nat) (state : ParseState) : List Token :=
  match state.stream.current.kind with
  | .keyword .beginWord => begunInCompound statement begun count state
  | .keyword .repeatWord => begunInRepeat statement begun count state
  | .keyword .whileWord => begunInWhile statement expression begun count state
  | .keyword .ifWord => begunInIf statement expression begun state
  | _ => []

end Begun

/-- The tokens at which a statement within the next `count` tokens and those in it begin. Without a
token there is only the end of the text, at which no statement begins. -/
def begunWithin : Nat → ParseState → List Token
  | 0, _ => []
  | count + 1, state => state.stream.current ::
      begunInStatement (statementWithin count) (expressionWithin count) (begunWithin count) count
        state

def begunInBody : ParseState → List Token :=
  behind size fun count => begunInCompound (statementWithin count) (begunWithin count) count

/-- The token at which the name of a program is looked for, and those at which its statements
begin. -/
def begunInProgram : ParseState → List Token :=
  behind advance fun _ => behind (expect (·.isKeyword .programWord) .expectingProgram) fun _ state =>
    state.stream.current :: behind programName (fun _ =>
      behind (expect (·.isSymbol .semicolon) .missingSemicolon) fun _ state =>
        if state.stream.current.kind.isKeyword .beginWord then begunInBody state
        else behind (recover .expectingBegin) (fun _ => begunInBody) state) state

/-- From a state a parser enters the names of the identifiers at which it begins statements, and
nothing else. It comes to these identifiers in their order and leaves them behind. -/
structure Enters {α : Type} (parse : Parse α) (state : ParseState) (begun : List Token) : Prop where
  table : (parse.on state).state.table = state.table.enterAll (namesOf begun)
  order : (identifiersOf begun ++ (parse.on state).identifiers).Sublist state.stream.identifiers

/-- A parser that enters nothing, wherever it starts. -/
def Silent {α : Type} (parse : Parse α) : Prop := ∀ state, parse.Enters state []

section Rules

variable {α β : Type} {parse : Parse α} {next : α → Parse β} {state : ParseState}
  {begun : List Token} {walk : α → ParseState → List Token}

/-- The second parser enters its names behind those of the first. -/
theorem Enters.bind (first : parse.Enters state begun)
    (second : ∀ value after, (next value).Enters after (walk value after)) :
    (parse >>= next).Enters state (begun ++ behind parse walk state) := by
  obtain ⟨table, order⟩ := first
  unfold behind
  constructor
  · rw [on_bind, namesOf_append, SymbolTable.enterAll_append, ← table]
    cases (parse.on state).result with
    | ok value => exact (second value _).table
    | error unwinding => rfl
  · rw [on_bind, identifiersOf_append, List.append_assoc]
    unfold Parsed.identifiers at order
    cases result : (parse.on state).result with
    | ok value =>
        rw [result] at order
        exact ((second value _).order.append_left _).trans order
    | error unwinding =>
        rw [result] at order
        cases unwinding <;> exact order

/-- A silent parser enters nothing behind another one. -/
theorem Enters.andThen (first : parse.Enters state begun) (second : ∀ value, (next value).Silent) :
    (parse >>= next).Enters state begun := by
  have both : (parse >>= next).Enters state (begun ++ behind parse (fun _ _ => []) state) :=
    first.bind fun value after => second value after
  have none : behind parse (fun _ _ => []) state = [] := by
    unfold behind
    split <;> rfl
  rwa [none, List.append_nil] at both

/-- What is entered behind a silent parser. -/
theorem Silent.before (first : parse.Silent)
    (second : ∀ value after, (next value).Enters after (walk value after)) (state : ParseState) :
    (parse >>= next).Enters state (behind parse walk state) := (first state).bind second

theorem Silent.bind (first : parse.Silent) (second : ∀ value, (next value).Silent) :
    (parse >>= next).Silent := fun state => (first state).andThen second

/-- A parser that stays where it is and keeps the table is silent. -/
theorem Silent.of_still
    (still : ∀ state, (parse.on state).state.stream = state.stream ∧
      (parse.on state).state.table = state.table) : parse.Silent := by
  intro state
  obtain ⟨stream, table⟩ := still state
  refine ⟨table, ?_⟩
  unfold Parsed.identifiers
  rw [stream]
  split
  · exact List.nil_sublist _
  · exact List.Sublist.refl _

theorem Silent.pure (value : α) : Silent (Pure.pure value) := .of_still fun _ => ⟨rfl, rfl⟩

theorem Silent.throw (unwinding : Unwinding) : Silent (throw unwinding : Parse α) :=
  .of_still fun _ => ⟨rfl, rfl⟩

theorem Silent.get : Silent (get : Parse ParseState) := .of_still fun _ => ⟨rfl, rfl⟩

theorem Silent.current : Silent current := .of_still fun _ => ⟨rfl, rfl⟩

theorem Silent.report (complaint : Complaint) : Silent (report complaint) :=
  .of_still fun _ => ⟨rfl, rfl⟩

theorem Silent.advance : Silent advance := by
  intro state
  have onNext := on_advance state
  cases next : state.stream.next with
  | error fault =>
      rw [next] at onNext
      refine ⟨by rw [onNext]; rfl, ?_⟩
      rw [onNext]
      exact List.nil_sublist _
  | ok stream =>
      rw [next] at onNext
      refine ⟨by rw [onNext]; rfl, ?_⟩
      rw [onNext]
      change (Stream.identifiers stream).Sublist _
      rw [Stream.identifiers_next next]
      exact (List.sublist_cons_self _ _).filter _

theorem Silent.ite {condition : Bool} {first second : Parse α} (left : first.Silent)
    (right : second.Silent) : (if condition then first else second : Parse α).Silent := by
  cases condition
  · exact right
  · exact left

/-- The name of the current token is entered before this token is passed. -/
theorem enters_declared {next : Variable → Parse α} (silent : ∀ target, (next target).Silent)
    (kind : state.stream.current.kind = .identifier) :
    (do
      let target ← declare
      advance
      next target : Parse α).Enters state [state.stream.current] := by
  have onDeclared : (do
      let target ← declare
      advance
      next target : Parse α).on state =
        (advance >>= fun _ => next
          ⟨⟨state.stream.current.text, state.stream.current.line⟩,
            (state.table.entered state.stream.current.text).binding⟩).on
          { state with table := state.table.enter state.stream.current.text } := rfl
  obtain ⟨table, -⟩ := (Silent.advance.bind fun _ => silent _)
    { state with table := state.table.enter state.stream.current.text }
  constructor
  · rw [onDeclared, namesOf_single_of_identifier kind]
    exact table
  · rw [onDeclared, on_bind, on_advance, Stream.identifiers, identifiersOf_cons_of_identifier kind,
      identifiersOf_cons_of_identifier kind]
    refine List.Sublist.cons_cons _ ?_
    cases next : state.stream.next with
    | error fault => exact List.nil_sublist _
    | ok stream =>
        rw [← Stream.identifiers_next next]
        exact (silent _ _).order

/-- The current token decides how the parser goes on. -/
theorem Enters.byCurrent {next : Token → Parse α}
    (enters : (next state.stream.current).Enters state begun) :
    (Parse.current >>= next).Enters state begun := ⟨enters.table, enters.order⟩

/-- A dropped mistake leaves the parser where it is. -/
theorem Enters.dropMistake {parse : Parse (Option Statement)} (enters : parse.Enters state begun) :
    (dropMistake parse).Enters state begun := by
  obtain ⟨table, order⟩ := enters
  unfold Parsed.identifiers at order
  constructor <;> rw [Parse.dropMistake, on_tryCatch]
  · cases (parse.on state).result with
    | ok value => exact table
    | error unwinding => cases unwinding <;> exact table
  · cases result : (parse.on state).result with
    | ok value =>
        rw [result] at order
        exact order
    | error unwinding =>
        rw [result] at order
        cases unwinding <;> exact order

theorem Silent.mark : Silent mark := .bind .current fun _ => .bind .advance fun _ => .pure _

theorem Silent.accept (wanted : Kind → Bool) : Silent (accept wanted) :=
  .bind .current fun _ => .ite (.bind .advance fun _ => .pure true) (.pure false)

theorem Silent.skipWhile (skipped : Kind → Bool) (count : Nat) :
    Silent (skipWhile skipped count) := by
  induction count with
  | zero => exact .pure ()
  | succ count inductionHypothesis =>
      exact .bind (.accept skipped) fun _ => .ite inductionHypothesis (.pure ())

theorem Silent.skipAll (skipped : Kind → Bool) : Silent (skipAll skipped) :=
  .bind .get fun _ => .skipWhile skipped _

/-- Recovery enters none of the tokens that it skips. -/
theorem Silent.recover (mistake : Mistake) : Silent (recover mistake) :=
  .bind (.report _) fun _ => .skipAll _

theorem Silent.fail (mistake : Mistake) : Silent (fail mistake : Parse α) :=
  .bind (.recover mistake) fun _ => .throw _

theorem Silent.require (wanted : Kind → Bool) (mistake : Mistake) :
    Silent (require wanted mistake) :=
  .bind (.accept wanted) fun found => by
    cases found
    · exact .fail mistake
    · exact .pure ()

theorem Silent.expect (wanted : Kind → Bool) (mistake : Mistake) :
    Silent (expect wanted mistake) :=
  .bind (.accept wanted) fun found => by
    cases found
    · exact .recover mistake
    · exact .pure ()

theorem Silent.check (wanted : Kind → Bool) (mistake : Mistake) : Silent (check wanted mistake) :=
  .bind .current fun _ => .ite (.pure ()) (.fail mistake)

/-- A variable that is read enters nothing, known or not. -/
theorem Silent.variableRead : Silent variableRead := by
  refine .bind .current fun token => .bind .get fun state => ?_
  dsimp only
  split
  · exact .bind (.pure _) fun _ => .bind .advance fun _ => .pure _
  · exact .bind (.report _) fun _ => .bind (.pure _) fun _ => .bind .advance fun _ => .pure _

end Rules

section Reads

variable {factor operand : Parse Expression}

theorem chain_silent {operator? : Kind → Option BinaryOperator} (operandSilent : operand.Silent)
    (count : Nat) (left : Expression) : (chain operator? operand count left).Silent := by
  induction count generalizing left with
  | zero => exact .pure left
  | succ count inductionHypothesis =>
      refine .bind .current fun token => ?_
      split
      · exact .pure left
      · exact .bind .mark fun _ => .bind operandSilent fun _ => inductionHypothesis _

theorem termOf_silent (factorSilent : factor.Silent) (count : Nat) : (termOf factor count).Silent :=
  .bind factorSilent fun _ => chain_silent factorSilent count _

theorem simpleExpressionOf_silent (factorSilent : factor.Silent) (count : Nat) :
    (simpleExpressionOf factor count).Silent := by
  have termSilent := termOf_silent factorSilent count
  refine .bind .current fun token => ?_
  dsimp only
  split
  · exact .bind termSilent fun _ => chain_silent termSilent count _
  · exact .bind .mark fun _ => .bind termSilent fun _ => .bind (.pure _) fun _ =>
      chain_silent termSilent count _

theorem expressionOf_silent (factorSilent : factor.Silent) (count : Nat) :
    (expressionOf factor count).Silent := by
  have simpleSilent := simpleExpressionOf_silent factorSilent count
  refine .bind simpleSilent fun _ => .bind .current fun token => ?_
  split
  · exact .pure _
  · exact .bind .mark fun _ => .bind simpleSilent fun _ => .pure _

theorem factorWithin_silent (count : Nat) : (factorWithin count).Silent := by
  induction count with
  | zero => exact .fail _
  | succ count inductionHypothesis =>
      have expressionSilent := expressionOf_silent inductionHypothesis count
      refine .bind .current fun token => ?_
      split
      · exact .bind .variableRead fun _ => .pure _
      · exact .bind .mark fun _ => .pure _
      · exact .bind .mark fun _ => .pure _
      · exact .bind .advance fun _ => .bind expressionSilent fun _ =>
          .bind (.require _ _) fun _ => .pure _
      · exact .bind .mark fun _ => .bind expressionSilent fun _ => .pure _
      · exact .fail _

/-- No expression enters a name. -/
theorem expressionWithin_silent (count : Nat) : (expressionWithin count).Silent :=
  expressionOf_silent (factorWithin_silent count) count

theorem item_silent : item.Silent := by
  refine .bind .current fun token => ?_
  split
  · exact .bind .variableRead fun _ => .pure _
  · exact .bind .mark fun _ => .pure _
  · exact .bind .mark fun _ => .pure _
  · exact .fail _

theorem width_silent (mistake : Mistake) : (width mistake).Silent := by
  refine .bind .current fun token => ?_
  split
  · exact .bind .mark fun _ => .pure _
  · exact .fail _

theorem format_silent : format.Silent :=
  .bind (.accept _) fun _ => .ite (.bind (width_silent _) fun _ => .bind (.accept _) fun _ =>
    .ite (.bind (width_silent _) fun _ => .pure _) (.pure _)) (.pure _)

theorem argument_silent : argument.Silent :=
  .bind .advance fun _ => .bind item_silent fun _ => .bind format_silent fun _ =>
    .bind (.require _ _) fun _ => .pure _

theorem write_silent : write.Silent :=
  .bind .mark fun _ => .bind (.check _ _) fun _ => .bind argument_silent fun _ => .pure _

theorem writeln_silent : writeln.Silent :=
  .bind .mark fun _ => .bind .current fun _ =>
    .ite (.bind argument_silent fun _ => .pure _) (.pure _)

theorem separator_silent : separator.Silent :=
  .bind .current fun _ => .ite (.skipAll _) (.ite (.recover _) (.pure ()))

end Reads

section Statements

variable {statement : Parse (Option Statement)} {expression : Parse Expression}
  {begun : ParseState → List Token} {state : ParseState}

section Parts

variable (statementEnters : ∀ state, statement.Enters state (begun state))

include statementEnters

theorem statementsWithin_enters (terminal : Kind → Bool) (count : Nat) (state : ParseState) :
    (statementsWithin statement terminal count).Enters state
      (begunInList statement begun terminal count state) := by
  induction count generalizing state with
  | zero => exact Silent.pure [] state
  | succ count inductionHypothesis =>
      refine .byCurrent ?_
      rw [begunInList]
      split
      · exact Silent.pure [] state
      · exact (statementEnters state).bind fun _ => separator_silent.before fun _ after =>
          (inductionHypothesis after).andThen fun _ => .pure _

theorem compoundOf_enters (count : Nat) (state : ParseState) :
    (compoundOf statement count).Enters state (begunInCompound statement begun count state) :=
  .byCurrent <| (Silent.accept _).before (fun _ after =>
    (statementsWithin_enters statementEnters _ count after).andThen fun _ =>
      .bind (.expect _ _) fun _ => .pure _) state

theorem repeatOf_enters (expressionSilent : expression.Silent) (count : Nat) (state : ParseState) :
    (repeatOf statement expression count).Enters state
      (begunInRepeat statement begun count state) :=
  Silent.mark.before (fun _ after =>
    (statementsWithin_enters statementEnters _ count after).andThen fun _ =>
      .bind (.check _ _) fun _ => .bind .mark fun _ => .bind expressionSilent fun _ => .pure _) state

theorem whileOf_enters (expressionSilent : expression.Silent) (count : Nat) (state : ParseState) :
    (whileOf statement expression count).Enters state
      (begunInWhile statement expression begun count state) :=
  Silent.mark.before (fun _ _ => .byCurrent <| expressionSilent.before (fun _ =>
    (Silent.require _ _).before fun _ => (Silent.check _ _).before fun _ after =>
      (compoundOf_enters statementEnters count after).andThen fun _ => .pure _) _) state

theorem branchOf_enters (state : ParseState) : (branchOf statement).Enters state (begun state) :=
  .byCurrent <| (statementEnters state).andThen fun _ => .pure _

theorem ifOf_enters (expressionSilent : expression.Silent) (state : ParseState) :
    (ifOf statement expression).Enters state
      (begunInIf statement expression begun state) := by
  refine Silent.mark.before (fun _ _ => .byCurrent <| expressionSilent.before (fun _ =>
    (Silent.require _ _).before fun _ after => ?_) _) state
  refine (branchOf_enters statementEnters after).bind fun _ =>
    (Silent.accept _).before fun found after => ?_
  cases found with
  | false => exact Silent.pure _ after
  | true => exact (branchOf_enters statementEnters after).andThen fun _ => .pure _

end Parts

/-- A target is the token at which an assignment begins. -/
theorem assignmentOf_enters (expressionSilent : expression.Silent)
    (kind : state.stream.current.kind = .identifier) :
    (assignmentOf expression).Enters state [state.stream.current] :=
  enters_declared (fun _ => .bind (.require _ _) fun _ => .bind expressionSilent fun _ => .pure _)
    kind

/-- A token that is no identifier enters nothing where a statement begins. -/
theorem Enters.cons_other {α : Type} {parse : Parse α} {begun : List Token} {first : Token}
    (enters : parse.Enters state begun) (other : first.kind.isIdentifier = false) :
    parse.Enters state (first :: begun) := by
  obtain ⟨table, order⟩ := enters
  have same : identifiersOf (first :: begun) = identifiersOf begun :=
    identifiersOf_cons_of_other other
  exact ⟨by rw [namesOf, same]; exact table, by rw [same]; exact order⟩

theorem statementOf_enters (statementEnters : ∀ state, statement.Enters state (begun state))
    (count : Nat) (state : ParseState) :
    (statementOf statement count).Enters state (state.stream.current ::
      begunInStatement statement (expressionWithin count) begun count state) := by
  have expressionSilent := expressionWithin_silent count
  have yields {parse : Parse Statement} {begun : List Token} (enters : parse.Enters state begun)
      (other : state.stream.current.kind.isIdentifier = false) :
      (do return some (← parse) : Parse (Option Statement)).Enters state
        (state.stream.current :: begun) := (enters.andThen fun _ => .pure _).cons_other other
  refine .byCurrent ?_
  unfold begunInStatement
  dsimp only
  split
  case h_1 kind =>
    rw [kind]
    exact (assignmentOf_enters expressionSilent kind).andThen fun _ => .pure _
  case h_2 kind =>
    rw [kind]
    exact ((compoundOf_enters statementEnters count state).andThen fun _ => .pure _).cons_other
      (by rw [kind]; rfl)
  case h_3 kind =>
    rw [kind]
    exact yields (repeatOf_enters statementEnters expressionSilent count state) (by rw [kind]; rfl)
  case h_4 kind =>
    rw [kind]
    exact yields (whileOf_enters statementEnters expressionSilent count state) (by rw [kind]; rfl)
  case h_5 kind =>
    rw [kind]
    exact yields (ifOf_enters statementEnters expressionSilent state) (by rw [kind]; rfl)
  case h_6 kind =>
    rw [kind]
    exact yields (write_silent state) (by rw [kind]; rfl)
  case h_7 kind =>
    rw [kind]
    exact yields (writeln_silent state) (by rw [kind]; rfl)
  case h_8 kind =>
    rw [kind]
    exact (Silent.pure none state).cons_other (by rw [kind]; rfl)
  case h_9 noName noCompound noRepeat noWhile noIf _ _ _ =>
    split
    case h_1 kind => exact absurd kind noCompound
    case h_2 kind => exact absurd kind noRepeat
    case h_3 kind => exact absurd kind noWhile
    case h_4 kind => exact absurd kind noIf
    case h_5 =>
      exact (Silent.fail _ state).cons_other
        (Bool.eq_false_iff.mpr (mt Kind.isIdentifier_iff.mp noName))

theorem statementWithin_enters (count : Nat) (state : ParseState) :
    (statementWithin count).Enters state (begunWithin count state) := by
  induction count generalizing state with
  | zero => exact Enters.dropMistake (Silent.fail _ state)
  | succ count inductionHypothesis =>
      exact (statementOf_enters inductionHypothesis count state).dropMistake

theorem programBody_enters (line : Nat) (name : Option String) (state : ParseState) :
    (programBody line name).Enters state (begunInBody state) := by
  refine Silent.before (.bind .get fun _ => .pure _) (fun count after => ?_) state
  refine (compoundOf_enters (statementWithin_enters count) count after).andThen fun found => ?_
  exact .bind .current fun _ => .ite (.pure _) (.bind (.recover _) fun _ => .pure _)

/-- The name of a program is entered when there is one. -/
theorem programName_enters (state : ParseState) :
    programName.Enters state [state.stream.current] := by
  refine .byCurrent ?_
  cases named : state.stream.current.kind.isIdentifier with
  | true => exact enters_declared (fun _ => .pure _) (Kind.isIdentifier_iff.mp named)
  | false =>
      exact Enters.cons_other ((Silent.recover _).bind (fun _ => .pure _) state) named

/-- The parser of programs enters the names at which it begins. -/
theorem program_enters (state : ParseState) : program.Enters state (begunInProgram state) := by
  refine Silent.advance.before (fun _ _ => .byCurrent <| (Silent.expect _ _).before
    (fun _ after => (programName_enters after).bind fun name => (Silent.expect _ _).before
      fun _ after => .byCurrent ?_) _) state
  split
  · exact programBody_enters _ name after
  · exact (Silent.recover _).before (fun _ after => programBody_enters _ name after) after

end Statements

end Parse

end MiniPascal
