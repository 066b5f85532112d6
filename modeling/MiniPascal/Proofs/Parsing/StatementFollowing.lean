/-
This file shows that the parser of statements follows every reading without a report.
-/

import MiniPascal.Proofs.Parsing.StatementRuns

namespace MiniPascal

/-- One statement is read, and a branch is one statement. -/
theorem StatementReading.single {construct : Construct} {table after : SymbolTable}
    {tokens rest : List Token} {found : List Statement}
    (reading : StatementReading construct table tokens found after rest) :
    (∃ terminal, construct = .list terminal) ∨ ∃ statement, found = [statement] := by
  induction reading with
  | listEnd | listGap | listLast | listNext => exact .inl ⟨_, rfl⟩
  | branch _ statement =>
      obtain ⟨_, same⟩ | single := statement
      · cases same
      · exact .inr single
  | _ => exact .inr ⟨_, rfl⟩

theorem StatementReading.statement_single {table after : SymbolTable} {tokens rest : List Token}
    {found : List Statement}
    (reading : StatementReading .statement table tokens found after rest) :
    ∃ statement, found = [statement] := by
  obtain ⟨_, same⟩ | single := reading.single
  · cases same
  · exact single

namespace Parse

/-- A list goes on behind the semicolons at its front. -/
theorem behindSemicolons_of_listReading {terminal : Keyword} {table after : SymbolTable}
    {found : List Statement} {tokens rest : List Token}
    (reading : StatementReading (.list terminal) table tokens found after rest) :
    StatementReading (.list terminal) table (behindSemicolons tokens) found after rest := by
  induction tokens with
  | nil => exact reading
  | cons token tokens inductionHypothesis =>
      by_cases semicolon : token.kind.isSymbol .semicolon = true
      · rw [behindSemicolons_cons semicolon]
        have kind := Kind.isSymbol_iff.mp semicolon
        cases reading with
        | listEnd ends =>
            simp only [nextKind, kind] at ends
            cases ends
        | listGap _ others => exact inductionHypothesis others
        | listLast first | listNext first =>
            have starts := first.starts
            simp only [nextKind, kind] at starts
            cases starts
      · rwa [behindSemicolons_eq_self (by simpa [nextKind] using semicolon)]

/-- The word that starts a statement ends no list that is closed by another one. -/
theorem endsList_of_startsStatement {terminal : Keyword} {kind : Kind}
    (closes : startsStatement (.keyword terminal) = false)
    (starts : startsStatement kind = true) :
    endsList (·.isKeyword terminal) kind = false := by
  have other : kind.isKeyword terminal = false := by
    cases same : kind.isKeyword terminal with
    | false => rfl
    | true =>
        rw [Kind.isKeyword_iff.mp same, closes] at starts
        cases starts
  rw [endsList, other]
  cases kind with
  | keyword word => cases word <;> first | rfl | cases starts
  | _ => first | rfl | cases starts

/-- No statement starts where a list ends. -/
theorem startsStatement_of_endsList {terminal : Keyword} {kind : Kind}
    (closes : startsStatement (.keyword terminal) = false)
    (ends : endsList (·.isKeyword terminal) kind = true) : startsStatement kind = false := by
  cases starts : startsStatement kind with
  | false => rfl
  | true =>
      rw [endsList_of_startsStatement closes starts] at ends
      cases ends

/-- A parser follows every reading of a statement over at most `bound` tokens, and finds none
before a semicolon. -/
def FollowsStatement (frame : Frame) (bound : Nat) (parse : Parse (Option Statement)) : Prop :=
  ∀ ⦃table tokens found after rest⦄, OptionalReading table tokens found after rest →
    tokens.length ≤ bound → frame.Allows rest →
      parse.on (frame.before table tokens) = ⟨.ok found, frame.before after rest⟩

/-- A parser follows every reading of a construct over at most `bound` tokens. -/
def FollowsConstruct {α : Type} (frame : Frame) (construct : Construct) (bound : Nat)
    (parse : Parse α) (statements : α → List Statement) : Prop :=
  ∀ ⦃table tokens found after rest⦄,
    StatementReading construct table tokens (statements found) after rest →
      tokens.length ≤ bound → frame.Allows rest →
        parse.on (frame.before table tokens) = ⟨.ok found, frame.before after rest⟩

variable {frame : Frame} {bound : Nat} {statement : Parse (Option Statement)}

theorem separator_run {table : SymbolTable} {tokens : List Token}
    (separated : (nextKind tokens).isSymbol .semicolon = true ∨
      startsStatement (nextKind tokens) = false)
    (allows : frame.Allows (behindSemicolons tokens)) :
    separator.on (frame.before table tokens) =
      ⟨.ok (), frame.before table (behindSemicolons tokens)⟩ := by
  rw [separator, on_bind_ok (on_current _), Frame.before_kind]
  by_cases semicolon : (nextKind tokens).isSymbol .semicolon = true
  · rw [if_pos semicolon]
    exact skipAll_run rfl allows
  · have noStart := separated.resolve_left semicolon
    rw [if_neg semicolon, if_neg (by simp [noStart]),
      behindSemicolons_eq_self (by simpa using semicolon)]
    rfl

/-- A list that can go on behind its separator is followed behind its first statement. -/
theorem statementsWithin_follows {terminal : Keyword}
    (closes : startsStatement (.keyword terminal) = false)
    (statementFollows : FollowsStatement frame bound statement) {count : Nat}
    (within : count ≤ bound) :
    FollowsConstruct frame (.list terminal) count
      (statementsWithin statement (·.isKeyword terminal) count) id := by
  induction count with
  | zero =>
      intro table tokens found after rest reading short _
      obtain rfl := List.length_eq_zero_iff.mp (Nat.le_zero.mp short)
      cases reading with
      | listEnd => rfl
      | listLast first | listNext first => cases first.starts
  | succ count inductionHypothesis =>
      intro table tokens found after rest reading short allows
      rw [statementsWithin, on_bind_ok (on_current _), Frame.before_kind]
      have listFollows := inductionHypothesis (by omega)
      cases reading with
      | listEnd ends =>
          rw [if_pos ends]
          rfl
      | @listGap _ _ _ semicolon _ tokens _ kind others =>
          have goesOn : endsList (·.isKeyword terminal) semicolon.kind = false := by
            rw [kind]
            rfl
          have isSemicolon : (nextKind (semicolon :: tokens)).isSymbol .semicolon = true :=
            Kind.isSymbol_iff.mpr kind
          have dropped : behindSemicolons (semicolon :: tokens) = behindSemicolons tokens :=
            behindSemicolons_cons isSemicolon
          have behind := behindSemicolons_of_listReading others
          have left := (behindSemicolons_suffix tokens).length_le
          have allowsBehind := allows.of_suffix behind.leaves.1
          have gap : separator.on (frame.before table (semicolon :: tokens)) = _ :=
            separator_run (.inl isSemicolon) (by rwa [dropped])
          rw [dropped] at gap
          have none : OptionalReading table (semicolon :: tokens) none table
              (semicolon :: tokens) := ⟨isSemicolon, rfl, rfl⟩
          simp only [nextKind, goesOn, Bool.false_eq_true, if_false]
          rw [on_bind_ok (statementFollows none (by omega) Frame.allows_cons), on_bind_ok gap]
          simp only [List.length_cons] at short
          rw [on_bind_ok (listFollows behind (by omega) allows)]
          rfl
      | listLast lastReading ends =>
          obtain ⟨found, rfl⟩ := lastReading.statement_single
          have reads : OptionalReading table tokens (some found) after rest := lastReading
          have goesOn := endsList_of_startsStatement closes lastReading.starts
          have shorter := lastReading.leaves.2 rfl
          have noStart := startsStatement_of_endsList closes ends
          have stays : behindSemicolons rest = rest := by
            apply behindSemicolons_eq_self
            cases semicolon : (nextKind rest).isSymbol .semicolon with
            | false => rfl
            | true =>
                rw [Kind.isSymbol_iff.mp semicolon] at ends
                cases ends
          have gap : separator.on (frame.before after rest) = _ :=
            separator_run (.inr noStart) (by rwa [stays])
          rw [stays] at gap
          simp only [goesOn, Bool.false_eq_true, if_false]
          rw [on_bind_ok (statementFollows reads (by omega) allows), on_bind_ok gap,
            on_bind_ok (listFollows (.listEnd ends) (by omega) allows)]
          rfl
      | @listNext _ _ between _ semicolon first others _ middle _ firstReading kind othersReading =>
          obtain ⟨found, rfl⟩ := firstReading.statement_single
          have reads : OptionalReading table tokens (some found) between (semicolon :: middle) :=
            firstReading
          have goesOn := endsList_of_startsStatement closes firstReading.starts
          have behind := behindSemicolons_of_listReading othersReading
          have left := (behindSemicolons_suffix middle).length_le
          have shorter := firstReading.leaves.2 rfl
          have allowsBehind := allows.of_suffix behind.leaves.1
          have isSemicolon : (nextKind (semicolon :: middle)).isSymbol .semicolon = true :=
            Kind.isSymbol_iff.mpr kind
          have dropped : behindSemicolons (semicolon :: middle) = behindSemicolons middle :=
            behindSemicolons_cons isSemicolon
          have gap : separator.on (frame.before between (semicolon :: middle)) = _ :=
            separator_run (.inl isSemicolon) (by rwa [dropped])
          rw [dropped] at gap
          simp only [List.length_cons] at shorter
          simp only [goesOn, Bool.false_eq_true, if_false]
          rw [on_bind_ok (statementFollows reads (by omega) Frame.allows_cons), on_bind_ok gap,
            on_bind_ok (listFollows behind (by omega) allows)]
          rfl

/-- A compound statement is followed from the word that opens it. -/
theorem compoundOf_follows (statementFollows : FollowsStatement frame bound statement)
    {table after : SymbolTable} {opening closing : Token} {body : List Statement}
    {tokens rest : List Token} (opens : opening.kind = .keyword .beginWord)
    (bodyReading : StatementReading (.list .endWord) table tokens body after (closing :: rest))
    (closes : closing.kind = .keyword .endWord) (short : tokens.length ≤ bound)
    (allows : frame.Allows rest) :
    (compoundOf statement bound).on (frame.before table (opening :: tokens)) =
      ⟨.ok (opening.line, body), frame.before after rest⟩ := by
  have ends : startsStatement (.keyword .endWord) = false := rfl
  have bodyFollows := statementsWithin_follows ends statementFollows (Nat.le_refl bound)
  have allowsBody := frame.allows_of_suffix_cons bodyReading.leaves.1
  rw [compoundOf, on_bind_ok (on_current _),
    on_bind_ok (accept_run allowsBody (Kind.isKeyword_iff.mpr opens)),
    on_bind_ok (bodyFollows bodyReading short Frame.allows_cons),
    on_bind_ok (expect_run allows (Kind.isKeyword_iff.mpr closes))]
  rfl

theorem branchOf_follows (statementFollows : FollowsStatement frame bound statement) :
    FollowsConstruct frame .branch bound (branchOf statement) fun found => [found] := by
  intro table tokens found after rest reading short allows
  rw [branchOf, on_bind_ok (on_current _)]
  cases reading with
  | branch inside =>
      have reads : OptionalReading table tokens (some found) after rest := inside
      rw [on_bind_ok (statementFollows reads short allows)]
      rfl
  | @emptyBranch _ semicolon others kind =>
      have none : OptionalReading table (semicolon :: others) none table (semicolon :: others) :=
        ⟨Kind.isSymbol_iff.mpr kind, rfl, rfl⟩
      rw [on_bind_ok (statementFollows none short allows)]
      rfl

theorem format_follows {table : SymbolTable} {tokens rest : List Token} {found : Format}
    (reading : FormatReading tokens found rest) (allows : frame.Allows rest) :
    format.on (frame.before table tokens) = ⟨.ok found, frame.before table rest⟩ := by
  have width_run (mistake : Mistake) {token : Token} {number : Nat} {others : List Token}
      (kind : token.kind = .integer number) (allowsOthers : frame.Allows others) :
      (width mistake).on (frame.before table (token :: others)) =
        ⟨.ok ⟨token.mark, number⟩, frame.before table others⟩ := by
    rw [width, on_bind_ok (on_current _), Frame.before_current_cons, kind]
    dsimp only
    rw [on_bind_ok (mark_run allowsOthers)]
    rfl
  rw [format]
  cases reading with
  | plain stops =>
      rw [on_bind_ok (accept_absent_run stops)]
      rfl
  | field colonKind widthKind stops =>
      rw [on_bind_ok (accept_run Frame.allows_cons (Kind.isSymbol_iff.mpr colonKind))]
      rw [if_pos rfl, on_bind_ok (width_run _ widthKind allows),
        on_bind_ok (accept_absent_run stops)]
      rfl
  | fixed colonKind widthKind secondKind placesKind =>
      rw [on_bind_ok (accept_run Frame.allows_cons (Kind.isSymbol_iff.mpr colonKind))]
      rw [if_pos rfl, on_bind_ok (width_run _ widthKind Frame.allows_cons),
        on_bind_ok (accept_run Frame.allows_cons (Kind.isSymbol_iff.mpr secondKind))]
      rw [if_pos rfl, on_bind_ok (width_run _ placesKind allows)]
      rfl

theorem item_follows {table : SymbolTable} {token : Token} {rest : List Token} {found : Item}
    (reading : ItemReading table token found) (allows : frame.Allows rest) :
    item.on (frame.before table (token :: rest)) = ⟨.ok found, frame.before table rest⟩ := by
  rw [item, on_bind_ok (on_current _), Frame.before_current_cons]
  cases reading with
  | reference kind known =>
      simp only [kind]
      rw [on_bind_ok (variableRead_run allows known)]
      rfl
  | string kind | character kind =>
      simp only [kind]
      rw [on_bind_ok (mark_run allows)]
      rfl

theorem argument_follows {table : SymbolTable} {tokens rest : List Token} {found : Argument}
    (reading : ArgumentReading table tokens found rest) (allows : frame.Allows rest) :
    argument.on (frame.before table tokens) = ⟨.ok found, frame.before table rest⟩ := by
  cases reading with
  | argument _ itemReading formatReading closes =>
      have allowsFormat := frame.allows_of_suffix_cons formatReading.suffix
      rw [argument, on_bind_ok (advance_run Frame.allows_cons),
        on_bind_ok (item_follows itemReading allowsFormat),
        on_bind_ok (format_follows formatReading Frame.allows_cons),
        on_bind_ok (require_run allows (Kind.isSymbol_iff.mpr closes))]
      rfl

/-- A parser follows every reading of a statement that starts with a token of a kind. -/
def FollowsOpened (frame : Frame) (opens : Kind) (bound : Nat) (parse : Parse Statement) : Prop :=
  ∀ ⦃table opening tokens found after rest⦄,
    StatementReading .statement table (opening :: tokens) [found] after rest →
      opening.kind = opens → tokens.length ≤ bound → frame.Allows rest →
        parse.on (frame.before table (opening :: tokens)) = ⟨.ok found, frame.before after rest⟩

variable {expression : Parse Expression}

theorem assignmentOf_follows (expressionFollows : FollowsExpression frame .whole bound expression) :
    FollowsOpened frame .identifier bound (assignmentOf expression) := by
  intro table target tokens found after rest reading opens short allows
  cases reading with
  | assign kind signKind valueReading =>
      simp only [List.length_cons] at short
      have allowsValue := allows.of_suffix valueReading.suffix
      rw [assignmentOf, on_bind_ok declare_run, on_bind_ok (advance_run Frame.allows_cons),
        on_bind_ok (require_run allowsValue (Kind.isSymbol_iff.mpr signKind)),
        on_bind_ok (expressionFollows valueReading (by omega) allows)]
      rfl
  | _ => simp_all

theorem repeatOf_follows (statementFollows : FollowsStatement frame bound statement)
    (expressionFollows : FollowsExpression frame .whole bound expression) :
    FollowsOpened frame (.keyword .repeatWord) bound (repeatOf statement expression bound) := by
  have closes : startsStatement (.keyword .untilWord) = false := rfl
  have bodyFollows := statementsWithin_follows closes statementFollows (Nat.le_refl bound)
  intro table opening tokens found after rest reading opens short allows
  cases reading with
  | repeatUntil _ bodyReading testKind conditionReading =>
      have left := bodyReading.leaves.1.length_le
      simp only [List.length_cons] at left
      have allowsBody := frame.allows_of_suffix_cons bodyReading.leaves.1
      have allowsCondition := allows.of_suffix conditionReading.suffix
      rw [repeatOf, on_bind_ok (mark_run allowsBody),
        on_bind_ok (bodyFollows bodyReading short Frame.allows_cons),
        on_bind_ok (check_run (Kind.isKeyword_iff.mpr testKind)),
        on_bind_ok (mark_run allowsCondition),
        on_bind_ok (expressionFollows conditionReading (by omega) allows)]
      rfl
  | _ => simp_all

theorem whileOf_follows (statementFollows : FollowsStatement frame bound statement)
    (expressionFollows : FollowsExpression frame .whole bound expression) :
    FollowsOpened frame (.keyword .whileWord) bound (whileOf statement expression bound) := by
  intro table opening tokens found after rest reading opens short allows
  cases reading with
  | whileDo _ conditionReading doingKind bodyOpens bodyReading closes =>
      have left := conditionReading.suffix.length_le
      simp only [List.length_cons] at left short
      rw [whileOf, on_bind_ok (mark_run Frame.allows_cons), on_bind_ok (on_current _),
        on_bind_ok (expressionFollows conditionReading short Frame.allows_cons),
        on_bind_ok (require_run Frame.allows_cons (Kind.isKeyword_iff.mpr doingKind)),
        on_bind_ok (check_run (Kind.isKeyword_iff.mpr bodyOpens)),
        on_bind_ok (compoundOf_follows statementFollows bodyOpens bodyReading closes (by omega)
          allows)]
      rfl
  | _ => simp_all

theorem ifOf_follows (statementFollows : FollowsStatement frame bound statement)
    (expressionFollows : FollowsExpression frame .whole bound expression) :
    FollowsOpened frame (.keyword .ifWord) bound (ifOf statement expression) := by
  have branchFollows := branchOf_follows statementFollows
  intro table opening tokens found after rest reading opens short allows
  cases reading with
  | ifThen _ conditionReading thenKind branchReading noElse =>
      have left := conditionReading.suffix.length_le
      simp only [List.length_cons] at left short
      have allowsBranch := allows.of_suffix branchReading.leaves.1
      rw [ifOf, on_bind_ok (mark_run Frame.allows_cons), on_bind_ok (on_current _),
        on_bind_ok (expressionFollows conditionReading short Frame.allows_cons),
        on_bind_ok (require_run allowsBranch (Kind.isKeyword_iff.mpr thenKind)),
        on_bind_ok (branchFollows branchReading (by omega) allows),
        on_bind_ok (accept_absent_run noElse)]
      rfl
  | ifElse _ conditionReading thenKind branchReading elseKind otherwiseReading =>
      have left := conditionReading.suffix.length_le
      have behind := branchReading.leaves.1.length_le
      simp only [List.length_cons] at left behind short
      have allowsBranch := frame.allows_of_suffix_cons branchReading.leaves.1
      have allowsOtherwise := allows.of_suffix otherwiseReading.leaves.1
      rw [ifOf, on_bind_ok (mark_run Frame.allows_cons), on_bind_ok (on_current _),
        on_bind_ok (expressionFollows conditionReading short Frame.allows_cons),
        on_bind_ok (require_run allowsBranch (Kind.isKeyword_iff.mpr thenKind)),
        on_bind_ok (branchFollows branchReading (by omega) Frame.allows_cons),
        on_bind_ok (accept_run allowsOtherwise (Kind.isKeyword_iff.mpr elseKind)),
        if_pos rfl, on_bind_ok (branchFollows otherwiseReading (by omega) allows)]
      rfl
  | _ => simp_all

theorem write_follows : FollowsOpened frame (.keyword .writeWord) bound write := by
  intro table opening tokens found after rest reading opens short allows
  cases reading with
  | write _ argumentReading =>
      have allowsArgument := allows.of_suffix argumentReading.suffix
      have follows := argument_follows argumentReading allows
      cases argumentReading with
      | argument begins =>
          rw [write, on_bind_ok (mark_run allowsArgument),
            on_bind_ok (check_run (Kind.isSymbol_iff.mpr begins)), on_bind_ok follows]
          rfl
  | _ => simp_all

theorem writeln_follows : FollowsOpened frame (.keyword .writelnWord) bound writeln := by
  intro table opening tokens found after rest reading opens short allows
  cases reading with
  | writeln _ argumentReading =>
      have allowsArgument := allows.of_suffix argumentReading.suffix
      have follows := argument_follows argumentReading allows
      cases argumentReading with
      | argument begins =>
          rw [writeln, on_bind_ok (mark_run allowsArgument), on_bind_ok (on_current _),
            Frame.before_current_cons, if_pos (Kind.isSymbol_iff.mpr begins), on_bind_ok follows]
          rfl
  | writelnPlain _ stops =>
      rw [writeln, on_bind_ok (mark_run allows), on_bind_ok (on_current _), Frame.before_kind,
        if_neg (by simp [stops])]
      rfl
  | _ => simp_all

theorem statementOf_follows (statementFollows : FollowsStatement frame bound statement) :
    FollowsStatement frame (bound + 1) (statementOf statement bound) := by
  have expressionFollows := expressionWithin_follows frame bound
  intro table tokens found after rest reading short allows
  rw [statementOf]
  dsimp only
  rw [on_bind_ok (on_current _), Frame.before_kind]
  cases found with
  | none =>
      obtain ⟨semicolon, rfl, rfl⟩ := reading
      rw [Kind.isSymbol_iff.mp semicolon]
      rfl
  | some found =>
      have reads : StatementReading .statement table tokens [found] after rest := reading
      have starts := reads.starts
      cases tokens with
      | nil => cases starts
      | cons opening tokens =>
          have shorter : tokens.length ≤ bound := Nat.le_of_succ_le_succ short
          have follows {opens : Kind} {parse : Parse Statement} (same : opening.kind = opens)
              (opened : FollowsOpened frame opens bound parse) :
              parse.on (frame.before table (opening :: tokens)) =
                ⟨.ok found, frame.before after rest⟩ := opened reads same shorter allows
          -- The first token decides on the form of the statement, as it does for the parser.
          cases kind : opening.kind with
          | identifier =>
              simp only [nextKind, kind]
              rw [on_bind_ok (follows kind (assignmentOf_follows expressionFollows))]
              rfl
          | keyword word =>
              cases word <;> simp only [nextKind, kind] at starts ⊢
              case beginWord =>
                cases reads with
                | compound opens bodyReading closes =>
                    rw [on_bind_ok (compoundOf_follows statementFollows opens bodyReading closes
                      shorter allows)]
                    rfl
                | _ => simp_all
              case repeatWord =>
                rw [on_bind_ok (follows kind (repeatOf_follows statementFollows expressionFollows))]
                rfl
              case whileWord =>
                rw [on_bind_ok (follows kind (whileOf_follows statementFollows expressionFollows))]
                rfl
              case ifWord =>
                rw [on_bind_ok (follows kind (ifOf_follows statementFollows expressionFollows))]
                rfl
              case writeWord =>
                rw [on_bind_ok (follows kind write_follows)]
                rfl
              case writelnWord =>
                rw [on_bind_ok (follows kind writeln_follows)]
                rfl
              all_goals cases starts
          | _ => simp [nextKind, kind, startsStatement, Kind.isKeyword, Kind.isIdentifier] at starts

/-- A parser that follows a statement drops nothing. -/
theorem dropMistake_run {parse : Parse (Option Statement)} {state after : ParseState}
    {found : Option Statement} (result : parse.on state = ⟨.ok found, after⟩) :
    (dropMistake parse).on state = ⟨.ok found, after⟩ := by
  rw [dropMistake, on_tryCatch, result]

theorem statementWithin_follows (frame : Frame) (bound : Nat) :
    FollowsStatement frame bound (statementWithin bound) := by
  induction bound with
  | zero =>
      intro table tokens found after rest reading short
      obtain rfl := List.length_eq_zero_iff.mp (Nat.le_zero.mp short)
      cases found with
      | none => cases reading.1
      | some found =>
          have reads : StatementReading .statement table [] [found] after rest := reading
          cases reads.starts
  | succ bound inductionHypothesis =>
      intro table tokens found after rest reading short allows
      exact dropMistake_run (statementOf_follows inductionHypothesis reading short allows)

end Parse

end MiniPascal
