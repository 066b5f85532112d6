/-
This file shows that the parser of statements, as long as it reports nothing, finds exactly the
readings.
-/

import MiniPascal.Proofs.Parsing.ExpressionRuns

namespace MiniPascal

namespace Parse

/-- A statement is read, or nothing before a semicolon. -/
def OptionalReading (table : SymbolTable) (tokens : List Token) :
    Option Statement → SymbolTable → List Token → Prop
  | some found, after, rest => StatementReading .statement table tokens [found] after rest
  | none, after, rest =>
      (nextKind tokens).isSymbol .semicolon = true ∧ after = table ∧ rest = tokens

/-- The tokens behind the semicolons at the front. -/
def behindSemicolons (tokens : List Token) : List Token :=
  tokens.dropWhile fun token => token.kind.isSymbol .semicolon

theorem behindSemicolons_cons {token : Token} {rest : List Token}
    (semicolon : token.kind.isSymbol .semicolon = true) :
    behindSemicolons (token :: rest) = behindSemicolons rest :=
  List.dropWhile_cons_of_pos semicolon

theorem behindSemicolons_eq_self {tokens : List Token}
    (noSemicolon : (nextKind tokens).isSymbol .semicolon = false) :
    behindSemicolons tokens = tokens := by
  cases tokens with
  | nil => rfl
  | cons token rest => exact List.dropWhile_cons_of_neg (ne_true_of_eq_false noSemicolon)

theorem behindSemicolons_suffix (tokens : List Token) : behindSemicolons tokens <:+ tokens :=
  List.dropWhile_suffix _

/-- Semicolons before a list of statements belong to it. -/
theorem listReading_of_behindSemicolons {terminal : Keyword} {table after : SymbolTable}
    {found : List Statement} {tokens rest : List Token}
    (reading : StatementReading (.list terminal) table (behindSemicolons tokens) found after rest) :
    StatementReading (.list terminal) table tokens found after rest := by
  induction tokens with
  | nil => exact reading
  | cons token tokens inductionHypothesis =>
      by_cases semicolon : token.kind.isSymbol .semicolon = true
      · rw [behindSemicolons_cons semicolon] at reading
        exact .listGap (Kind.isSymbol_iff.mp semicolon) (inductionHypothesis reading)
      · rwa [behindSemicolons_eq_self (by simpa [nextKind] using semicolon)] at reading

end Parse

open ParseState Parse

section Sound

variable {frame : Frame} {table : SymbolTable} {tokens : List Token} {state after : ParseState}

theorem ItemTrace.reading {item : Item} (trace : ItemTrace state item after)
    (quiet : after.errors = state.errors) (stands : state = frame.before table tokens) :
    ∃ token rest, tokens = token :: rest ∧ ItemReading table token item ∧
      after = frame.before table rest := by
  cases trace with
  | reference kind read =>
      obtain ⟨token, rest, cell, rfl, named, known, rfl, same⟩ := read.reading kind quiet stands
      exact ⟨token, rest, rfl, .reference named known, same⟩
  | string kind next =>
      subst stands
      obtain ⟨token, rest, rfl, kind, rfl⟩ := Frame.passes_kind kind next rfl
      exact ⟨token, rest, rfl, .string kind, rfl⟩
  | character kind next =>
      subst stands
      obtain ⟨token, rest, rfl, kind, rfl⟩ := Frame.passes_kind kind next rfl
      exact ⟨token, rest, rfl, .character kind, rfl⟩

theorem WidthTrace.reading {width : Width} (trace : WidthTrace state width after)
    (stands : state = frame.before table tokens) :
    ∃ token number rest, tokens = token :: rest ∧ token.kind = .integer number ∧
      width = ⟨token.mark, number⟩ ∧ after = frame.before table rest := by
  cases trace with
  | integer kind next =>
      subst stands
      obtain ⟨token, rest, rfl, kind, rfl⟩ := Frame.passes_kind kind next rfl
      exact ⟨token, _, rest, rfl, kind, rfl, rfl⟩

theorem FormatTrace.reading {format : Format} (trace : FormatTrace state format after)
    (stands : state = frame.before table tokens) :
    ∃ rest, FormatReading tokens format rest ∧ after = frame.before table rest := by
  subst stands
  cases trace with
  | plain stops => exact ⟨tokens, .plain (by simpa using stops), rfl⟩
  | field colon next widthTrace stops =>
      obtain ⟨first, rest, rfl, colon, rfl⟩ := Frame.passes_kind colon next rfl
      obtain ⟨token, number, rest, rfl, kind, rfl, rfl⟩ := widthTrace.reading rfl
      exact ⟨rest, .field colon kind (by simpa using stops), rfl⟩
  | fixed colon next widthTrace secondColon secondNext placesTrace =>
      obtain ⟨first, rest, rfl, colon, rfl⟩ := Frame.passes_kind colon next rfl
      obtain ⟨token, number, rest, rfl, kind, rfl, rfl⟩ := widthTrace.reading rfl
      obtain ⟨second, rest, rfl, secondColon, rfl⟩ := Frame.passes_kind secondColon secondNext rfl
      obtain ⟨places, count, rest, rfl, placesKind, rfl, rfl⟩ := placesTrace.reading rfl
      exact ⟨rest, .fixed colon kind secondColon placesKind, rfl⟩

theorem ArgumentTrace.reading {argument : Argument} (trace : ArgumentTrace state argument after)
    (opens : state.stream.current.kind = .symbol .leftParenthesis)
    (quiet : after.errors = state.errors) (stands : state = frame.before table tokens) :
    ∃ rest, ArgumentReading table tokens argument rest ∧ after = frame.before table rest := by
  subst stands
  cases trace with
  | argument next itemTrace formatTrace closes closeNext =>
      obtain ⟨opening, rest, rfl, opens, rfl⟩ := Frame.passes_kind opens next rfl
      obtain ⟨quietItem, _⟩ := itemTrace.steps.quiet_parts formatTrace.steps quiet
      obtain ⟨token, rest, rfl, itemReading, rfl⟩ := itemTrace.reading quietItem rfl
      obtain ⟨rest, formatReading, rfl⟩ := formatTrace.reading rfl
      obtain ⟨closing, last, rfl, closes, rfl⟩ := Frame.passes_kind closes closeNext rfl
      exact ⟨last, .argument opens itemReading formatReading closes, rfl⟩

/-- A separation that reports nothing passes all semicolons, and no statement starts without one. -/
theorem ParseState.Separates.stands (separates : (frame.before table tokens).Separates after)
    (quiet : after.errors = (frame.before table tokens).errors) :
    after = frame.before table (behindSemicolons tokens) ∧
      ((nextKind tokens).isSymbol .semicolon = true ∨ startsStatement (nextKind tokens) = false) := by
  cases separates with
  | semicolons found skips =>
      rw [Frame.before_kind] at found
      exact ⟨skips.stands rfl rfl, .inl (Kind.isSymbol_iff.mpr found)⟩
  | missing _ recovers => exact absurd quiet (Nat.ne_of_gt recovers.reported)
  | none missed noStart =>
      rw [Frame.before_kind] at missed noStart
      have noSemicolon := Bool.eq_false_iff.mpr (mt Kind.isSymbol_iff.mp missed)
      exact ⟨by rw [behindSemicolons_eq_self noSemicolon], .inr noStart⟩

/-- What is read before a token starts with one. -/
theorem ExpressionReading.exists_cons {level : Level} {found : Expression} {next : Token}
    {rest : List Token} (reading : ExpressionReading table level tokens found (next :: rest)) :
    ∃ first more, tokens = first :: more := by
  refine List.exists_cons_of_ne_nil ?_
  rintro rfl
  cases List.suffix_nil.mp reading.suffix

/-- What is read without a report: the construct, or nothing before a semicolon. -/
inductive QuietReading :
    Construct → SymbolTable → List Token → List Statement → SymbolTable → List Token → Prop where
  | read {construct : Construct} {table after : SymbolTable} {tokens rest : List Token}
      {found : List Statement} (reading : StatementReading construct table tokens found after rest) :
      QuietReading construct table tokens found after rest
  | gap {table : SymbolTable} {tokens : List Token}
      (semicolon : (nextKind tokens).isSymbol .semicolon = true) :
      QuietReading .statement table tokens [] table tokens

theorem QuietReading.list {terminal : Keyword} {last : SymbolTable} {rest : List Token}
    {found : List Statement} (quiet : QuietReading (.list terminal) table tokens found last rest) :
    StatementReading (.list terminal) table tokens found last rest := by
  cases quiet with
  | read reading => exact reading

theorem QuietReading.branch {last : SymbolTable} {rest : List Token} {found : List Statement}
    (quiet : QuietReading .branch table tokens found last rest) :
    StatementReading .branch table tokens found last rest := by
  cases quiet with
  | read reading => exact reading

/-- A list goes on behind a statement and the semicolons that separate it. -/
theorem QuietReading.next {terminal : Keyword} {between last : SymbolTable}
    {middle rest : List Token} {first others : List Statement}
    (quiet : QuietReading .statement table tokens first between middle)
    (separated : (nextKind middle).isSymbol .semicolon = true ∨
      startsStatement (nextKind middle) = false)
    (othersReading : StatementReading (.list terminal) between (behindSemicolons middle) others
      last rest) :
    StatementReading (.list terminal) table tokens (first ++ others) last rest := by
  replace othersReading := listReading_of_behindSemicolons othersReading
  cases quiet with
  | gap => exact othersReading
  | read reading =>
      cases othersReading with
      | listEnd ends =>
          rw [List.append_nil]
          exact .listLast reading ends
      | listGap kind othersReading => exact .listNext reading kind othersReading
      | listLast startReading | listNext startReading =>
          -- A statement does not start without a semicolon before it.
          have starts := startReading.starts
          rcases separated with semicolon | noStart
          · rw [Kind.isSymbol_iff.mp semicolon] at starts
            cases starts
          · rw [starts] at noStart
            cases noStart

/-- What is found without a report is read. -/
theorem StatementTrace.reading {construct : Construct} {found : List Statement}
    (trace : StatementTrace construct state found after) (quiet : after.errors = state.errors)
    (stands : state = frame.before table tokens) :
    ∃ last rest, QuietReading construct table tokens found last rest ∧
      after = frame.before last rest := by
  induction trace generalizing table tokens with
  | assign kind next sign signNext value =>
      subst stands
      obtain ⟨target, rest, rfl, kind, rfl⟩ := Frame.passes_kind kind next rfl
      have sign : (frame.before table rest).stream.current.kind = .symbol .colonEquals := sign
      obtain ⟨assigns, rest, rfl, sign, rfl⟩ := Frame.passes_kind sign signNext rfl
      obtain ⟨last, reading, same⟩ :=
        value.reading quiet (rfl : _ = frame.before (table.enter target.text) rest)
      exact ⟨_, last, .read (.assign kind sign reading), same⟩
  | compound opens next bodyTrace closing body =>
      subst stands
      obtain ⟨opening, rest, rfl, opens, rfl⟩ := Frame.passes_kind opens next rfl
      obtain ⟨quietBody, quietEnd⟩ := bodyTrace.steps.quiet_parts closing.steps quiet
      obtain ⟨last, rest, reading, rfl⟩ := body quietBody rfl
      obtain ⟨ending, rest, rfl, closes, rfl⟩ := closing.stands rfl quietEnd
      exact ⟨last, rest, .read (.compound opens reading.list (Kind.isKeyword_iff.mp closes)), rfl⟩
  | repeatUntil opens next bodyTrace testKind testNext condition body =>
      subst stands
      obtain ⟨opening, rest, rfl, opens, rfl⟩ := Frame.passes_kind opens next rfl
      obtain ⟨quietBody, quietTest⟩ :=
        bodyTrace.steps.quiet_parts (condition.steps.head (.pass testNext)) quiet
      obtain ⟨last, rest, reading, rfl⟩ := body quietBody rfl
      obtain ⟨test, rest, rfl, testKind, rfl⟩ := Frame.passes_kind testKind testNext rfl
      obtain ⟨rest, conditionReading, same⟩ := condition.reading quietTest rfl
      exact ⟨last, rest, .read (.repeatUntil opens reading.list testKind conditionReading), same⟩
  | whileDo opens next condition doKind doNext begins beginNext bodyTrace closing body =>
      subst stands
      obtain ⟨opening, tokens, rfl, opens, rfl⟩ := Frame.passes_kind opens next rfl
      have toBody := (Steps.pass doNext).tail (.pass beginNext)
      have toLast := toBody.trans bodyTrace.steps
      obtain ⟨quietCondition, quietRest⟩ :=
        condition.steps.quiet_parts (toLast.trans closing.steps) quiet
      obtain ⟨quietBody, quietEnd⟩ := Steps.quiet_parts toLast closing.steps quietRest
      obtain ⟨rest, conditionReading, rfl⟩ := condition.reading quietCondition rfl
      obtain ⟨doing, rest, rfl, doKind, rfl⟩ := Frame.passes_kind doKind doNext rfl
      have begins : (frame.before table rest).stream.current.kind = .keyword .beginWord := begins
      obtain ⟨bodyOpening, rest, rfl, begins, rfl⟩ := Frame.passes_kind begins beginNext rfl
      obtain ⟨last, rest, reading, rfl⟩ := body quietBody rfl
      obtain ⟨ending, rest, rfl, closes, rfl⟩ := closing.stands rfl quietEnd
      obtain ⟨first, tokens, rfl⟩ := conditionReading.exists_cons
      have closes := Kind.isKeyword_iff.mp closes
      exact ⟨last, rest, .read (.whileDo opens conditionReading doKind begins reading.list closes),
        rfl⟩
  | ifThen opens next condition thenKind thenNext branchTrace noElse branch =>
      subst stands
      obtain ⟨opening, tokens, rfl, opens, rfl⟩ := Frame.passes_kind opens next rfl
      obtain ⟨quietCondition, quietBranch⟩ :=
        condition.steps.quiet_parts (branchTrace.steps.head (.pass thenNext)) quiet
      obtain ⟨rest, conditionReading, rfl⟩ := condition.reading quietCondition rfl
      obtain ⟨thenToken, rest, rfl, thenKind, rfl⟩ := Frame.passes_kind thenKind thenNext rfl
      obtain ⟨last, rest, reading, rfl⟩ := branch quietBranch rfl
      obtain ⟨first, tokens, rfl⟩ := conditionReading.exists_cons
      rw [Frame.before_kind] at noElse
      exact ⟨last, rest, .read (.ifThen opens conditionReading thenKind reading.branch noElse), rfl⟩
  | ifElse opens next condition thenKind thenNext branchTrace elseKind elseNext otherwiseTrace branch
      otherwise =>
      subst stands
      obtain ⟨opening, tokens, rfl, opens, rfl⟩ := Frame.passes_kind opens next rfl
      have toBranch := branchTrace.steps.head (.pass thenNext)
      have toEnd := otherwiseTrace.steps.head (.pass elseNext)
      obtain ⟨quietCondition, quietRest⟩ := condition.steps.quiet_parts (toBranch.trans toEnd) quiet
      obtain ⟨quietBranch, quietOtherwise⟩ := Steps.quiet_parts toBranch toEnd quietRest
      obtain ⟨rest, conditionReading, rfl⟩ := condition.reading quietCondition rfl
      obtain ⟨thenToken, rest, rfl, thenKind, rfl⟩ := Frame.passes_kind thenKind thenNext rfl
      obtain ⟨between, rest, branchReading, rfl⟩ := branch quietBranch rfl
      obtain ⟨elseToken, rest, rfl, elseKind, rfl⟩ := Frame.passes_kind elseKind elseNext rfl
      obtain ⟨last, rest, otherwiseReading, rfl⟩ := otherwise quietOtherwise rfl
      obtain ⟨first, tokens, rfl⟩ := conditionReading.exists_cons
      exact ⟨last, rest, .read (.ifElse opens conditionReading thenKind branchReading.branch elseKind
        otherwiseReading.branch), rfl⟩
  | write opens next begins argument =>
      subst stands
      obtain ⟨opening, tokens, rfl, opens, rfl⟩ := Frame.passes_kind opens next rfl
      obtain ⟨rest, argumentReading, same⟩ := argument.reading begins quiet rfl
      exact ⟨table, rest, .read (.write opens argumentReading), same⟩
  | writeln opens next begins argument =>
      subst stands
      obtain ⟨opening, tokens, rfl, opens, rfl⟩ := Frame.passes_kind opens next rfl
      obtain ⟨rest, argumentReading, same⟩ := argument.reading begins quiet rfl
      exact ⟨table, rest, .read (.writeln opens argumentReading), same⟩
  | writelnPlain opens next stops =>
      subst stands
      obtain ⟨opening, tokens, rfl, opens, rfl⟩ := Frame.passes_kind opens next rfl
      have stops : (frame.before table tokens).stream.current.kind.isSymbol .leftParenthesis = false :=
        stops
      exact ⟨table, tokens, .read (.writelnPlain opens (by simpa using stops)), rfl⟩
  | gap kind =>
      subst stands
      rw [Frame.before_kind] at kind
      exact ⟨table, tokens, .gap (Kind.isSymbol_iff.mpr kind), rfl⟩
  | dropped recovers => exact absurd quiet (Nat.ne_of_gt recovers.reported)
  | branch _ statement =>
      obtain ⟨last, rest, reading, same⟩ := statement quiet stands
      cases reading with
      | read reading => exact ⟨last, rest, .read (.branch reading), same⟩
  | emptyBranch _ statement =>
      obtain ⟨last, rest, reading, same⟩ := statement quiet stands
      subst stands
      cases reading with
      | read reading => cases reading
      | gap semicolon =>
          cases tokens with
          | nil => cases semicolon
          | cons token rest =>
              exact ⟨table, token :: rest, .read (.emptyBranch (Kind.isSymbol_iff.mp semicolon)), same⟩
  | listEnd ends =>
      subst stands
      exact ⟨table, tokens, .read (.listEnd (by simpa using ends)), rfl⟩
  | listNext firstTrace gap othersTrace first others =>
      obtain ⟨quietFirst, quietRest⟩ :=
        firstTrace.steps.quiet_parts (gap.steps.trans othersTrace.steps) quiet
      obtain ⟨quietGap, quietOthers⟩ := gap.steps.quiet_parts othersTrace.steps quietRest
      obtain ⟨between, middle, firstReading, rfl⟩ := first quietFirst stands
      obtain ⟨rfl, separated⟩ := gap.stands quietGap
      obtain ⟨last, rest, othersReading, same⟩ := others quietOthers rfl
      exact ⟨last, rest, .read (firstReading.next separated othersReading.list), same⟩

end Sound

end MiniPascal
