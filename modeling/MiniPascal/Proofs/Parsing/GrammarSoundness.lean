/-
This file shows that every reading is a derivation of the grammar that reads only known names.
-/

import MiniPascal.Proofs.Parsing.Declaration
import MiniPascal.Proofs.Parsing.Grammar

namespace MiniPascal

theorem multiplying?_isSome (kind : Kind) :
    (Parse.multiplying? kind).isSome = kind.isMultiplyingOperator := by
  cases kind with
  | symbol mark => cases mark <;> rfl
  | keyword word => cases word <;> rfl
  | _ => rfl

theorem adding?_isSome (kind : Kind) : (Parse.adding? kind).isSome = kind.isAddingOperator := by
  cases kind with
  | symbol mark => cases mark <;> rfl
  | keyword word => cases word <;> rfl
  | _ => rfl

theorem relational?_isSome (kind : Kind) :
    (Parse.relational? kind).isSome = kind.isRelationalOperator := by
  cases kind with
  | symbol mark => cases mark <;> rfl
  | keyword word => cases word <;> rfl
  | _ => rfl

theorem sign?_isSome (kind : Kind) : (Parse.sign? kind).isSome = kind.isSign := by
  cases kind with
  | symbol mark => cases mark <;> rfl
  | keyword word => cases word <;> rfl
  | _ => rfl

/-- The phrase that a level of expressions reads. -/
def Level.phrase : Level → Nonterminal
  | .factor => .factor
  | .term => .term
  | .chain .multiplying _ => .furtherFactors
  | .chain .adding _ => .furtherTerms
  | .simple => .simpleExpression
  | .whole => .expression

theorem ExpressionReading.derives {table : SymbolTable} {level : Level} {tokens rest : List Token}
    {found : Expression} (reading : ExpressionReading table level tokens found rest) :
    Derives level.phrase tokens rest := by
  induction reading with
  | reference kind => exact .identifier kind
  | integer kind => exact .integer kind
  | real kind => exact .real kind
  | group opens _ closes inside => exact .group opens inside closes
  | negation kind _ operand => exact .negation kind operand
  | @chainEnd rank =>
      cases rank with
      | multiplying => exact .noFurtherFactor
      | adding => exact .noFurtherTerm
  | @chainNext rank _ _ _ _ sign _ _ _ goesOn _ _ operand others =>
      cases rank with
      | multiplying =>
          have multiplies : sign.kind.isMultiplyingOperator = true := by
            rw [← multiplying?_isSome, show Parse.multiplying? sign.kind = _ from goesOn]
            rfl
          exact .furtherFactor multiplies operand others
      | adding =>
          have adds : sign.kind.isAddingOperator = true := by
            rw [← adding?_isSome, show Parse.adding? sign.kind = _ from goesOn]
            rfl
          exact .furtherTerm adds operand others
  | term _ _ factor others => exact .term factor others
  | unsigned _ _ _ term others => exact .unsigned term others
  | signed kind _ _ term others =>
      exact .signed (by rw [← sign?_isSome, kind]; rfl) term others
  | alone _ _ simple => exact .alone simple
  | compared _ kind _ first second =>
      exact .comparison first (by rw [← relational?_isSome, kind]; rfl) second

theorem FormatReading.derives {tokens rest : List Token} {found : Format}
    (reading : FormatReading tokens found rest) : Derives .layout tokens rest := by
  cases reading with
  | plain => exact .plain
  | field colonKind widthKind => exact .width colonKind widthKind
  | fixed colonKind widthKind secondKind placesKind =>
      exact .places colonKind widthKind secondKind placesKind

theorem ItemReading.isWritable {table : SymbolTable} {token : Token} {found : Item}
    (reading : ItemReading table token found) : token.kind.isWritable = true := by
  cases reading with
  | reference kind | string kind | character kind =>
      rw [kind]
      rfl

/-- The phrase that a construct reads. -/
def Construct.phrase : Construct → Nonterminal
  | .statement => .statement
  | .branch => .branch
  | .list _ => .statementList

theorem StatementReading.derives {construct : Construct} {table after : SymbolTable}
    {tokens rest : List Token} {found : List Statement}
    (reading : StatementReading construct table tokens found after rest) :
    Derives construct.phrase tokens rest := by
  have form {phrase : Nonterminal} (member : phrase ∈ Nonterminal.statementForms)
      {tokens rest : List Token} (inside : Derives phrase tokens rest) :
      Derives .statement tokens rest := .statement member inside
  induction reading with
  | assign kind signKind value =>
      exact form (by decide) (.assignment kind signKind value.derives)
  | compound opens _ closes body =>
      exact form (by decide) (.compoundStatement opens body closes)
  | repeatUntil opens _ testKind condition body =>
      exact form (by decide) (.repeatStatement opens body testKind condition.derives)
  | whileDo opens condition doingKind bodyOpens _ closes body =>
      exact form (by decide)
        (.whileStatement opens condition.derives doingKind (.compoundStatement bodyOpens body closes))
  | ifThen opens condition thenKind _ _ branch =>
      exact form (by decide) (.ifThen opens condition.derives thenKind branch)
  | ifElse opens condition thenKind _ elseKind _ branch otherwise =>
      exact form (by decide)
        (.ifElse opens condition.derives thenKind branch elseKind otherwise)
  | write opens argument =>
      cases argument with
      | argument begins item format closes =>
          exact form (by decide)
            (.writeStatement opens begins (.writeArgument item.isWritable format.derives) closes)
  | writeln opens argument =>
      cases argument with
      | argument begins item format closes =>
          exact form (by decide)
            (.writelnStatement opens begins (.writeArgument item.isWritable format.derives) closes)
  | writelnPlain opens => exact form (by decide) (.writelnLine opens)
  | branch _ inside => exact .branch inside
  | emptyBranch kind => exact .emptyBranch kind
  | listEnd => exact .emptyList
  | listGap kind _ others => exact .gap kind others
  | listLast _ _ last => exact .lastStatement last
  | listNext _ kind _ first others => exact .nextStatement first kind others

/-- The tokens start with no assignment sign, and every name that they read is known. -/
structure ReadsSettled (table : SymbolTable) (tokens : List Token) : Prop where
  noSign : (nextKind tokens).isSymbol .colonEquals = false
  known : ReadsKnown table tokens

namespace ReadsSettled

variable {table : SymbolTable} {token : Token} {rest : List Token}

/-- A token that is neither an identifier nor an assignment sign changes nothing. -/
theorem other (noName : token.kind.isIdentifier = false)
    (noSign : token.kind.isSymbol .colonEquals = false) (known : ReadsKnown table rest) :
    ReadsSettled table (token :: rest) :=
  ⟨noSign, (readsKnown_other noName).mpr known⟩

theorem keyword {word : Keyword} (kind : token.kind = .keyword word)
    (known : ReadsKnown table rest) : ReadsSettled table (token :: rest) :=
  other (by rw [kind]; rfl) (by rw [kind]; rfl) known

theorem operator (operates : token.kind.isOperator = true) (known : ReadsKnown table rest) :
    ReadsSettled table (token :: rest) := by
  obtain ⟨noName, noSign⟩ := Kind.apart_of_isOperator operates
  exact other noName noSign known

theorem symbol {mark : Symbol} (kind : token.kind = .symbol mark) (apart : mark ≠ .colonEquals)
    (known : ReadsKnown table rest) : ReadsSettled table (token :: rest) :=
  other (by rw [kind]; rfl) (by simp [kind, Kind.isSymbol, apart]) known

theorem read {cell : Cell} (kind : token.kind = .identifier)
    (found : table.lookup? token.text = some cell) (settled : ReadsSettled table rest) :
    ReadsSettled table (token :: rest) := by
  refine ⟨by simp [nextKind, kind, Kind.isSymbol], (readsKnown_read kind settled.noSign).mpr ?_⟩
  exact ⟨by rw [SymbolTable.contains, found]; rfl, settled.known⟩

end ReadsSettled

theorem Rank.isOperator {rank : Rank} {kind : Kind} {operator : BinaryOperator}
    (goesOn : rank.operator? kind = some operator) : kind.isOperator = true := by
  cases rank with
  | multiplying =>
      have some : Parse.multiplying? kind = some operator := goesOn
      simp [Kind.isOperator, ← multiplying?_isSome, some]
  | adding =>
      have some : Parse.adding? kind = some operator := goesOn
      simp [Kind.isOperator, ← adding?_isSome, some]

theorem relational?_isOperator {kind : Kind} {operator : BinaryOperator}
    (compares : Parse.relational? kind = some operator) : kind.isOperator = true := by
  simp [Kind.isOperator, ← relational?_isSome, compares]

theorem sign?_isOperator {kind : Kind} {operator : UnaryOperator}
    (signs : Parse.sign? kind = some operator) : kind.isOperator = true := by
  have isSign : kind.isSign = true := by
    rw [← sign?_isSome, signs]
    rfl
  simp only [Kind.isSign, Bool.or_eq_true] at isSign
  simp [Kind.isOperator, Kind.isAddingOperator, isSign]

theorem ExpressionReading.settled {table : SymbolTable} {level : Level} {tokens rest : List Token}
    {found : Expression} (reading : ExpressionReading table level tokens found rest)
    (settled : ReadsSettled table rest) : ReadsSettled table tokens := by
  induction reading with
  | reference kind known => exact .read kind known settled
  | integer kind | real kind =>
      exact .other (by rw [kind]; rfl) (by rw [kind]; rfl) settled.known
  | group opens _ closes inside =>
      have closing := ReadsSettled.symbol closes (by decide) settled.known
      exact .symbol opens (by decide) (inside closing).known
  | negation kind _ operand => exact .keyword kind (operand settled).known
  | chainEnd => exact settled
  | chainNext goesOn _ _ operand others =>
      exact .operator (Rank.isOperator goesOn) (operand (others settled)).known
  | term _ _ factor others => exact factor (others settled)
  | unsigned _ _ _ term others => exact term (others settled)
  | signed kind _ _ term others =>
      exact .operator (sign?_isOperator kind) (term (others settled)).known
  | alone _ _ simple => exact simple settled
  | compared _ kind _ first second =>
      exact first (.operator (relational?_isOperator kind) (second settled).known)

theorem FormatReading.settled {table : SymbolTable} {tokens rest : List Token} {found : Format}
    (reading : FormatReading tokens found rest) (settled : ReadsSettled table rest) :
    ReadsSettled table tokens := by
  have literal {token : Token} {number : Nat} {others : List Token}
      (kind : token.kind = .integer number) (known : ReadsKnown table others) :
      ReadsSettled table (token :: others) :=
    .other (by rw [kind]; rfl) (by rw [kind]; rfl) known
  cases reading with
  | plain => exact settled
  | field colonKind widthKind =>
      exact .symbol colonKind (by decide) (literal widthKind settled.known).known
  | fixed colonKind widthKind secondKind placesKind =>
      have places := (literal placesKind settled.known).known
      have second := (ReadsSettled.symbol secondKind (by decide) places).known
      exact .symbol colonKind (by decide) (literal widthKind second).known

theorem ItemReading.settled {table : SymbolTable} {token : Token} {rest : List Token}
    {found : Item} (reading : ItemReading table token found) (settled : ReadsSettled table rest) :
    ReadsSettled table (token :: rest) := by
  cases reading with
  | reference kind found => exact .read kind found settled
  | string kind | character kind =>
      exact .other (by rw [kind]; rfl) (by rw [kind]; rfl) settled.known

theorem ArgumentReading.settled {table : SymbolTable} {tokens rest : List Token}
    {found : Argument} (reading : ArgumentReading table tokens found rest)
    (known : ReadsKnown table rest) : ReadsSettled table tokens := by
  cases reading with
  | argument opens item format closes =>
      have inside := item.settled (format.settled (.symbol closes (by decide) known))
      exact .symbol opens (by decide) inside.known

/-- Every name that a reading reads is known, and so are those behind it. -/
theorem StatementReading.settled {construct : Construct} {table after : SymbolTable}
    {tokens rest : List Token} {found : List Statement}
    (reading : StatementReading construct table tokens found after rest)
    (settled : ReadsSettled after rest) : ReadsSettled table tokens := by
  induction reading with
  | assign kind signKind value =>
      refine ⟨by simp [nextKind, kind, Kind.isSymbol], ?_⟩
      rw [readsKnown_target kind (by simp [nextKind, signKind, Kind.isSymbol])]
      exact (readsKnown_other (by rw [signKind]; rfl)).mpr (value.settled settled).known
  | compound opens _ closes body => exact .keyword opens (body (.keyword closes settled.known)).known
  | repeatUntil opens _ testKind condition body =>
      have behind := (condition.settled settled).known
      exact .keyword opens (body (.keyword testKind behind)).known
  | whileDo opens condition doingKind bodyOpens _ closes body =>
      have inside := (body (.keyword closes settled.known)).known
      have behind := ReadsSettled.keyword doingKind (ReadsSettled.keyword bodyOpens inside).known
      exact .keyword opens (condition.settled behind).known
  | ifThen opens condition thenKind _ _ branch =>
      exact .keyword opens (condition.settled (.keyword thenKind (branch settled).known)).known
  | ifElse opens condition thenKind _ elseKind _ branch otherwise =>
      have behind := (branch (.keyword elseKind (otherwise settled).known)).known
      exact .keyword opens (condition.settled (.keyword thenKind behind)).known
  | write opens argument | writeln opens argument =>
      exact .keyword opens (argument.settled settled.known).known
  | writelnPlain opens => exact .keyword opens settled.known
  | branch _ inside => exact inside settled
  | emptyBranch | listEnd => exact settled
  | listGap kind _ others =>
      exact .symbol kind (by decide) (others settled).known
  | listLast _ _ last => exact last settled
  | listNext _ kind _ first others =>
      exact first (.symbol kind (by decide) (others settled).known)

/-- A program that is read off all of the tokens is derived from them and reads declared names
only. -/
theorem ProgramReading.sound {after : SymbolTable} {tokens : List Token} {period : Token}
    {found : Program} (reading : ProgramReading .empty tokens found after [period]) :
    Derives .program tokens [] ∧ ReadsDeclared tokens := by
  cases reading with
  | program opens named semicolonKind bodyOpens body closes ends =>
      refine ⟨.program opens named semicolonKind (.compoundStatement bodyOpens body.derives closes)
        ends, readsDeclared_iff.mpr ?_⟩
      have behind : ReadsKnown after [] := trivial
      have closed := ReadsSettled.keyword closes (ReadsSettled.symbol ends (by decide) behind).known
      have inside := ReadsSettled.keyword bodyOpens (body.settled closed).known
      exact (ReadsSettled.symbol semicolonKind (by decide) inside.known).known

end MiniPascal
