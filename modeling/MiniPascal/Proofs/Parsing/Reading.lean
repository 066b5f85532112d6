/-
This file reads expressions, statements and programs off a list of tokens when nothing is wrong
with them. Every rule looks at most one token ahead.
-/

import MiniPascal.Parse.Statement

namespace MiniPascal

/-- The spelling and the line of a token. -/
def Token.mark (token : Token) : Mark := ⟨token.text, token.line⟩

@[simp] theorem Token.mark_text (token : Token) : token.mark.text = token.text := rfl

@[simp] theorem Token.mark_line (token : Token) : token.mark.line = token.line := rfl

/-- The kind of the next token; behind the last one is the end of the text. -/
def nextKind : List Token → Kind
  | [] => .endOfText
  | token :: _ => token.kind

/-- Operators of one rank chain their operands. -/
inductive Rank where
  | multiplying
  | adding
deriving DecidableEq, Repr

def Rank.operator? : Rank → Kind → Option BinaryOperator
  | .multiplying => Parse.multiplying?
  | .adding => Parse.adding?

/-- The levels of the grammar of expressions. A chain goes on behind its left operand. -/
inductive Level where
  | factor
  | term
  | chain (rank : Rank) (left : Expression)
  | simple
  | whole

/-- The level of the operands that an operator chains. -/
def Rank.operand : Rank → Level
  | .multiplying => .factor
  | .adding => .term

/-- A reading takes an expression from the front of the tokens. Chains and negations go on as far
as they can, and every variable is known. -/
inductive ExpressionReading (table : SymbolTable) :
    Level → List Token → Expression → List Token → Prop where
  | reference {token : Token} {cell : Cell} {rest : List Token}
      (kind : token.kind = .identifier) (known : table.lookup? token.text = some cell) :
      ExpressionReading table .factor (token :: rest) (.reference ⟨token.mark, cell.binding⟩) rest
  | integer {token : Token} {number : Nat} {rest : List Token}
      (kind : token.kind = .integer number) :
      ExpressionReading table .factor (token :: rest) (.integer token.mark number) rest
  | real {token : Token} {number : Float} {rest : List Token}
      (kind : token.kind = .real number) :
      ExpressionReading table .factor (token :: rest) (.real token.mark number) rest
  | group {opening closing : Token} {tokens rest : List Token} {found : Expression}
      (opens : opening.kind = .symbol .leftParenthesis)
      (inside : ExpressionReading table .whole tokens found (closing :: rest))
      (closes : closing.kind = .symbol .rightParenthesis) :
      ExpressionReading table .factor (opening :: tokens) found rest
  | negation {token : Token} {tokens rest : List Token} {operand : Expression}
      (kind : token.kind = .keyword .notWord)
      (behind : ExpressionReading table .whole tokens operand rest) :
      ExpressionReading table .factor (token :: tokens) (.unary .negation token.mark operand) rest
  | chainEnd {rank : Rank} {left : Expression} {tokens : List Token}
      (stops : rank.operator? (nextKind tokens) = none) :
      ExpressionReading table (.chain rank left) tokens left tokens
  | chainNext {rank : Rank} {operator : BinaryOperator} {left right found : Expression}
      {sign : Token} {tokens middle rest : List Token}
      (goesOn : rank.operator? sign.kind = some operator)
      (operand : ExpressionReading table rank.operand tokens right middle)
      (others : ExpressionReading table (.chain rank (.binary operator sign.mark left right))
        middle found rest) :
      ExpressionReading table (.chain rank left) (sign :: tokens) found rest
  | term {first found : Expression} {tokens middle rest : List Token}
      (factor : ExpressionReading table .factor tokens first middle)
      (others : ExpressionReading table (.chain .multiplying first) middle found rest) :
      ExpressionReading table .term tokens found rest
  | unsigned {first found : Expression} {tokens middle rest : List Token}
      (noSign : Parse.sign? (nextKind tokens) = none)
      (term : ExpressionReading table .term tokens first middle)
      (others : ExpressionReading table (.chain .adding first) middle found rest) :
      ExpressionReading table .simple tokens found rest
  | signed {operator : UnaryOperator} {operand found : Expression} {sign : Token}
      {tokens middle rest : List Token} (kind : Parse.sign? sign.kind = some operator)
      (term : ExpressionReading table .term tokens operand middle)
      (others : ExpressionReading table (.chain .adding (.unary operator sign.mark operand))
        middle found rest) :
      ExpressionReading table .simple (sign :: tokens) found rest
  | alone {found : Expression} {tokens rest : List Token}
      (simple : ExpressionReading table .simple tokens found rest)
      (stops : Parse.relational? (nextKind rest) = none) :
      ExpressionReading table .whole tokens found rest
  | compared {operator : BinaryOperator} {left right : Expression} {sign : Token}
      {tokens middle rest : List Token}
      (first : ExpressionReading table .simple tokens left (sign :: middle))
      (kind : Parse.relational? sign.kind = some operator)
      (second : ExpressionReading table .simple middle right rest) :
      ExpressionReading table .whole tokens (.binary operator sign.mark left right) rest

/-- A reading leaves an end of the tokens. -/
theorem ExpressionReading.suffix {table : SymbolTable} {level : Level} {tokens rest : List Token}
    {found : Expression} (reading : ExpressionReading table level tokens found rest) :
    rest <:+ tokens := by
  induction reading with
  | reference | integer | real => exact List.suffix_cons _ _
  | group _ _ _ inside => exact ((List.suffix_cons _ _).trans inside).trans (List.suffix_cons _ _)
  | negation _ _ behind => exact behind.trans (List.suffix_cons _ _)
  | chainEnd => exact List.suffix_refl _
  | chainNext _ _ _ operand others => exact (others.trans operand).trans (List.suffix_cons _ _)
  | term _ _ factor others => exact others.trans factor
  | unsigned _ _ _ term others => exact others.trans term
  | signed _ _ _ term others => exact (others.trans term).trans (List.suffix_cons _ _)
  | alone _ _ simple => exact simple
  | compared _ _ _ first second => exact (second.trans (List.suffix_cons _ _)).trans first

/-- The width and the count of places of a writing statement, up to the closing parenthesis. -/
inductive FormatReading : List Token → Format → List Token → Prop where
  | plain {tokens : List Token} (stops : (nextKind tokens).isSymbol .colon = false) :
      FormatReading tokens .plain tokens
  | field {colon width : Token} {number : Nat} {rest : List Token}
      (colonKind : colon.kind = .symbol .colon) (widthKind : width.kind = .integer number)
      (stops : (nextKind rest).isSymbol .colon = false) :
      FormatReading (colon :: width :: rest) (.field ⟨width.mark, number⟩) rest
  | fixed {colon width secondColon places : Token} {number count : Nat} {rest : List Token}
      (colonKind : colon.kind = .symbol .colon) (widthKind : width.kind = .integer number)
      (secondKind : secondColon.kind = .symbol .colon)
      (placesKind : places.kind = .integer count) :
      FormatReading (colon :: width :: secondColon :: places :: rest)
        (.fixed ⟨width.mark, number⟩ ⟨places.mark, count⟩) rest

/-- What is written is a known variable or a string. -/
inductive ItemReading (table : SymbolTable) : Token → Item → Prop where
  | reference {token : Token} {cell : Cell} (kind : token.kind = .identifier)
      (known : table.lookup? token.text = some cell) :
      ItemReading table token (.reference ⟨token.mark, cell.binding⟩)
  | string {token : Token} {content : String} (kind : token.kind = .string content) :
      ItemReading table token (.string token.mark content)
  | character {token : Token} {content : Char} (kind : token.kind = .character content) :
      ItemReading table token (.string token.mark (String.singleton content))

/-- The argument of a writing statement with its parentheses. -/
inductive ArgumentReading (table : SymbolTable) : List Token → Argument → List Token → Prop where
  | argument {opening token closing : Token} {item : Item} {format : Format}
      {tokens rest : List Token} (opens : opening.kind = .symbol .leftParenthesis)
      (itemReading : ItemReading table token item)
      (formatReading : FormatReading tokens format (closing :: rest))
      (closes : closing.kind = .symbol .rightParenthesis) :
      ArgumentReading table (opening :: token :: tokens) ⟨item, format⟩ rest

/-- What is read: one statement, a branch of a conditional, or the statements before a terminal
word. -/
inductive Construct where
  | statement
  | branch
  | list (terminal : Keyword)

/-- A reading takes statements from the front of the tokens and enters the targets of their
assignments into the table. A branch is empty only before a semicolon. -/
inductive StatementReading :
    Construct → SymbolTable → List Token → List Statement → SymbolTable → List Token → Prop where
  | assign {table : SymbolTable} {target sign : Token} {value : Expression}
      {tokens rest : List Token} (kind : target.kind = .identifier)
      (signKind : sign.kind = .symbol .colonEquals)
      (valueReading : ExpressionReading (table.enter target.text) .whole tokens value rest) :
      StatementReading .statement table (target :: sign :: tokens)
        [.assign target.line ⟨target.mark, (table.entered target.text).binding⟩ value]
        (table.enter target.text) rest
  | compound {table after : SymbolTable} {opening closing : Token} {body : List Statement}
      {tokens rest : List Token} (opens : opening.kind = .keyword .beginWord)
      (bodyReading : StatementReading (.list .endWord) table tokens body after (closing :: rest))
      (closes : closing.kind = .keyword .endWord) :
      StatementReading .statement table (opening :: tokens) [.compound opening.line body] after rest
  | repeatUntil {table after : SymbolTable} {opening test : Token} {body : List Statement}
      {condition : Expression} {tokens middle rest : List Token}
      (opens : opening.kind = .keyword .repeatWord)
      (bodyReading : StatementReading (.list .untilWord) table tokens body after (test :: middle))
      (testKind : test.kind = .keyword .untilWord)
      (conditionReading : ExpressionReading after .whole middle condition rest) :
      StatementReading .statement table (opening :: tokens)
        [.repeatUntil opening.line body test.mark condition] after rest
  | whileDo {table after : SymbolTable} {opening first doing bodyOpening closing : Token}
      {body : List Statement} {condition : Expression} {tokens middle rest : List Token}
      (opens : opening.kind = .keyword .whileWord)
      (conditionReading : ExpressionReading table .whole (first :: tokens) condition
        (doing :: bodyOpening :: middle))
      (doingKind : doing.kind = .keyword .doWord)
      (bodyOpens : bodyOpening.kind = .keyword .beginWord)
      (bodyReading : StatementReading (.list .endWord) table middle body after (closing :: rest))
      (closes : closing.kind = .keyword .endWord) :
      StatementReading .statement table (opening :: first :: tokens)
        [.whileDo opening.line ⟨opening.text, first.line⟩ condition bodyOpening.line body] after rest
  | ifThen {table after : SymbolTable} {opening first thenToken : Token} {branch : Statement}
      {condition : Expression} {tokens middle rest : List Token}
      (opens : opening.kind = .keyword .ifWord)
      (conditionReading : ExpressionReading table .whole (first :: tokens) condition
        (thenToken :: middle))
      (thenKind : thenToken.kind = .keyword .thenWord)
      (branchReading : StatementReading .branch table middle [branch] after rest)
      (noElse : (nextKind rest).isKeyword .elseWord = false) :
      StatementReading .statement table (opening :: first :: tokens)
        [.ifThen opening.line ⟨opening.text, first.line⟩ condition branch] after rest
  | ifElse {table between after : SymbolTable} {opening first thenToken elseToken : Token}
      {branch otherwise : Statement} {condition : Expression}
      {tokens middle others rest : List Token} (opens : opening.kind = .keyword .ifWord)
      (conditionReading : ExpressionReading table .whole (first :: tokens) condition
        (thenToken :: middle))
      (thenKind : thenToken.kind = .keyword .thenWord)
      (branchReading : StatementReading .branch table middle [branch] between
        (elseToken :: others))
      (elseKind : elseToken.kind = .keyword .elseWord)
      (otherwiseReading : StatementReading .branch between others [otherwise] after rest) :
      StatementReading .statement table (opening :: first :: tokens)
        [.ifElse opening.line ⟨opening.text, first.line⟩ condition branch otherwise] after rest
  | write {table : SymbolTable} {opening : Token} {argument : Argument} {tokens rest : List Token}
      (opens : opening.kind = .keyword .writeWord)
      (argumentReading : ArgumentReading table tokens argument rest) :
      StatementReading .statement table (opening :: tokens) [.write opening.line argument] table
        rest
  | writeln {table : SymbolTable} {opening : Token} {argument : Argument}
      {tokens rest : List Token} (opens : opening.kind = .keyword .writelnWord)
      (argumentReading : ArgumentReading table tokens argument rest) :
      StatementReading .statement table (opening :: tokens)
        [.writeln opening.line (some argument)] table rest
  | writelnPlain {table : SymbolTable} {opening : Token} {rest : List Token}
      (opens : opening.kind = .keyword .writelnWord)
      (stops : (nextKind rest).isSymbol .leftParenthesis = false) :
      StatementReading .statement table (opening :: rest) [.writeln opening.line none] table rest
  | branch {table after : SymbolTable} {found : List Statement} {tokens rest : List Token}
      (reading : StatementReading .statement table tokens found after rest) :
      StatementReading .branch table tokens found after rest
  | emptyBranch {table : SymbolTable} {semicolon : Token} {rest : List Token}
      (kind : semicolon.kind = .symbol .semicolon) :
      StatementReading .branch table (semicolon :: rest) [.empty semicolon.line] table
        (semicolon :: rest)
  | listEnd {terminal : Keyword} {table : SymbolTable} {tokens : List Token}
      (ends : Parse.endsList (·.isKeyword terminal) (nextKind tokens) = true) :
      StatementReading (.list terminal) table tokens [] table tokens
  | listGap {terminal : Keyword} {table after : SymbolTable} {semicolon : Token}
      {found : List Statement} {tokens rest : List Token}
      (kind : semicolon.kind = .symbol .semicolon)
      (others : StatementReading (.list terminal) table tokens found after rest) :
      StatementReading (.list terminal) table (semicolon :: tokens) found after rest
  | listLast {terminal : Keyword} {table after : SymbolTable} {found : List Statement}
      {tokens rest : List Token}
      (lastReading : StatementReading .statement table tokens found after rest)
      (ends : Parse.endsList (·.isKeyword terminal) (nextKind rest) = true) :
      StatementReading (.list terminal) table tokens found after rest
  | listNext {terminal : Keyword} {table between after : SymbolTable} {semicolon : Token}
      {first others : List Statement} {tokens middle rest : List Token}
      (firstReading : StatementReading .statement table tokens first between (semicolon :: middle))
      (kind : semicolon.kind = .symbol .semicolon)
      (othersReading : StatementReading (.list terminal) between middle others after rest) :
      StatementReading (.list terminal) table tokens (first ++ others) after rest

theorem FormatReading.suffix {tokens rest : List Token} {format : Format}
    (reading : FormatReading tokens format rest) : rest <:+ tokens := by
  cases reading with
  | plain => exact List.suffix_refl _
  | field => exact ⟨[_, _], rfl⟩
  | fixed => exact ⟨[_, _, _, _], rfl⟩

theorem ArgumentReading.suffix {table : SymbolTable} {tokens rest : List Token}
    {argument : Argument} (reading : ArgumentReading table tokens argument rest) :
    rest <:+ tokens := by
  cases reading with
  | argument _ _ formatReading _ =>
      exact ((List.suffix_cons _ _).trans formatReading.suffix).trans ⟨[_, _], rfl⟩

/-- A reading leaves an end of the tokens; a statement takes at least one of them. -/
theorem StatementReading.leaves {construct : Construct} {table after : SymbolTable}
    {tokens rest : List Token} {found : List Statement}
    (reading : StatementReading construct table tokens found after rest) :
    rest <:+ tokens ∧ (construct = .statement → rest.length < tokens.length) := by
  have behind {first : Token} {more last : List Token} (suffix : last <:+ more) :
      last <:+ first :: more ∧
        (Construct.statement = .statement → last.length < (first :: more).length) :=
    ⟨suffix.trans (List.suffix_cons _ _), fun _ => Nat.lt_succ_of_le suffix.length_le⟩
  induction reading with
  | assign _ _ value => exact behind (value.suffix.trans (List.suffix_cons _ _))
  | compound _ _ _ body => exact behind ((List.suffix_cons _ _).trans body.1)
  | repeatUntil _ _ _ condition body =>
      exact behind ((condition.suffix.trans (List.suffix_cons _ _)).trans body.1)
  | whileDo _ condition _ _ _ _ body =>
      have inside := (List.suffix_cons _ _).trans body.1
      exact behind ((inside.trans ⟨[_, _], rfl⟩).trans condition.suffix)
  | ifThen _ condition _ _ _ branch =>
      exact behind ((branch.1.trans (List.suffix_cons _ _)).trans condition.suffix)
  | ifElse _ condition _ _ _ _ branch otherwise =>
      have inside := (otherwise.1.trans (List.suffix_cons _ _)).trans branch.1
      exact behind ((inside.trans (List.suffix_cons _ _)).trans condition.suffix)
  | write _ argument | writeln _ argument => exact behind argument.suffix
  | writelnPlain => exact behind (List.suffix_refl _)
  | branch _ statement => exact ⟨statement.1, fun same => by cases same⟩
  | emptyBranch | listEnd => exact ⟨List.suffix_refl _, fun same => by cases same⟩
  | listGap _ _ others =>
      exact ⟨others.1.trans (List.suffix_cons _ _), fun same => by cases same⟩
  | listLast _ _ last => exact ⟨last.1, fun same => by cases same⟩
  | listNext _ _ _ first others =>
      exact ⟨others.1.trans ((List.suffix_cons _ _).trans first.1), fun same => by cases same⟩

/-- A statement is read from a token that starts one. -/
theorem StatementReading.starts {table after : SymbolTable} {tokens rest : List Token}
    {found : List Statement}
    (reading : StatementReading .statement table tokens found after rest) :
    Parse.startsStatement (nextKind tokens) = true := by
  cases reading with
  | assign kind => simp only [nextKind, kind]; rfl
  | compound opens | repeatUntil opens | whileDo opens | ifThen opens | ifElse opens
  | write opens | writeln opens | writelnPlain opens => simp only [nextKind, opens]; rfl

/-- The reading of a program ends before its period. -/
inductive ProgramReading :
    SymbolTable → List Token → Program → SymbolTable → List Token → Prop where
  | program {table after : SymbolTable} {opening name semicolon bodyOpening closing period : Token}
      {body : List Statement} {tokens rest : List Token}
      (opens : opening.kind = .keyword .programWord) (nameKind : name.kind = .identifier)
      (semicolonKind : semicolon.kind = .symbol .semicolon)
      (bodyOpens : bodyOpening.kind = .keyword .beginWord)
      (bodyReading : StatementReading (.list .endWord) (table.enter name.text) tokens body after
        (closing :: period :: rest))
      (closes : closing.kind = .keyword .endWord)
      (periodKind : period.kind = .symbol .period) :
      ProgramReading table (opening :: name :: semicolon :: bodyOpening :: tokens)
        ⟨opening.line, some name.text, bodyOpening.line, body⟩ after (period :: rest)

end MiniPascal
