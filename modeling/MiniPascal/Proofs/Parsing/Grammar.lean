/-
This file states the grammar of programs apart from any parser. A derivation takes a phrase from
the front of the tokens and leaves the others.
-/

import MiniPascal.Proofs.Parsing.Reading

namespace MiniPascal

def Kind.isMultiplyingOperator (kind : Kind) : Bool :=
  kind.isSymbol .star || kind.isSymbol .slash || kind.isKeyword .divWord ||
    kind.isKeyword .modWord || kind.isKeyword .andWord

def Kind.isAddingOperator (kind : Kind) : Bool :=
  kind.isSymbol .plus || kind.isSymbol .minus || kind.isKeyword .orWord

def Kind.isRelationalOperator (kind : Kind) : Bool :=
  kind.isSymbol .equals || kind.isSymbol .lessThan || kind.isSymbol .lessEquals ||
    kind.isSymbol .greaterEquals || kind.isSymbol .greaterThan || kind.isSymbol .notEquals

def Kind.isSign (kind : Kind) : Bool := kind.isSymbol .plus || kind.isSymbol .minus

/-- Every sign is one of the operators. -/
def Kind.isOperator (kind : Kind) : Bool :=
  kind.isMultiplyingOperator || kind.isAddingOperator || kind.isRelationalOperator

/-- An operator is neither an identifier nor an assignment sign. -/
theorem Kind.apart_of_isOperator {kind : Kind} (operates : kind.isOperator = true) :
    kind.isIdentifier = false ∧ kind.isSymbol .colonEquals = false := by
  cases kind with
  | symbol mark =>
      refine ⟨rfl, ?_⟩
      cases mark <;> first | rfl | cases operates
  | keyword => exact ⟨rfl, rfl⟩
  | _ => cases operates

/-- A variable or a string can be written. -/
def Kind.isWritable : Kind → Bool
  | .identifier => true
  | .string _ => true
  | .character _ => true
  | _ => false

/-- The phrases of the grammar. -/
inductive Nonterminal where
  | program
  | compoundStatement
  | statementList
  | statement
  | assignment
  | repeatStatement
  | whileStatement
  | ifStatement
  | branch
  | writeStatement
  | writelnStatement
  | writeArgument
  | layout
  | expression
  | simpleExpression
  | furtherTerms
  | term
  | furtherFactors
  | factor
deriving DecidableEq, Repr

/-- The forms of a statement. -/
def Nonterminal.statementForms : List Nonterminal :=
  [.assignment, .compoundStatement, .repeatStatement, .whileStatement, .ifStatement,
    .writeStatement, .writelnStatement]

/-- The productions of the grammar. It is ambiguous: a negation takes a whole expression, and an
ELSE may go to any open IF. -/
inductive Derives : Nonterminal → List Token → List Token → Prop where
  /-- Production: `Program := PROGRAM identifier ';' CompoundStatement '.'`. -/
  | program {opening name semicolon period : Token} {tokens rest : List Token}
      (opens : opening.kind = .keyword .programWord) (named : name.kind = .identifier)
      (separates : semicolon.kind = .symbol .semicolon)
      (body : Derives .compoundStatement tokens (period :: rest))
      (ends : period.kind = .symbol .period) :
      Derives .program (opening :: name :: semicolon :: tokens) rest
  /-- Production: `CompoundStatement := BEGIN StatementList END`. -/
  | compoundStatement {opening closing : Token} {tokens rest : List Token}
      (opens : opening.kind = .keyword .beginWord)
      (body : Derives .statementList tokens (closing :: rest))
      (closes : closing.kind = .keyword .endWord) :
      Derives .compoundStatement (opening :: tokens) rest
  | emptyList {tokens : List Token} : Derives .statementList tokens tokens
  /-- Semicolons may lead, trail and be repeated. -/
  | gap {semicolon : Token} {tokens rest : List Token}
      (kind : semicolon.kind = .symbol .semicolon)
      (others : Derives .statementList tokens rest) :
      Derives .statementList (semicolon :: tokens) rest
  | lastStatement {tokens rest : List Token} (last : Derives .statement tokens rest) :
      Derives .statementList tokens rest
  /-- Production: `StatementList := (Statement (';' Statement)*)?`. -/
  | nextStatement {semicolon : Token} {tokens middle rest : List Token}
      (first : Derives .statement tokens (semicolon :: middle))
      (kind : semicolon.kind = .symbol .semicolon)
      (others : Derives .statementList middle rest) :
      Derives .statementList tokens rest
  | statement {form : Nonterminal} {tokens rest : List Token}
      (member : form ∈ Nonterminal.statementForms) (inside : Derives form tokens rest) :
      Derives .statement tokens rest
  /-- Production: `Assignment := identifier ':=' Expression`. -/
  | assignment {target sign : Token} {tokens rest : List Token}
      (kind : target.kind = .identifier) (signKind : sign.kind = .symbol .colonEquals)
      (value : Derives .expression tokens rest) :
      Derives .assignment (target :: sign :: tokens) rest
  /-- Production: `RepeatStatement := REPEAT StatementList UNTIL Expression`. -/
  | repeatStatement {opening test : Token} {tokens middle rest : List Token}
      (opens : opening.kind = .keyword .repeatWord)
      (body : Derives .statementList tokens (test :: middle))
      (testKind : test.kind = .keyword .untilWord)
      (condition : Derives .expression middle rest) :
      Derives .repeatStatement (opening :: tokens) rest
  /-- Production: `WhileStatement := WHILE Expression DO CompoundStatement`. -/
  | whileStatement {opening doing : Token} {tokens middle rest : List Token}
      (opens : opening.kind = .keyword .whileWord)
      (condition : Derives .expression tokens (doing :: middle))
      (doingKind : doing.kind = .keyword .doWord)
      (body : Derives .compoundStatement middle rest) :
      Derives .whileStatement (opening :: tokens) rest
  | ifThen {opening thenToken : Token} {tokens middle rest : List Token}
      (opens : opening.kind = .keyword .ifWord)
      (condition : Derives .expression tokens (thenToken :: middle))
      (thenKind : thenToken.kind = .keyword .thenWord)
      (branch : Derives .branch middle rest) :
      Derives .ifStatement (opening :: tokens) rest
  /-- Production: `IfStatement := IF Expression THEN Statement (ELSE Statement)?`. -/
  | ifElse {opening thenToken elseToken : Token} {tokens middle others rest : List Token}
      (opens : opening.kind = .keyword .ifWord)
      (condition : Derives .expression tokens (thenToken :: middle))
      (thenKind : thenToken.kind = .keyword .thenWord)
      (branch : Derives .branch middle (elseToken :: others))
      (elseKind : elseToken.kind = .keyword .elseWord)
      (otherwise : Derives .branch others rest) :
      Derives .ifStatement (opening :: tokens) rest
  | branch {tokens rest : List Token} (inside : Derives .statement tokens rest) :
      Derives .branch tokens rest
  /-- A branch may be empty where a semicolon comes next. -/
  | emptyBranch {semicolon : Token} {rest : List Token}
      (kind : semicolon.kind = .symbol .semicolon) :
      Derives .branch (semicolon :: rest) (semicolon :: rest)
  /-- Production: `WriteStatement := WRITE '(' WriteArg ')'`. -/
  | writeStatement {opening parenthesis closing : Token} {tokens rest : List Token}
      (opens : opening.kind = .keyword .writeWord)
      (parenthesisKind : parenthesis.kind = .symbol .leftParenthesis)
      (argument : Derives .writeArgument tokens (closing :: rest))
      (closes : closing.kind = .symbol .rightParenthesis) :
      Derives .writeStatement (opening :: parenthesis :: tokens) rest
  | writelnLine {opening : Token} {rest : List Token}
      (opens : opening.kind = .keyword .writelnWord) :
      Derives .writelnStatement (opening :: rest) rest
  /-- Production: `WritelnStatement := WRITELN ('(' WriteArg ')')?`. -/
  | writelnStatement {opening parenthesis closing : Token} {tokens rest : List Token}
      (opens : opening.kind = .keyword .writelnWord)
      (parenthesisKind : parenthesis.kind = .symbol .leftParenthesis)
      (argument : Derives .writeArgument tokens (closing :: rest))
      (closes : closing.kind = .symbol .rightParenthesis) :
      Derives .writelnStatement (opening :: parenthesis :: tokens) rest
  /-- Production: `WriteArg := (Variable|StringLiteral) (':' IntegerLiteral (':' IntegerLiteral)?)?`. -/
  | writeArgument {item : Token} {tokens rest : List Token}
      (writable : item.kind.isWritable = true) (layout : Derives .layout tokens rest) :
      Derives .writeArgument (item :: tokens) rest
  | plain {tokens : List Token} : Derives .layout tokens tokens
  | width {colon field : Token} {number : Nat} {rest : List Token}
      (colonKind : colon.kind = .symbol .colon) (fieldKind : field.kind = .integer number) :
      Derives .layout (colon :: field :: rest) rest
  | places {colon field secondColon places : Token} {number count : Nat} {rest : List Token}
      (colonKind : colon.kind = .symbol .colon) (fieldKind : field.kind = .integer number)
      (secondKind : secondColon.kind = .symbol .colon)
      (placesKind : places.kind = .integer count) :
      Derives .layout (colon :: field :: secondColon :: places :: rest) rest
  | alone {tokens rest : List Token} (simple : Derives .simpleExpression tokens rest) :
      Derives .expression tokens rest
  /-- Production: `Expression := SimpleExpression (RelOp SimpleExpression)?`. -/
  | comparison {sign : Token} {tokens middle rest : List Token}
      (left : Derives .simpleExpression tokens (sign :: middle))
      (compares : sign.kind.isRelationalOperator = true)
      (right : Derives .simpleExpression middle rest) :
      Derives .expression tokens rest
  | unsigned {tokens middle rest : List Token} (first : Derives .term tokens middle)
      (others : Derives .furtherTerms middle rest) :
      Derives .simpleExpression tokens rest
  /-- Production: `SimpleExpression := [('+'|'-')] Term (('+'|'-'|OR) Term)*`. -/
  | signed {sign : Token} {tokens middle rest : List Token} (isSign : sign.kind.isSign = true)
      (first : Derives .term tokens middle) (others : Derives .furtherTerms middle rest) :
      Derives .simpleExpression (sign :: tokens) rest
  | noFurtherTerm {tokens : List Token} : Derives .furtherTerms tokens tokens
  | furtherTerm {sign : Token} {tokens middle rest : List Token}
      (adds : sign.kind.isAddingOperator = true) (next : Derives .term tokens middle)
      (others : Derives .furtherTerms middle rest) :
      Derives .furtherTerms (sign :: tokens) rest
  /-- Production: `Term := Factor (('*'|'/'|DIV|MOD|AND) Factor)*`. -/
  | term {tokens middle rest : List Token} (first : Derives .factor tokens middle)
      (others : Derives .furtherFactors middle rest) :
      Derives .term tokens rest
  | noFurtherFactor {tokens : List Token} : Derives .furtherFactors tokens tokens
  | furtherFactor {sign : Token} {tokens middle rest : List Token}
      (multiplies : sign.kind.isMultiplyingOperator = true) (next : Derives .factor tokens middle)
      (others : Derives .furtherFactors middle rest) :
      Derives .furtherFactors (sign :: tokens) rest
  /-- Production: `Factor := identifier | integer | real | '(' Expression ')' | NOT Expression`. -/
  | identifier {token : Token} {rest : List Token} (kind : token.kind = .identifier) :
      Derives .factor (token :: rest) rest
  | integer {token : Token} {number : Nat} {rest : List Token}
      (kind : token.kind = .integer number) : Derives .factor (token :: rest) rest
  | real {token : Token} {number : Float} {rest : List Token}
      (kind : token.kind = .real number) : Derives .factor (token :: rest) rest
  | group {opening closing : Token} {tokens rest : List Token}
      (opens : opening.kind = .symbol .leftParenthesis)
      (inside : Derives .expression tokens (closing :: rest))
      (closes : closing.kind = .symbol .rightParenthesis) :
      Derives .factor (opening :: tokens) rest
  | negation {token : Token} {tokens rest : List Token} (kind : token.kind = .keyword .notWord)
      (operand : Derives .expression tokens rest) :
      Derives .factor (token :: tokens) rest

theorem Derives.suffix {phrase : Nonterminal} {tokens rest : List Token}
    (derives : Derives phrase tokens rest) : rest <:+ tokens := by
  induction derives with
  | emptyList | emptyBranch | plain | noFurtherTerm | noFurtherFactor => exact List.suffix_refl _
  | writelnLine | identifier | integer | real => exact List.suffix_cons _ _
  | lastStatement _ inside | statement _ _ inside | branch _ inside | alone _ inside => exact inside
  | gap _ _ inside | writeArgument _ _ inside | negation _ _ inside =>
      exact inside.trans (List.suffix_cons _ _)
  | compoundStatement _ _ _ inside | group _ _ _ inside =>
      exact ((List.suffix_cons _ _).trans inside).trans (List.suffix_cons _ _)
  | program _ _ _ _ _ inside => exact ((List.suffix_cons _ _).trans inside).trans ⟨[_, _, _], rfl⟩
  | nextStatement _ _ _ first others | comparison _ _ _ first others =>
      exact others.trans ((List.suffix_cons _ _).trans first)
  | unsigned _ _ first others | term _ _ first others => exact others.trans first
  | signed _ _ _ first others | furtherTerm _ _ _ first others | furtherFactor _ _ _ first others =>
      exact (others.trans first).trans (List.suffix_cons _ _)
  | assignment _ _ _ value => exact value.trans ⟨[_, _], rfl⟩
  | repeatStatement _ _ _ _ first others | whileStatement _ _ _ _ first others
  | ifThen _ _ _ _ first others =>
      exact (others.trans ((List.suffix_cons _ _).trans first)).trans (List.suffix_cons _ _)
  | ifElse _ _ _ _ _ _ condition branch otherwise =>
      have inside := otherwise.trans ((List.suffix_cons _ _).trans branch)
      exact (inside.trans ((List.suffix_cons _ _).trans condition)).trans (List.suffix_cons _ _)
  | writeStatement _ _ _ _ inside | writelnStatement _ _ _ _ inside =>
      exact ((List.suffix_cons _ _).trans inside).trans ⟨[_, _], rfl⟩
  | width => exact ⟨[_, _], rfl⟩
  | places => exact ⟨[_, _, _, _], rfl⟩

end MiniPascal
