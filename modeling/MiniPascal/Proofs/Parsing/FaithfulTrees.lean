/-
This file shows that the tree of an expression is faithful to its tokens: its listing gives them
back without their parentheses, and no other tree of the layered grammar has them.
-/

import MiniPascal.Lowering
import MiniPascal.Proofs.Parsing.Phrases
import MiniPascal.Proofs.Trees.Relabel

namespace MiniPascal

open Parse

/-- What a phrase derives before any other tokens. A term and a simple expression may go on with
further operands. -/
def Layer.Spans : Layer → List Token → Prop
  | .factor, tokens => ∀ rest, Derives .factor (tokens ++ rest) rest
  | .term, tokens => ∀ more rest, Derives .furtherFactors more rest →
      Derives .term (tokens ++ more) rest
  | .simple, tokens => ∀ more rest, Derives .furtherTerms more rest →
      Derives .simpleExpression (tokens ++ more) rest
  | .whole, tokens => ∀ rest, Derives .expression (tokens ++ rest) rest

theorem Layer.Spans.derives {layer : Layer} {tokens : List Token} (spans : layer.Spans tokens)
    (rest : List Token) : Derives layer.level.phrase (tokens ++ rest) rest := by
  cases layer with
  | factor => exact spans rest
  | term => exact spans rest rest .noFurtherFactor
  | simple => exact spans rest rest .noFurtherTerm
  | whole => exact spans rest

theorem Rank.isAddingOperator {kind : Kind} {operator : BinaryOperator}
    (found : Rank.adding.operator? kind = some operator) : kind.isAddingOperator = true := by
  rw [← adding?_isSome, show Parse.adding? kind = _ from found]
  rfl

theorem Rank.isMultiplyingOperator {kind : Kind} {operator : BinaryOperator}
    (found : Rank.multiplying.operator? kind = some operator) :
    kind.isMultiplyingOperator = true := by
  rw [← multiplying?_isSome, show Parse.multiplying? kind = _ from found]
  rfl

section Apart

variable {kind : Kind}

theorem Kind.noFactor_of_adds (adds : kind.isAddingOperator = true) :
    kind.isMultiplyingOperator = false := by
  refine Bool.eq_false_iff.mpr fun multiplies => ?_
  simpa [adds] using kind.rank_unique.1 multiplies

theorem Kind.noFactor_of_compares (compares : kind.isRelationalOperator = true) :
    kind.isMultiplyingOperator = false := by
  refine Bool.eq_false_iff.mpr fun multiplies => ?_
  simpa [compares] using kind.rank_unique.2.1 multiplies

theorem Kind.noTerm_of_compares (compares : kind.isRelationalOperator = true) :
    kind.isAddingOperator = false := by
  refine Bool.eq_false_iff.mpr fun adds => ?_
  simpa [compares] using kind.rank_unique.2.2 adds

end Apart

theorem relational?_isRelational {kind : Kind} {operator : BinaryOperator}
    (found : Parse.relational? kind = some operator) : kind.isRelationalOperator = true := by
  rw [← relational?_isSome, found]
  rfl

/-- Every phrase is derived from its tokens. -/
theorem Phrase.spans {layer : Layer} {behind tokens : List Token} {found : Expression}
    (phrase : Phrase layer behind tokens found) : layer.Spans tokens := by
  induction phrase with
  | reference kind => exact fun _ => .identifier kind
  | integer kind => exact fun _ => .integer kind
  | real kind => exact fun _ => .real kind
  | group opens _ closes inside =>
      intro rest
      rw [List.cons_append, List.append_assoc]
      exact .group opens (inside _) closes
  | negation kind _ _ inside => exact fun rest => .negation kind (inside rest)
  | @operand rank _ _ _ _ inside =>
      cases rank with
      | multiplying => exact fun more rest others => .term (inside more) others
      | adding => exact fun more rest others => .unsigned (inside.derives more) others
  | @chained rank _ _ _ _ _ _ _ _ kind _ first second =>
      cases rank with
      | multiplying =>
          intro more rest others
          rw [List.append_assoc, List.cons_append]
          exact first _ _ (.furtherFactor (Rank.isMultiplyingOperator kind) (second more) others)
      | adding =>
          intro more rest others
          rw [List.append_assoc, List.cons_append]
          exact first _ _ (.furtherTerm (Rank.isAddingOperator kind) (second.derives more) others)
  | signed kind _ inside =>
      exact fun more rest others =>
        .signed (by rw [← sign?_isSome, kind]; rfl) (inside.derives more) others
  | alone _ inside => exact fun rest => .alone (inside.derives rest)
  | compared _ kind _ first second =>
      intro rest
      rw [List.append_assoc, List.cons_append]
      exact .comparison (first.derives _) (relational?_isRelational kind) (second.derives rest)

theorem Phrase.derives {layer : Layer} {behind tokens : List Token} {found : Expression}
    (phrase : Phrase layer behind tokens found) : Derives layer.level.phrase tokens [] := by
  simpa using phrase.spans.derives []

/-- Where an operator comes next, its operand stands behind it. -/
inductive OperandBehind : List Token → Prop where
  | ended {behind : List Token} (ends : (nextKind behind).isOperator = false) : OperandBehind behind
  | multiplied {sign : Token} {tokens behind : List Token}
      (multiplies : sign.kind.isMultiplyingOperator = true) (operand : Derives .factor tokens []) :
      OperandBehind (sign :: (tokens ++ behind))
  | added {sign : Token} {tokens behind : List Token}
      (adds : sign.kind.isAddingOperator = true) (operand : Derives .term tokens []) :
      OperandBehind (sign :: (tokens ++ behind))
  | compared {sign : Token} {tokens behind : List Token}
      (compares : sign.kind.isRelationalOperator = true)
      (operand : Derives .simpleExpression tokens []) : OperandBehind (sign :: (tokens ++ behind))

/-- No operator takes the expression of the tokens as a part of its left operand. -/
structure Finished (tokens behind : List Token) : Prop where
  noFactor : (nextKind behind).isMultiplyingOperator = false
  noTerm : (nextKind behind).isAddingOperator = false
  noComparison : Layer.simple.Spans tokens →
    (nextKind behind).isRelationalOperator = false

theorem Finished.ofEnd {tokens behind : List Token} (ends : (nextKind behind).isOperator = false) :
    Finished tokens behind := by
  simp only [Kind.isOperator, Bool.or_eq_false_iff] at ends
  exact ⟨ends.1.1, ends.1.2, fun _ => ends.2⟩

/-- An expression with operators and operands behind it is an expression. -/
theorem Derives.extended {tokens more : List Token}
    (derives : Derives .expression (tokens ++ more) more) (tail : OperatorTail 0 more []) :
    Derives .expression (tokens ++ more) [] := by
  obtain ⟨table, knows⟩ := SymbolTable.exists_knowsAll (tokens ++ more)
  obtain ⟨found, last, reading, left, exhausted, _⟩ :=
    readsLevel_whole (readsLevel_factor (tokens ++ more).length) derives tail rfl (Nat.le_refl _)
      knows.readsKnown
  obtain rfl := left.ended exhausted
  exact reading.derives

/-- An expression that cannot be continued has no operator behind it which could take it. -/
theorem OperandBehind.finished {tokens behind : List Token} (sound : OperandBehind behind)
    (spans : Layer.whole.Spans tokens)
    (longest : ∀ more, more <+: behind → more ≠ [] → ¬Derives .expression (tokens ++ more) []) :
    Finished tokens behind := by
  cases sound with
  | ended ends => exact .ofEnd ends
  | @multiplied sign used rest multiplies operand =>
      exact absurd ((spans _).extended (.multiplied multiplies operand .done))
        (longest (sign :: used) ⟨rest, rfl⟩ (List.cons_ne_nil _ _))
  | @added sign used rest adds operand =>
      exact absurd ((spans _).extended (.added adds operand .done))
        (longest (sign :: used) ⟨rest, rfl⟩ (List.cons_ne_nil _ _))
  | @compared sign used rest compares operand =>
      have noFactor := Kind.noFactor_of_compares compares
      refine ⟨noFactor, Kind.noTerm_of_compares compares, fun simple => ?_⟩
      exact absurd (.comparison (simple.derives _) compares operand)
        (longest (sign :: used) ⟨rest, rfl⟩ (List.cons_ne_nil _ _))

theorem Rank.operator?_eq_none {rank : Rank} {kind : Kind} (missed : rank.operates kind = false) :
    rank.operator? kind = none := by
  have isNone := rank.operator?_isSome kind
  rwa [missed, Option.isSome_eq_false_iff, Option.isNone_iff_eq_none] at isNone

namespace Layer

variable {table : SymbolTable} {behind tokens : List Token} {copy : Expression}

/-- What has to come behind a phrase so that it is read to its end. -/
def Ends : Layer → List Token → List Token → Prop
  | .factor, _, _ => True
  | .term, _, _ => True
  | .simple, _, behind => (nextKind behind).isMultiplyingOperator = false
  | .whole, tokens, behind => Finished tokens behind

/-- A phrase is read. A term and a simple expression are read with the chain that goes on behind
them. -/
def Reads (table : SymbolTable) : Layer → List Token → List Token → Expression → Prop
  | .factor, tokens, behind, copy => ExpressionReading table .factor tokens copy behind
  | .term, tokens, behind, copy => ∀ whole rest,
      ExpressionReading table (.chain .multiplying copy) behind whole rest →
        ExpressionReading table .term tokens whole rest
  | .simple, tokens, behind, copy => ∀ whole rest,
      ExpressionReading table (.chain .adding copy) behind whole rest →
        ExpressionReading table .simple tokens whole rest
  | .whole, tokens, behind, copy => ExpressionReading table .whole tokens copy behind

theorem Reads.term (reads : Layer.term.Reads table tokens behind copy)
    (ends : (nextKind behind).isMultiplyingOperator = false) :
    ExpressionReading table .term tokens copy behind :=
  reads copy behind (.chainEnd (Rank.operator?_eq_none ends))

theorem Reads.simple (reads : Layer.simple.Reads table tokens behind copy)
    (ends : (nextKind behind).isAddingOperator = false) :
    ExpressionReading table .simple tokens copy behind :=
  reads copy behind (.chainEnd (Rank.operator?_eq_none ends))

/-- The operand of a rank is read when nothing of the rank comes behind its chain. -/
theorem Reads.operand {rank : Rank} {chained : List Token}
    (reads : rank.inner.Reads table tokens behind copy) (ends : rank.layer.Ends chained behind) :
    ExpressionReading table rank.operand tokens copy behind := by
  cases rank with
  | multiplying => exact reads
  | adding => exact reads.term ends

/-- A chain is read with the operator and the operand behind it. -/
theorem Reads.chainNext {rank : Rank} {operator : BinaryOperator} {sign : Token}
    {middle : List Token} {left right : Expression}
    (reads : rank.layer.Reads table tokens (sign :: middle) left)
    (kind : rank.operator? sign.kind = some operator)
    (operand : ExpressionReading table rank.operand middle right behind) :
    rank.layer.Reads table tokens behind (.binary operator sign.mark left right) := by
  cases rank with
  | multiplying | adding =>
      exact fun whole rest chain => reads whole rest (.chainNext kind operand chain)

theorem Ends.ofInner (rank : Rank) : rank.inner.Ends tokens behind := by
  cases rank <;> trivial

/-- Before an operator of its rank a chain is read to its end. -/
theorem Ends.ofChained {rank : Rank} {operator : BinaryOperator} {sign : Token}
    (kind : rank.operator? sign.kind = some operator) :
    rank.layer.Ends tokens (sign :: behind) := by
  cases rank with
  | multiplying => trivial
  | adding => exact Kind.noFactor_of_adds (Rank.isAddingOperator kind)

end Layer

theorem OperandBehind.ofChained {rank : Rank} {operator : BinaryOperator} {sign : Token}
    {tokens behind : List Token} (kind : rank.operator? sign.kind = some operator)
    (operand : Derives rank.inner.level.phrase tokens []) :
    OperandBehind (sign :: (tokens ++ behind)) := by
  cases rank with
  | multiplying => exact .multiplied (Rank.isMultiplyingOperator kind) operand
  | adding => exact .added (Rank.isAddingOperator kind) operand

/-- No term starts with a sign. -/
theorem Layer.Spans.noSign {tokens : List Token} (spans : Layer.term.Spans tokens)
    (behind : List Token) : Parse.sign? (nextKind (tokens ++ behind)) = none := by
  cases spans.derives behind with
  | term first => exact sign?_of_factor first

/-- A phrase is read with its own tree when all names are known. -/
theorem Phrase.reads {layer : Layer} {behind tokens : List Token} {found : Expression}
    (phrase : Phrase layer behind tokens found) {table : SymbolTable}
    (knows : table.KnowsAll tokens) (sound : OperandBehind behind)
    (ends : layer.Ends tokens behind) :
    ∃ copy : Expression, copy.toTree.bare = found.toTree.bare ∧
      layer.Reads table (tokens ++ behind) behind copy := by
  induction phrase with
  | @reference token binding behind kind =>
      obtain ⟨cell, known⟩ := Option.isSome_iff_exists.mp (knows token List.mem_cons_self)
      refine ⟨.reference ⟨token.mark, cell.binding⟩, ?_, .reference kind known⟩
      simp [Expression.toTree, Variable.toTree, Label.bare]
  | integer kind => exact ⟨_, rfl, .integer kind⟩
  | real kind => exact ⟨_, rfl, .real kind⟩
  | @group opening closing tokens behind found opens _ closes inside =>
      have ended : (nextKind (closing :: behind)).isOperator = false := by
        rw [nextKind, closes]
        rfl
      have known : table.KnowsAll tokens := fun token member =>
        knows token (List.mem_cons_of_mem _ (List.mem_append_left _ member))
      obtain ⟨copy, same, reading⟩ := inside known (.ended ended) (.ofEnd ended)
      refine ⟨copy, same, ?_⟩
      rw [List.cons_append, List.append_assoc]
      exact .group opens reading closes
  | negation kind phrase longest inside =>
      obtain ⟨copy, same, reading⟩ := inside (List.forall_mem_cons.mp knows).2 sound
        (sound.finished phrase.spans longest)
      exact ⟨_, by simp [Expression.toTree, same], .negation kind reading⟩
  | @operand rank tokens behind _ phrase inside =>
      obtain ⟨copy, same, reading⟩ := inside knows sound (.ofInner rank)
      refine ⟨copy, same, ?_⟩
      cases rank with
      | multiplying => exact fun whole rest chain => .term reading chain
      | adding =>
          have noSign := phrase.spans.noSign behind
          exact fun whole rest chain => .unsigned noSign (reading.term ends) chain
  | @chained rank operator sign front tokens behind _ _ _ kind phrase first second =>
      obtain ⟨knowsFront, knowsTokens⟩ := List.forall_mem_append.mp knows
      have knowsRight : table.KnowsAll tokens := (List.forall_mem_cons.mp knowsTokens).2
      rw [List.append_assoc, List.cons_append]
      obtain ⟨left, sameLeft, readingLeft⟩ :=
        first knowsFront (.ofChained kind phrase.derives) (.ofChained kind)
      obtain ⟨right, sameRight, readingRight⟩ := second knowsRight sound (.ofInner rank)
      refine ⟨.binary operator sign.mark left right, ?_, ?_⟩
      · simp [Expression.toTree, sameLeft, sameRight]
      · exact readingLeft.chainNext kind (readingRight.operand ends)
  | @signed operator sign tokens behind _ kind phrase inside =>
      obtain ⟨copy, same, reading⟩ := inside (List.forall_mem_cons.mp knows).2 sound trivial
      refine ⟨.unary operator sign.mark copy, by simp [Expression.toTree, same],
        fun whole rest chain => ?_⟩
      exact .signed kind (reading.term ends) chain
  | @alone tokens behind found phrase inside =>
      obtain ⟨copy, same, reading⟩ := inside knows sound ends.noFactor
      refine ⟨copy, same, .alone (reading.simple ends.noTerm) ?_⟩
      have isNone := relational?_isSome (nextKind behind)
      rwa [ends.noComparison phrase.spans, Option.isSome_eq_false_iff,
        Option.isNone_iff_eq_none] at isNone
  | @compared operator sign front tokens behind left right _ kind phrase first second =>
      obtain ⟨knowsFront, knowsTokens⟩ := List.forall_mem_append.mp knows
      have knowsRight : table.KnowsAll tokens := (List.forall_mem_cons.mp knowsTokens).2
      rw [List.append_assoc, List.cons_append]
      have compares := relational?_isRelational kind
      obtain ⟨left, sameLeft, readingLeft⟩ :=
        first knowsFront (.compared compares phrase.derives) (Kind.noFactor_of_compares compares)
      obtain ⟨right, sameRight, readingRight⟩ := second knowsRight sound ends.noFactor
      refine ⟨.binary operator sign.mark left right, ?_, ?_⟩
      · simp [Expression.toTree, sameLeft, sameRight]
      · have simpleLeft := readingLeft.simple (Kind.noTerm_of_compares compares)
        exact .compared simpleLeft kind (readingRight.simple ends.noTerm)

/-- What a phrase has behind it only bounds its negations. -/
theorem Phrase.of_prefix {layer : Layer} {behind other tokens : List Token} {found : Expression}
    (phrase : Phrase layer behind tokens found) (front : other <+: behind) :
    Phrase layer other tokens found := by
  induction phrase generalizing other with
  | reference kind => exact .reference kind
  | integer kind => exact .integer kind
  | real kind => exact .real kind
  | group opens _ closes inside =>
      exact .group opens (inside ((List.prefix_cons_inj _).mpr front)) closes
  | negation kind _ longest inside =>
      exact .negation kind (inside front) fun more start => longest more (start.trans front)
  | operand _ inside => exact .operand (inside front)
  | chained _ kind _ first second =>
      refine .chained (first ?_) kind (second front)
      exact (List.prefix_cons_inj _).mpr ((List.prefix_append_right_inj _).mpr front)
  | signed kind _ inside => exact .signed kind (inside front)
  | alone _ inside => exact .alone (inside front)
  | compared _ kind _ first second =>
      refine .compared (first ?_) kind (second front)
      exact (List.prefix_cons_inj _).mpr ((List.prefix_append_right_inj _).mpr front)

/-- Tokens have at most one tree as an expression, apart from the bindings of its variables. -/
theorem Phrase.unique {behind tokens : List Token} {found copy : Expression}
    (phrase : Phrase .whole behind tokens found) (second : Phrase .whole behind tokens copy) :
    copy.toTree.bare = found.toTree.bare := by
  obtain ⟨table, knows⟩ := SymbolTable.exists_knowsAll tokens
  have ended : (nextKind []).isOperator = false := rfl
  have alone := List.nil_prefix (l := behind)
  obtain ⟨one, same, reading⟩ :=
    (phrase.of_prefix alone).reads knows (.ended ended) (.ofEnd ended)
  obtain ⟨other, sameOther, readingOther⟩ :=
    (second.of_prefix alone).reads knows (.ended ended) (.ofEnd ended)
  obtain ⟨rfl, _⟩ := ExpressionReading.unique reading readingOther
  rw [← same, ← sameOther]

namespace Tree

/-- The labels of a tree of unary and binary operators: a unary operator comes before its operand, a
binary one between its operands. -/
def inOrder : Tree → List Label
  | .node label [left, right] => left.inOrder ++ label :: right.inOrder
  | .node label [operand] => label :: operand.inOrder
  | .node label _ => [label]

end Tree

def Kind.isParenthesis (kind : Kind) : Bool :=
  kind.isSymbol .leftParenthesis || kind.isSymbol .rightParenthesis

theorem Kind.isParenthesis_of_isOperator {kind : Kind} (operates : kind.isOperator = true) :
    kind.isParenthesis = false := by
  cases kind with
  | symbol mark => cases mark <;> first | rfl | cases operates
  | _ => rfl

/-- The spellings and lines of all tokens but parentheses. -/
def spellings (tokens : List Token) : List (Option String × Nat) :=
  (tokens.filter (!·.kind.isParenthesis)).map fun token => (some token.text, token.line)

/-- The spellings and lines of nodes. -/
def Label.spellings (labels : List Label) : List (Option String × Nat) :=
  labels.map fun label => (label.text, label.line)

@[simp] theorem spellings_append (front tokens : List Token) :
    spellings (front ++ tokens) = spellings front ++ spellings tokens := by
  simp [spellings]

theorem spellings_cons {token : Token} (shown : token.kind.isParenthesis = false)
    (rest : List Token) :
    spellings (token :: rest) = (some token.text, token.line) :: spellings rest := by
  simp [spellings, shown]

theorem spellings_parenthesis {token : Token} (hidden : token.kind.isParenthesis = true)
    (rest : List Token) : spellings (token :: rest) = spellings rest := by
  simp [spellings, hidden]

/-- The listing of the tree of a phrase gives its tokens back without the parentheses. -/
theorem Phrase.inOrder {layer : Layer} {behind tokens : List Token} {found : Expression}
    (phrase : Phrase layer behind tokens found) :
    Label.spellings found.toTree.inOrder = spellings tokens := by
  have binary {operator : BinaryOperator} {sign : Token} {front tokens : List Token}
      {left right : Expression} (shown : sign.kind.isParenthesis = false)
      (first : Label.spellings left.toTree.inOrder = spellings front)
      (second : Label.spellings right.toTree.inOrder = spellings tokens) :
      Label.spellings (Expression.binary operator sign.mark left right).toTree.inOrder =
        spellings (front ++ sign :: tokens) := by
    rw [spellings_append, spellings_cons shown, ← first, ← second]
    simp [Expression.toTree, Tree.inOrder, Label.spellings, Mark.label, Token.mark]
  have unary {operator : UnaryOperator} {sign : Token} {tokens : List Token}
      {operand : Expression} (shown : sign.kind.isParenthesis = false)
      (inside : Label.spellings operand.toTree.inOrder = spellings tokens) :
      Label.spellings (Expression.unary operator sign.mark operand).toTree.inOrder =
        spellings (sign :: tokens) := by
    rw [spellings_cons shown, ← inside]
    simp [Expression.toTree, Tree.inOrder, Label.spellings, Mark.label, Token.mark]
  induction phrase with
  | reference kind | integer kind | real kind =>
      rw [spellings_cons (by rw [kind]; rfl)]
      rfl
  | group opens _ closes inside =>
      rw [spellings_parenthesis (by rw [opens]; rfl), spellings_append,
        spellings_parenthesis (by rw [closes]; rfl), inside]
      exact (List.append_nil _).symm
  | negation kind _ _ inside => exact unary (by rw [kind]; rfl) inside
  | operand _ inside => exact inside
  | chained _ kind _ first second =>
      exact binary (Kind.isParenthesis_of_isOperator (Rank.isOperator kind)) first second
  | signed kind _ inside =>
      exact unary (Kind.isParenthesis_of_isOperator (sign?_isOperator kind)) inside
  | alone _ inside => exact inside
  | compared _ kind _ first second =>
      exact binary (Kind.isParenthesis_of_isOperator (relational?_isOperator kind)) first second

@[simp] theorem Parse.on_size (state : ParseState) :
    Parse.size.on state = ⟨.ok state.stream.size, state⟩ := rfl

/-- An expression that is parsed is a phrase of the layered grammar with the tokens that the parser
passes: no other tree has these tokens, and the listing of the tree is their listing without the
parentheses. -/
theorem expression_tree_faithful {state after : ParseState} {found : Expression}
    (parsed : Parse.expression.on state = ⟨.ok found, after⟩) :
    ∃ used rest, state.stream.current :: state.stream.rest = used ++ rest ∧
      after.stream = .before state.stream.ending rest ∧ Phrase .whole rest used found ∧
      (∀ copy, Phrase .whole rest used copy → copy.toTree.bare = found.toTree.bare) ∧
      found.toTree.inOrder.map (fun label => (label.text, label.line)) =
        (used.filter (!·.kind.isParenthesis)).map fun token => (some token.text, token.line) := by
  have run : (expressionWithin state.stream.size).on state = ⟨.ok found, after⟩ := by
    rw [← parsed, Parse.expression, on_bind, on_size]
  have reached := (expressionWithin_takes state.stream.size state).reached found (by rw [run])
  rw [run] at reached
  obtain ⟨rest, stands, ⟨used, split, phrase⟩, _⟩ :=
    reached state.stream.ending (state.stream.current :: state.stream.rest) rfl (Nat.le_refl _)
  exact ⟨used, rest, split, stands, phrase, fun _ => phrase.unique, phrase.inOrder⟩

/-- These are the tokens of `-a * NOT (1 + 2) < 3;`. -/
def comparingTokens : List Token :=
  [⟨.symbol .minus, "-", 1⟩, ⟨.identifier, "a", 1⟩, ⟨.symbol .star, "*", 1⟩,
    ⟨.keyword .notWord, "NOT", 1⟩, ⟨.symbol .leftParenthesis, "(", 2⟩, ⟨.integer 1, "1", 2⟩,
    ⟨.symbol .plus, "+", 2⟩, ⟨.integer 2, "2", 2⟩, ⟨.symbol .rightParenthesis, ")", 2⟩,
    ⟨.symbol .lessThan, "<", 3⟩, ⟨.integer 3, "3", 3⟩, ⟨.symbol .semicolon, ";", 3⟩]

def comparingTable : SymbolTable := SymbolTable.empty.enter "a"

/-- The sign covers the whole term, and the negation takes the comparison. -/
def comparingTree : Expression :=
  .unary .minus ⟨"-", 1⟩ (.binary .multiply ⟨"*", 1⟩
    (.reference ⟨⟨"a", 1⟩, (SymbolTable.empty.entered "a").binding⟩)
    (.unary .negation ⟨"NOT", 1⟩ (.binary .less ⟨"<", 3⟩
      (.binary .add ⟨"+", 2⟩ (.integer ⟨"1", 2⟩ 1) (.integer ⟨"2", 2⟩ 2)) (.integer ⟨"3", 3⟩ 3))))

theorem comparing_reading : ExpressionReading comparingTable .whole comparingTokens comparingTree
    (comparingTokens.drop 11) := by
  have group : ExpressionReading comparingTable .factor (comparingTokens.drop 4)
      (.binary .add ⟨"+", 2⟩ (.integer ⟨"1", 2⟩ 1) (.integer ⟨"2", 2⟩ 2))
      (comparingTokens.drop 9) :=
    .group rfl (.alone (.unsigned rfl (.term (.integer rfl) (.chainEnd rfl))
      (.chainNext rfl (.term (.integer rfl) (.chainEnd rfl)) (.chainEnd rfl))) rfl) rfl
  have negation : ExpressionReading comparingTable .factor (comparingTokens.drop 3)
      (.unary .negation ⟨"NOT", 1⟩ _) (comparingTokens.drop 11) :=
    .negation rfl (.compared (.unsigned rfl (.term group (.chainEnd rfl)) (.chainEnd rfl)) rfl
      (.unsigned rfl (.term (.integer rfl) (.chainEnd rfl)) (.chainEnd rfl)))
  have known := SymbolTable.lookup?_enter .empty "a"
  exact .alone (.signed rfl (.term (.reference rfl known) (.chainNext rfl negation (.chainEnd rfl)))
    (.chainEnd rfl)) rfl

theorem expression_tree_faithful_comparing :
    ∃ used rest, comparingTokens = used ++ rest ∧
      (Stream.before (.endOfText 4) (comparingTokens.drop 11)) = .before (.endOfText 4) rest ∧
      Phrase .whole rest used comparingTree ∧
      (∀ copy, Phrase .whole rest used copy → copy.toTree.bare = comparingTree.toTree.bare) ∧
      comparingTree.toTree.inOrder.map (fun label => (label.text, label.line)) =
        (used.filter (!·.kind.isParenthesis)).map fun token => (some token.text, token.line) := by
  let frame : Frame := ⟨.endOfText 4, []⟩
  have run := expressionWithin_follows frame 12 comparing_reading (by decide) fun _ => rfl
  have parsed : Parse.expression.on (frame.before comparingTable comparingTokens) =
      ⟨.ok comparingTree, frame.before comparingTable (comparingTokens.drop 11)⟩ := by
    rw [Parse.expression, on_bind, on_size, ← run]
    rfl
  exact expression_tree_faithful parsed

end MiniPascal
