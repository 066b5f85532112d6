/-
This file reads an expression and a statement again off the tokens of which their texts are written.
-/

import MiniPascal.Proofs.Parsing.FaithfulTrees
import MiniPascal.Proofs.Trees.Printed

namespace MiniPascal

open Parse

/-- A node apart from its line, and a negation apart from its spelling. -/
def Label.core (label : Label) : Label :=
  { label with
    line := 0
    text := if label.kind = .unary .negation then none else label.text }

/-- A tree apart from the lines of its nodes and the spelling of its negations. -/
def Tree.core (tree : Tree) : Tree := tree.relabel Label.core

@[simp] theorem Tree.core_node (label : Label) (children : List Tree) :
    (Tree.node label children).core = .node label.core (children.map Tree.core) := by
  rw [core, relabel, relabelAll_eq_map]
  rfl

@[simp] theorem Mark.core_label (mark : Mark) (kind : NodeKind) (value : Value) :
    (mark.label kind value).core =
      ⟨kind, 0, if kind = .unary .negation then none else some mark.text, value, none⟩ := rfl

@[simp] theorem core_plainLabel (kind : NodeKind) (line : Nat) :
    (plainLabel kind line).core = plainLabel kind 0 := by
  rw [Label.core, plainLabel, ite_self]
  rfl

@[simp] theorem Variable.core_toTree (source : Variable) : source.toTree.core =
    .node ⟨.reference, 0, some source.mark.text, .nothing, some source.binding⟩ [] := rfl

/-- An operand is a factor, with a sign in front of it where one is admitted. -/
inductive OperandReading (table : SymbolTable) :
    Bool → List Token → Expression → List Token → Prop where
  | factor {signed : Bool} {found : Expression} {tokens rest : List Token}
      (reading : ExpressionReading table .factor tokens found rest) :
      OperandReading table signed tokens found rest
  | signed {operator : UnaryOperator} {sign : Token} {operand : Expression}
      {tokens rest : List Token} (kind : sign? sign.kind = some operator)
      (reading : ExpressionReading table .factor tokens operand rest) :
      OperandReading table true (sign :: tokens) (.unary operator sign.mark operand) rest

section Operands

variable {table : SymbolTable} {signed : Bool} {found : Expression} {tokens rest : List Token}

/-- No factor starts with a sign. -/
theorem ExpressionReading.noSign (reading : ExpressionReading table .factor tokens found rest) :
    sign? (nextKind tokens) = none := by
  cases reading with
  | reference kind | integer kind | real kind | group kind | negation kind =>
      rw [nextKind, kind]
      rfl

/-- An operand starts a sum where no factor comes behind it. -/
theorem OperandReading.simple (reading : OperandReading table signed tokens found rest)
    (stops : (nextKind rest).isMultiplyingOperator = false) :
    Layer.simple.Reads table tokens rest found := by
  have ended {first : Expression} :
      ExpressionReading table (.chain .multiplying first) rest first rest :=
    .chainEnd (Rank.operator?_eq_none stops)
  cases reading with
  | factor reading =>
      exact fun whole last chain => .unsigned reading.noSign (.term reading ended) chain
  | signed kind reading =>
      exact fun whole last chain => .signed kind (.term reading ended) chain

theorem relational?_eq_none {kind : Kind} (stops : kind.isRelationalOperator = false) :
    relational? kind = none := by
  have isNone := relational?_isSome kind
  rwa [stops, Option.isSome_eq_false_iff, Option.isNone_iff_eq_none] at isNone

/-- An operand is a whole expression where no operator comes behind it. -/
theorem OperandReading.whole (reading : OperandReading table signed tokens found rest)
    (stops : (nextKind rest).isOperator = false) :
    ExpressionReading table .whole tokens found rest := by
  simp only [Kind.isOperator, Bool.or_eq_false_iff] at stops
  obtain ⟨⟨noFactor, noTerm⟩, noComparison⟩ := stops
  exact .alone ((reading.simple noFactor).simple noTerm) (relational?_eq_none noComparison)

/-- Beside a multiplying operator no sign is admitted. -/
theorem admitsSign_of_multiplies {kind : Kind} {operator : BinaryOperator}
    (multiplies : Rank.multiplying.operator? kind = some operator) :
    (Place.left operator).admitsSign = false ∧ (Place.right operator).admitsSign = false := by
  cases kind with
  | symbol mark => cases mark <;> cases multiplies <;> exact ⟨rfl, rfl⟩
  | keyword word => cases word <;> cases multiplies <;> exact ⟨rfl, rfl⟩
  | _ => cases multiplies

/-- Behind an adding operator no sign is admitted. -/
theorem admitsSign_of_adds {kind : Kind} {operator : BinaryOperator}
    (adds : Rank.adding.operator? kind = some operator) :
    (Place.right operator).admitsSign = false := by
  cases kind with
  | symbol mark => cases mark <;> cases adds <;> rfl
  | keyword word =>
      cases word <;> cases adds
      rfl
  | _ => cases adds

theorem OperandReading.toFactor (reading : OperandReading table signed tokens found rest)
    (unsigned : signed = false) : ExpressionReading table .factor tokens found rest := by
  cases reading with
  | factor reading => exact reading
  | signed => cases unsigned

/-- Two operands with an operator between them are a whole expression where no operator comes behind
them. -/
theorem OperandReading.binary {operator : BinaryOperator} {sign : Token} {left right : Expression}
    {middle : List Token} (operates : sign.kind.Operates operator)
    (first : OperandReading table (Place.left operator).admitsSign tokens left (sign :: middle))
    (second : OperandReading table (Place.right operator).admitsSign middle right rest)
    (stops : (nextKind rest).isOperator = false) :
    ExpressionReading table .whole tokens (.binary operator sign.mark left right) rest := by
  simp only [Kind.isOperator, Bool.or_eq_false_iff] at stops
  obtain ⟨⟨noFactor, noTerm⟩, noComparison⟩ := stops
  have ended := relational?_eq_none noComparison
  cases operates with
  | chained rank found =>
      cases rank with
      | multiplying =>
          obtain ⟨leftUnsigned, rightUnsigned⟩ := admitsSign_of_multiplies found
          have factor := first.toFactor leftUnsigned
          have front : Rank.multiplying.layer.Reads table tokens (sign :: middle) left :=
            fun whole last chain => .term factor chain
          have product : Layer.term.Reads table tokens rest _ :=
            front.chainNext found (second.toFactor rightUnsigned)
          exact .alone (.unsigned factor.noSign (product.term noFactor)
            (.chainEnd (Rank.operator?_eq_none noTerm))) ended
      | adding =>
          have noProduct := Kind.noFactor_of_adds (Rank.isAddingOperator found)
          have factor := second.toFactor (admitsSign_of_adds found)
          have term : ExpressionReading table .term middle right rest :=
            .term factor (.chainEnd (Rank.operator?_eq_none noFactor))
          have front : Rank.adding.layer.Reads table tokens (sign :: middle) left :=
            first.simple noProduct
          have sum : Layer.simple.Reads table tokens rest _ := front.chainNext found term
          exact .alone (sum.simple noTerm) ended
  | compared found =>
      have compares := relational?_isRelational found
      have left := (first.simple (Kind.noFactor_of_compares compares)).simple
        (Kind.noTerm_of_compares compares)
      exact .compared left found ((second.simple noFactor).simple noTerm)

end Operands

/-- Where a sign stands, a negation behind it stands as the sign does. -/
theorem Place.admitsNegation_of_signed {place : Place} (signs : place.admitsSign = true)
    (admits : (Place.signed place.isLeft).admitsNegation = true) :
    place.admitsNegation = true := by
  cases place with
  | whole | right | negated => rfl
  | left => cases admits
  | signed => cases signs

theorem exists_token {tokens : List Token} {content : Kind × String}
    (written : tokens.map Token.content = [content]) :
    ∃ token, tokens = [token] ∧ token.kind = content.1 ∧ token.text = content.2 := by
  obtain ⟨token, others, rfl, rfl, empty⟩ := List.map_eq_cons_iff.mp written
  obtain rfl := List.map_eq_nil_iff.mp empty
  exact ⟨token, rfl, rfl, rfl⟩

/-- An expression is read again off its tokens. Where a negation is admitted, no operator may come
behind them. -/
theorem Expression.Printed.reads {table : SymbolTable} {source : Expression}
    {contents : List (Kind × String)} (printed : source.Printed table contents) :
    ∀ {place : Place} {tokens rest : List Token}, source.toTree.standsAt place = true →
      tokens.map Token.content = contents →
      (place.admitsNegation = true → (nextKind rest).isOperator = false) →
      ∃ copy : Expression, copy.toTree.core = source.toTree.core ∧
        OperandReading table place.admitsSign (tokens ++ rest) copy rest := by
  induction printed with
  | @reference source cell word known same =>
      intro place tokens rest _ written _
      obtain ⟨token, rfl, kind, text⟩ := exists_token written
      refine ⟨.reference ⟨token.mark, cell.binding⟩, ?_, .factor (.reference kind (text ▸ known))⟩
      simp [Expression.toTree, text, same]
  | @integer mark number word =>
      intro place tokens rest _ written _
      obtain ⟨token, rfl, kind, text⟩ := exists_token written
      refine ⟨.integer token.mark number, ?_, .factor (.integer kind)⟩
      simp [Expression.toTree, text]
  | @real mark number word =>
      intro place tokens rest _ written _
      obtain ⟨token, rfl, kind, text⟩ := exists_token written
      refine ⟨.real token.mark number, ?_, .factor (.real kind)⟩
      simp [Expression.toTree, text]
  | @negation mark operand contents inside inductionHypothesis =>
      intro place tokens rest stands written stops
      obtain ⟨token, others, rfl, content, written⟩ := List.map_eq_cons_iff.mp written
      obtain ⟨admits, stands⟩ := Bool.and_eq_true_iff.mp stands
      obtain ⟨copy, same, reading⟩ := inductionHypothesis stands written fun _ => stops admits
      refine ⟨.unary .negation token.mark copy, ?_,
        .factor (.negation (congrArg Prod.fst content) (reading.whole (stops admits)))⟩
      simp [Expression.toTree, same]
  | @sign operator mark symbol operand contents found text inside inductionHypothesis =>
      intro place tokens rest stands written stops
      obtain ⟨token, others, rfl, content, written⟩ := List.map_eq_cons_iff.mp written
      obtain ⟨kind, spelling⟩ := Prod.mk.inj content
      have stands :
          (place.admitsSign && operand.toTree.standsAt (.signed place.isLeft)) = true := by
        cases symbol <;> cases found <;> exact stands
      obtain ⟨admits, stands⟩ := Bool.and_eq_true_iff.mp stands
      obtain ⟨copy, same, reading⟩ := inductionHypothesis stands written fun negates =>
        stops (Place.admitsNegation_of_signed admits negates)
      rw [admits]
      refine ⟨.unary operator token.mark copy, ?_,
        .signed (by rw [kind, found]) (reading.toFactor rfl)⟩
      simp [Expression.toTree, same, text, spelling]
  | @binary operator mark kind left right first second word operates _ _ leftReads rightReads =>
      intro place tokens rest stands written _
      obtain ⟨opening, others, rfl, opens, written⟩ := List.map_eq_cons_iff.mp written
      obtain ⟨front, others, rfl, frontWritten, written⟩ := List.map_eq_append_iff.mp written
      obtain ⟨sign, others, rfl, content, written⟩ := List.map_eq_cons_iff.mp written
      obtain ⟨back, others, rfl, backWritten, written⟩ := List.map_eq_append_iff.mp written
      obtain ⟨closing, rfl, closes, _⟩ := exists_token written
      obtain ⟨rfl, text⟩ := Prod.mk.inj content
      obtain ⟨leftStands, rightStands⟩ := Bool.and_eq_true_iff.mp stands
      have ended : (nextKind (closing :: rest)).isOperator = false := by
        rw [nextKind, closes]
        rfl
      obtain ⟨leftCopy, leftSame, leftReading⟩ :=
        @leftReads (.left operator) front (sign :: (back ++ closing :: rest)) leftStands
          frontWritten fun admits => by cases admits
      obtain ⟨rightCopy, rightSame, rightReading⟩ :=
        rightReads rightStands backWritten fun _ => ended
      have whole := leftReading.binary operates rightReading ended
      refine ⟨.binary operator sign.mark leftCopy rightCopy, ?_, .factor ?_⟩
      · simp [Expression.toTree, leftSame, rightSame, text]
      · have reading := ExpressionReading.group (congrArg Prod.fst opens) whole closes
        simpa using reading

section Statements

variable {table : SymbolTable} {tokens : List Token}

/-- An item is read again off its token. -/
theorem Item.Printed.reads {item : Item} {token : Token}
    (printed : item.Printed table token.content) :
    ∃ copy : Item, copy.toTree.core = item.toTree.core ∧ ItemReading table token copy := by
  generalize same : token.content = content at printed
  cases printed with
  | @reference source cell word known binding =>
      obtain ⟨kind, text⟩ := Prod.mk.inj same
      refine ⟨.reference ⟨token.mark, cell.binding⟩, ?_, .reference kind (text ▸ known)⟩
      simp [Item.toTree, text, binding]
  | @string mark content kind word value =>
      obtain ⟨rfl, text⟩ := Prod.mk.inj same
      refine ⟨.string token.mark content, ?_, ?_⟩
      · simp [Item.toTree, text]
      · cases kind : token.kind with
        | string found =>
            rw [kind] at value
            cases value
            exact .string kind
        | character found =>
            rw [kind] at value
            cases value
            exact .character kind
        | _ =>
            rw [kind] at value
            cases value

/-- A layout is read again off its tokens, up to the closing parenthesis. -/
theorem Format.reads {format : Format} {closing : Kind × String}
    (closes : closing.1.isSymbol .colon = false)
    (written : tokens.map Token.content = format.widths.flatMap Width.contents ++ [closing]) :
    ∃ copy last, copy.toTrees.map Tree.core = format.toTrees.map Tree.core ∧
      last.content = closing ∧ FormatReading tokens copy [last] := by
  have core {token : Token} {width : Width} (text : token.text = width.mark.text) :
      (Width.toTree ⟨token.mark, width.number⟩).core = width.toTree.core := by
    simp [Width.toTree, text]
  cases format with
  | plain =>
      obtain ⟨last, rfl, kind, text⟩ := exists_token written
      exact ⟨.plain, last, rfl, Prod.ext kind text, .plain (by rw [nextKind, kind, closes])⟩
  | field width =>
      obtain ⟨colon, others, rfl, colonContent, written⟩ := List.map_eq_cons_iff.mp written
      obtain ⟨field, others, rfl, fieldContent, written⟩ := List.map_eq_cons_iff.mp written
      obtain ⟨last, rfl, kind, text⟩ := exists_token written
      obtain ⟨fieldKind, fieldText⟩ := Prod.mk.inj fieldContent
      refine ⟨.field ⟨field.mark, width.number⟩, last, ?_, Prod.ext kind text,
        .field (congrArg Prod.fst colonContent) fieldKind (by rw [nextKind, kind, closes])⟩
      exact congrArg (fun tree => [tree]) (core fieldText)
  | fixed width places =>
      obtain ⟨colon, others, rfl, colonContent, written⟩ := List.map_eq_cons_iff.mp written
      obtain ⟨field, others, rfl, fieldContent, written⟩ := List.map_eq_cons_iff.mp written
      obtain ⟨second, others, rfl, secondContent, written⟩ := List.map_eq_cons_iff.mp written
      obtain ⟨count, others, rfl, countContent, written⟩ := List.map_eq_cons_iff.mp written
      obtain ⟨last, rfl, kind, text⟩ := exists_token written
      obtain ⟨fieldKind, fieldText⟩ := Prod.mk.inj fieldContent
      obtain ⟨countKind, countText⟩ := Prod.mk.inj countContent
      refine ⟨.fixed ⟨field.mark, width.number⟩ ⟨count.mark, places.number⟩, last, ?_,
        Prod.ext kind text, .fixed (congrArg Prod.fst colonContent) fieldKind
          (congrArg Prod.fst secondContent) countKind⟩
      exact congrArg₂ (fun first second => [first, second]) (core fieldText) (core countText)

theorem Argument.Printed.reads {argument : Argument} {contents : List (Kind × String)}
    (printed : argument.Printed table contents) (written : tokens.map Token.content = contents) :
    ∃ copy : Argument, copy.toTrees.map Tree.core = argument.toTrees.map Tree.core ∧
      ArgumentReading table tokens copy [] := by
  cases printed with
  | @argument item format content itemPrinted words =>
      obtain ⟨opening, others, rfl, opens, written⟩ := List.map_eq_cons_iff.mp written
      obtain ⟨token, others, rfl, rfl, layoutWritten⟩ := List.map_eq_cons_iff.mp written
      obtain ⟨copy, same, itemReading⟩ := itemPrinted.reads
      obtain ⟨layout, last, layoutSame, closes, formatReading⟩ := Format.reads rfl layoutWritten
      refine ⟨⟨copy, layout⟩, ?_, .argument (congrArg Prod.fst opens) itemReading formatReading
        (congrArg Prod.fst closes)⟩
      rw [Argument.toTrees, Argument.toTrees, List.map_cons, List.map_cons, same, layoutSame]

/-- A statement is read again off its tokens. -/
theorem Statement.Printed.reads {statement : Statement} {contents : List (Kind × String)}
    (printed : statement.Printed table contents) (alone : statement.toTree.standsAlone = true)
    (written : tokens.map Token.content = contents) :
    ∃ copy : Statement, copy.toTree.core = statement.toTree.core ∧
      StatementReading .statement table tokens [copy] table [] := by
  cases printed with
  | @assign line target value cell contents word known same valuePrinted =>
      obtain ⟨token, others, rfl, content, written⟩ := List.map_eq_cons_iff.mp written
      obtain ⟨sign, others, rfl, assigns, written⟩ := List.map_eq_cons_iff.mp written
      obtain ⟨kind, text⟩ := Prod.mk.inj content
      obtain ⟨copy, copySame, reading⟩ :=
        @Expression.Printed.reads _ _ _ valuePrinted .whole others [] alone written fun _ => rfl
      have entered : table.enter token.text = table :=
        SymbolTable.enter_of_contains (by rw [SymbolTable.contains, text, known]; rfl)
      have cellFound : table.entered target.mark.text = cell := by
        rw [SymbolTable.entered, known]
        rfl
      have reading : ExpressionReading (table.enter token.text) .whole others copy [] := by
        rw [entered, ← List.append_nil others]
        exact reading.whole rfl
      refine ⟨.assign token.line ⟨token.mark, (table.entered token.text).binding⟩ copy, ?_, ?_⟩
      · simp [Statement.toTree, copySame, text, same, cellFound]
      · have whole := StatementReading.assign kind (congrArg Prod.fst assigns) reading
        rwa [entered] at whole
  | write inside =>
      obtain ⟨opening, others, rfl, content, written⟩ := List.map_eq_cons_iff.mp written
      obtain ⟨copy, same, reading⟩ := inside.reads written
      refine ⟨.write opening.line copy, ?_, .write (congrArg Prod.fst content) reading⟩
      simp [Statement.toTree, same]
  | writeln inside =>
      obtain ⟨opening, others, rfl, content, written⟩ := List.map_eq_cons_iff.mp written
      obtain ⟨copy, same, reading⟩ := inside.reads written
      refine ⟨.writeln opening.line (some copy), ?_, .writeln (congrArg Prod.fst content) reading⟩
      simp [Statement.toTree, same]
  | writelnPlain =>
      obtain ⟨opening, rfl, kind, _⟩ := exists_token written
      exact ⟨.writeln opening.line none, rfl, .writelnPlain kind rfl⟩

end Statements

end MiniPascal
