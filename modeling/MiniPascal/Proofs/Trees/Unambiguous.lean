/-
This file shows that the line of text of an expression tells its tree: two expressions with the same
text differ at most in their lines, in the cells of their variables and in what their signs and
negations are read off.
-/

import MiniPascal.Graph
import MiniPascal.Proofs.Parsing.SpelledPrograms
import MiniPascal.Proofs.Trees.Printed
import MiniPascal.Proofs.Trees.Relabel
import Mathlib

namespace MiniPascal

open Lexeme

/-- A node apart from its line, its variable and the spelling of an operator before its operand. -/
def Label.shape (label : Label) : Label where
  kind := label.kind
  line := 0
  text :=
    match label.kind with
    | .unary _ => none
    | _ => label.text
  value := label.value
  binding := none

def Tree.shape (tree : Tree) : Tree := tree.relabel Label.shape

theorem Tree.shape_node (label : Label) (children : List Tree) :
    (Tree.node label children).shape = .node label.shape (children.map Tree.shape) := by
  rw [shape, relabel, relabelAll_eq_map]
  rfl

/-- An expression, or a string that is written. -/
def NodeKind.isTerm (kind : NodeKind) : Bool := kind.isExpression || kind == .stringConstant

section Surfaces

theorem surfaceText_shape (label : Label) (parts : List Surface) :
    surfaceText label.shape parts = surfaceText label parts := by
  unfold surfaceText Label.shape
  cases label.kind <;> rfl

/-- The text of a tree does not show what its shape leaves out. -/
theorem Tree.toSurface_shape (tree : Tree) : tree.shape.toSurface = tree.toSurface := by
  induction tree using Tree.inductionOn with
  | node label children inductionHypothesis =>
      have parts : (children.map Tree.shape).map Tree.toSurface = children.map Tree.toSurface := by
        rw [List.map_map]
        exact List.map_congr_left inductionHypothesis
      rw [shape_node, toSurface, toSurface, toSurfaces_eq_map, toSurfaces_eq_map, parts,
        surfaceText_shape]

theorem Tree.surface_eq_of_shape {tree other : Tree} (same : tree.shape = other.shape) :
    tree.surface = other.surface := by
  rw [surface, surface?, ← toSurface_shape, same, toSurface_shape]
  rfl

end Surfaces

section Openings

/-- A text starts with one token only. -/
theorem Lexeme.WordBefore.unique {kind other : Kind} {word spelling rest behind : List Char}
    (reads : WordBefore kind word rest) (readsOther : WordBefore other spelling behind)
    (same : word ++ rest = spelling ++ behind) :
    kind = other ∧ word = spelling ∧ rest = behind := by
  have found := reads.piece
  rw [same, readsOther.piece] at found
  obtain ⟨size, kinds⟩ := Prod.mk.inj found
  exact ⟨(Except.ok.inj kinds).symm, List.append_inj same size.symm⟩

theorem Lexeme.delimited_blank (rest : List Char) : Delimited (' ' :: rest) :=
  delimited_cons (by decide) rest

theorem Lexeme.delimited_parenthesis (rest : List Char) : Delimited (')' :: rest) :=
  delimited_cons (by decide) rest

/-- The operator between two operands that a token stands for. -/
def Kind.operator? (kind : Kind) : Option BinaryOperator :=
  (Parse.multiplying? kind).or ((Parse.adding? kind).or (Parse.relational? kind))

theorem Kind.Operates.operator? {kind : Kind} {operator : BinaryOperator}
    (operates : kind.Operates operator) : kind.operator? = some operator := by
  cases operates with
  | chained rank found =>
      cases kind with
      | symbol mark => cases rank <;> cases mark <;> first | exact found | cases found
      | keyword word => cases rank <;> cases word <;> first | exact found | cases found
      | _ => cases rank <;> cases found
  | compared found =>
      cases kind with
      | symbol mark => cases mark <;> first | exact found | cases found
      | _ => cases found

/-- A token stands for one operator only. -/
theorem Kind.Operates.unique {kind : Kind} {operator other : BinaryOperator}
    (operates : kind.Operates operator) (operatesOther : kind.Operates other) :
    operator = other :=
  Option.some.inj (operates.operator?.symm.trans operatesOther.operator?)

/-- The token that the text of a sign or a negation starts with. -/
def UnaryOperator.kind : UnaryOperator → Kind
  | .negation => .keyword .notWord
  | .minus => .symbol .minus
  | .plus => .symbol .plus

theorem UnaryOperator.kind_injective {operator other : UnaryOperator}
    (same : operator.kind = other.kind) : operator = other := by
  cases operator <;> cases other <;> first | rfl | cases same

def UnaryOperator.word : UnaryOperator → String
  | .negation => "not"
  | .minus => "-"
  | .plus => "+"

/-- What stands between an operator and its operand. -/
def UnaryOperator.gap : UnaryOperator → List Char
  | .negation => [' ']
  | .minus | .plus => []

theorem UnaryOperator.spelling_eq (operator : UnaryOperator) :
    operator.spelling.toList = operator.word.toList ++ operator.gap := by
  cases operator <;> decide

namespace Expression

/-- The token that the text of an expression starts with. -/
def openingKind : Expression → Kind
  | .reference _ => .identifier
  | .integer _ number => .integer number
  | .real _ number => .real number
  | .unary operator _ _ => operator.kind
  | .binary _ _ _ _ => .symbol .leftParenthesis

def openingText : Expression → String
  | .reference source => source.mark.text
  | .integer mark _ => mark.text
  | .real mark _ => mark.text
  | .unary operator _ _ => operator.word
  | .binary _ _ _ _ => "("

/-- The text of an expression and what comes behind it, from the second token on. -/
def behindOpening (rest : List Char) : Expression → List Char
  | .reference _ => rest
  | .integer _ _ => rest
  | .real _ _ => rest
  | .unary operator _ operand => operator.gap ++ (operand.toTree.surface.toList ++ rest)
  | .binary _ mark left right =>
      left.toTree.surface.toList ++ ' ' :: (mark.text.toList ++ ' ' ::
        (right.toTree.surface.toList ++ (")".toList ++ rest)))

variable {source copy : Expression} {rest other : List Char}

theorem surface_opens (source : Expression) (rest : List Char) :
    source.toTree.surface.toList ++ rest =
      source.openingText.toList ++ source.behindOpening rest := by
  cases source with
  | reference | integer | real => rfl
  | unary operator mark operand =>
      rw [surface_unary, operator.spelling_eq, List.append_assoc]
      rfl
  | binary operator mark left right => exact surface_binary operator mark left right rest

/-- No expression starts with the mark that would open a comment behind a parenthesis. -/
theorem openingKind_ne_star (source : Expression) : source.openingKind ≠ .symbol .star := by
  cases source with
  | unary operator => cases operator <;> exact nofun
  | _ => exact nofun

theorem head_ne_of_opens
    (opens : WordBefore source.openingKind source.openingText.toList (source.behindOpening rest)) :
    (source.toTree.surface.toList ++ rest).head? ≠ some '*' := by
  intro head
  obtain ⟨behind, whole⟩ := List.head?_eq_some_iff.mp head
  have star : WordBefore (.symbol .star) ['*'] behind := @wordBefore_of_symbol behind .star rfl nofun
  refine source.openingKind_ne_star (opens.unique star ?_).1
  rw [← surface_opens]
  exact whole

/-- The first token of the text of an expression is read before the rest of the text. -/
theorem opens (spelled : source.toTree.AllSpelled) (ends : Delimited rest) :
    WordBefore source.openingKind source.openingText.toList (source.behindOpening rest) := by
  induction source generalizing rest with
  | reference source => exact (Variable.word_of_spelled spelled).before_delimited rfl ends
  | integer mark number =>
      cases spelled.self with
      | integer word => exact word.before_delimited rfl ends
      | other none => cases none
  | real mark number =>
      cases spelled.self with
      | real word => exact word.before_delimited rfl ends
      | other none => cases none
  | unary operator mark operand =>
      cases operator with
      | negation => exact (word_of_keyword .notWord).before_apart nofun (apart_blank _)
      | minus => exact @wordBefore_of_symbol _ .minus rfl nofun
      | plus => exact @wordBefore_of_symbol _ .plus rfl nofun
  | binary operator mark left right leftOpens =>
      have inside := leftOpens (spelled.parts _ List.mem_cons_self) (delimited_blank
        (mark.text.toList ++ ' ' :: (right.toTree.surface.toList ++ (")".toList ++ rest))))
      exact @wordBefore_of_symbol _ .leftParenthesis rfl fun _ => head_ne_of_opens inside

/-- The operator between two operands is read before the blank behind it. -/
theorem operator_reads {operator : BinaryOperator} {mark : Mark} {left right : Expression}
    (spelled : (Expression.binary operator mark left right).toTree.AllSpelled) :
    ∃ kind : Kind, kind.Operates operator ∧
      ∀ behind, WordBefore kind mark.text.toList (' ' :: behind) := by
  cases spelled.self with
  | @binary _ _ kind _ word operates =>
      exact ⟨kind, operates, fun behind => word.before_apart operates.ne_error (apart_blank behind)⟩
  | other none => cases none

theorem shape_reference (source : Variable) :
    (Expression.reference source).toTree.shape =
      .node ⟨.reference, 0, some source.mark.text, .nothing, none⟩ [] := rfl

theorem shape_integer (mark : Mark) (number : Nat) :
    (Expression.integer mark number).toTree.shape =
      .node ⟨.integerConstant, 0, some mark.text, .integer number, none⟩ [] := rfl

theorem shape_real (mark : Mark) (number : Float) :
    (Expression.real mark number).toTree.shape =
      .node ⟨.realConstant, 0, some mark.text, .real number, none⟩ [] := rfl

theorem shape_unary (operator : UnaryOperator) (mark : Mark) (operand : Expression) :
    (Expression.unary operator mark operand).toTree.shape =
      .node ⟨.unary operator, 0, none, .nothing, none⟩ [operand.toTree.shape] := rfl

theorem shape_binary (operator : BinaryOperator) (mark : Mark) (left right : Expression) :
    (Expression.binary operator mark left right).toTree.shape =
      .node ⟨.binary operator, 0, some mark.text, .nothing, none⟩
        [left.toTree.shape, right.toTree.shape] := rfl

/-- The same texts start with the same token, and the same stands behind it. -/
theorem openings_eq (spelled : source.toTree.AllSpelled) (copySpelled : copy.toTree.AllSpelled)
    (ends : Delimited rest) (otherEnds : Delimited other)
    (same : source.toTree.surface.toList ++ rest = copy.toTree.surface.toList ++ other) :
    source.openingKind = copy.openingKind ∧ source.openingText = copy.openingText ∧
      source.behindOpening rest = copy.behindOpening other := by
  rw [surface_opens, surface_opens] at same
  obtain ⟨kinds, texts, behind⟩ := (opens spelled ends).unique (opens copySpelled otherEnds) same
  exact ⟨kinds, String.toList_injective texts, behind⟩

/-- When texts of expressions with something behind them are the same, the expressions have the same
shape and the same stands behind them. -/
theorem shape_eq_of_append (spelled : source.toTree.AllSpelled) (copySpelled : copy.toTree.AllSpelled)
    (ends : Delimited rest) (otherEnds : Delimited other)
    (same : source.toTree.surface.toList ++ rest = copy.toTree.surface.toList ++ other) :
    source.toTree.shape = copy.toTree.shape ∧ rest = other := by
  -- The first tokens are the same, so that both expressions are of one form.
  induction source generalizing copy rest other with
  | reference source =>
      obtain ⟨kinds, texts, behind⟩ := openings_eq spelled copySpelled ends otherEnds same
      cases copy with
      | reference sourceCopy =>
          have spellings : source.mark.text = sourceCopy.mark.text := texts
          exact ⟨by rw [shape_reference, shape_reference, spellings], behind⟩
      | unary operator => cases operator <;> cases kinds
      | _ => cases kinds
  | integer mark number =>
      obtain ⟨kinds, texts, behind⟩ := openings_eq spelled copySpelled ends otherEnds same
      cases copy with
      | integer markCopy numberCopy =>
          have spellings : mark.text = markCopy.text := texts
          obtain rfl : number = numberCopy := Kind.integer.inj kinds
          exact ⟨by rw [shape_integer, shape_integer, spellings], behind⟩
      | unary operator => cases operator <;> cases kinds
      | _ => cases kinds
  | real mark number =>
      obtain ⟨kinds, texts, behind⟩ := openings_eq spelled copySpelled ends otherEnds same
      cases copy with
      | real markCopy numberCopy =>
          have spellings : mark.text = markCopy.text := texts
          obtain rfl : number = numberCopy := Kind.real.inj kinds
          exact ⟨by rw [shape_real, shape_real, spellings], behind⟩
      | unary operator => cases operator <;> cases kinds
      | _ => cases kinds
  | unary operator mark operand inductionHypothesis =>
      obtain ⟨kinds, texts, behind⟩ := openings_eq spelled copySpelled ends otherEnds same
      cases copy with
      | unary operatorCopy markCopy operandCopy =>
          obtain rfl : operator = operatorCopy := UnaryOperator.kind_injective kinds
          obtain ⟨operands, rests⟩ := inductionHypothesis (spelled.parts _ List.mem_cons_self)
            (copySpelled.parts _ List.mem_cons_self) ends otherEnds (List.append_cancel_left behind)
          exact ⟨by rw [shape_unary, shape_unary, operands], rests⟩
      | _ => cases operator <;> cases kinds
  | binary operator mark left right leftShape rightShape =>
      obtain ⟨kinds, texts, behind⟩ := openings_eq spelled copySpelled ends otherEnds same
      cases copy with
      | binary operatorCopy markCopy leftCopy rightCopy =>
          obtain ⟨lefts, behindLeft⟩ := leftShape (spelled.parts _ List.mem_cons_self)
            (copySpelled.parts _ List.mem_cons_self) (delimited_blank _) (delimited_blank _) behind
          obtain ⟨kind, operates, reads⟩ := operator_reads spelled
          obtain ⟨kindCopy, operatesCopy, readsCopy⟩ := operator_reads copySpelled
          obtain ⟨same, signs, behindSign⟩ :=
            (reads _).unique (readsCopy _) (List.cons.inj behindLeft).2
          obtain rfl := operates.unique (same ▸ operatesCopy)
          obtain ⟨rights, behindRight⟩ := rightShape
            (spelled.parts _ (List.mem_cons_of_mem _ List.mem_cons_self))
            (copySpelled.parts _ (List.mem_cons_of_mem _ List.mem_cons_self))
            (delimited_parenthesis rest) (delimited_parenthesis other)
            (List.cons.inj behindSign).2
          refine ⟨?_, (List.cons.inj behindRight).2⟩
          rw [shape_binary, shape_binary, lefts, rights, String.toList_injective signs]
      | unary operator => cases operator <;> cases kinds
      | _ => cases kinds

end Expression

end Openings

section Terms

variable {node copy : Tree}

/-- The text of a string is that of its literal, which is read back. -/
theorem Item.string_reads {mark : Mark} {content : String}
    (spelled : (Item.string mark content).toTree.AllSpelled) :
    mark.text = stringLiteral content ∧
      ∃ kind : Kind, kind.value = .text content ∧ WordBefore kind mark.text.toList [] := by
  cases spelled.self with
  | @string _ _ _ kind word value =>
      refine ⟨text_of_word word value, kind, value, word.before_apart ?_ apart_nil⟩
      rintro rfl
      cases value
  | other none => cases none

theorem Expression.value_openingKind (source : Expression) (content : String) :
    source.openingKind.value ≠ .text content := by
  cases source with
  | unary operator => cases operator <;> exact nofun
  | _ => exact nofun

/-- A term is read off an expression or a string. -/
theorem Tree.OfSyntax.exists_term (part : node.OfSyntax) (term : node.kind.isTerm = true) :
    (∃ source : Expression, node = source.toTree) ∨
      ∃ mark content, node = (Item.string mark content).toTree := by
  cases part with
  | expression source => exact .inl ⟨source, rfl⟩
  | string mark content => exact .inr ⟨mark, content, rfl⟩
  | statement statement =>
      cases statement with
      | writeln line argument => cases argument <;> cases term
      | _ => cases term
  | program | test => cases term

/-- The text of a term starts with a token. -/
theorem Tree.OfSyntax.reads (part : node.OfSyntax) (term : node.kind.isTerm = true)
    (spelled : node.AllSpelled) :
    ∃ kind word rest, WordBefore kind word rest ∧ node.surface.toList = word ++ rest := by
  obtain ⟨source, rfl⟩ | ⟨mark, content, rfl⟩ := part.exists_term term
  · have whole := source.surface_opens []
    rw [List.append_nil] at whole
    exact ⟨_, _, _, Expression.opens spelled delimited_nil, whole⟩
  · obtain ⟨text, kind, _, reads⟩ := Item.string_reads spelled
    refine ⟨kind, _, [], reads, ?_⟩
    rw [List.append_nil, text]
    rfl

/-- Terms with the same text have the same shape. -/
theorem Tree.OfSyntax.shape_eq (part : node.OfSyntax) (copyPart : copy.OfSyntax)
    (term : node.kind.isTerm = true) (copyTerm : copy.kind.isTerm = true)
    (spelled : node.AllSpelled) (copySpelled : copy.AllSpelled)
    (same : node.surface = copy.surface) : node.shape = copy.shape := by
  -- A string does not start like an expression.
  have apart {source : Expression} {mark : Mark} {content : String}
      (spelled : source.toTree.AllSpelled)
      (stringSpelled : (Item.string mark content).toTree.AllSpelled)
      (same : source.toTree.surface = stringLiteral content) : False := by
    obtain ⟨text, kind, value, reads⟩ := Item.string_reads stringSpelled
    have whole := source.surface_opens []
    rw [List.append_nil, same, ← text, ← List.append_nil mark.text.toList] at whole
    have kinds := ((Expression.opens spelled delimited_nil).unique reads whole.symm).1
    exact source.value_openingKind content (by rw [kinds, value])
  obtain ⟨source, rfl⟩ | ⟨mark, content, rfl⟩ := part.exists_term term <;>
    obtain ⟨sourceCopy, rfl⟩ | ⟨markCopy, contentCopy, rfl⟩ := copyPart.exists_term copyTerm
  · exact (Expression.shape_eq_of_append spelled copySpelled delimited_nil delimited_nil
      (by rw [same])).1
  · exact (apart spelled copySpelled same).elim
  · exact (apart copySpelled spelled same.symm).elim
  · obtain ⟨text, kind, value, reads⟩ := Item.string_reads spelled
    obtain ⟨textCopy, kindCopy, valueCopy, readsCopy⟩ := Item.string_reads copySpelled
    have texts : mark.text = markCopy.text := text.trans (Eq.trans same textCopy.symm)
    obtain ⟨kinds, _⟩ := reads.unique readsCopy (by rw [texts])
    rw [kinds, valueCopy] at value
    obtain rfl := Value.text.inj value
    change Tree.shape (.node ⟨_, _, some mark.text, _, _⟩ []) =
      Tree.shape (.node ⟨_, _, some markCopy.text, _, _⟩ [])
    rw [texts]
    rfl

end Terms

section Drawing

open Text

/-- The entities of characters are told apart. -/
theorem Text.entity_unique {first second : Char} {rest behind : List Char}
    (same : entity first ++ rest = entity second ++ behind) : first = second ∧ rest = behind := by
  unfold entity at same
  split at same <;> split at same <;> first | grind | simp_all

theorem Text.entity_ne_nil (character : Char) : entity character ≠ [] := by
  unfold entity
  split <;> simp

theorem Text.flatMap_entity_injective {text other : List Char}
    (same : text.flatMap entity = other.flatMap entity) : text = other := by
  induction text generalizing other with
  | nil =>
      cases other with
      | nil => rfl
      | cons second other =>
          have empty := (List.append_eq_nil_iff.mp same.symm).1
          exact absurd empty (entity_ne_nil second)
  | cons first text inductionHypothesis =>
      cases other with
      | nil => exact absurd (List.append_eq_nil_iff.mp same).1 (entity_ne_nil first)
      | cons second other =>
          obtain ⟨rfl, rests⟩ := entity_unique same
          rw [inductionHypothesis rests]

theorem Text.escapeMarkup_injective {text other : String}
    (same : escapeMarkup text = escapeMarkup other) : text = other :=
  String.toList_injective (flatMap_entity_injective (String.ofList_injective same))

/-- No markup starts inside an escaped text. -/
theorem Text.mark_not_mem_escapeMarkup (text : String) : '<' ∉ (escapeMarkup text).toList := by
  rw [escapeMarkup, String.toList_ofList, List.mem_flatMap]
  rintro ⟨character, _, inside⟩
  unfold entity at inside
  split at inside
  case h_6 noAnd noLess noMore noQuote noApostrophe =>
    exact noLess (List.mem_singleton.mp inside).symm
  all_goals exact absurd inside (by decide)

/-- A text ends where the markup behind it starts. -/
theorem eq_of_append_mark {front other rest behind : List Char} (plain : '<' ∉ front)
    (otherPlain : '<' ∉ other) (same : front ++ '<' :: rest = other ++ '<' :: behind) :
    front = other ∧ rest = behind := by
  induction front generalizing other with
  | nil =>
      cases other with
      | nil => exact ⟨rfl, (List.cons.inj same).2⟩
      | cons second other =>
          exact absurd (List.mem_cons.mpr (.inl (List.cons.inj same).1)) otherPlain
  | cons first front inductionHypothesis =>
      cases other with
      | nil => exact absurd (List.mem_cons.mpr (.inl (List.cons.inj same).1.symm)) plain
      | cons second other =>
          obtain ⟨rfl, rests⟩ := List.cons.inj same
          obtain ⟨fronts, behinds⟩ := inductionHypothesis (List.not_mem_of_not_mem_cons plain)
            (List.not_mem_of_not_mem_cons otherPlain) rests
          exact ⟨congrArg _ fronts, behinds⟩

/-- Texts between pieces of markup are told apart. -/
theorem eq_of_markup_parts {opening name nameCopy middle text textCopy near line lineCopy far : String}
    (starts : middle.toList.head? = some '<') (startsBehind : near.toList.head? = some '<')
    (plain : '<' ∉ name.toList ∧ '<' ∉ text.toList)
    (plainCopy : '<' ∉ nameCopy.toList ∧ '<' ∉ textCopy.toList)
    (same : opening ++ name ++ middle ++ text ++ near ++ line ++ far =
      opening ++ nameCopy ++ middle ++ textCopy ++ near ++ lineCopy ++ far) : text = textCopy := by
  obtain ⟨_, markup⟩ := List.head?_eq_some_iff.mp starts
  obtain ⟨_, markupBehind⟩ := List.head?_eq_some_iff.mp startsBehind
  have whole := congrArg String.toList same
  simp only [String.toList_append, markup, markupBehind, List.append_assoc, List.cons_append,
    List.append_cancel_left_eq] at whole
  obtain ⟨_, behindName⟩ := eq_of_append_mark plain.1 plainCopy.1 whole
  have behindMarkup := List.append_cancel_left behindName
  exact String.toList_injective (eq_of_append_mark plain.2 plainCopy.2 behindMarkup).1

theorem NodeKind.plain_of_isTerm {kind : NodeKind} (term : kind.isTerm = true) :
    kind ≠ .test ∧ kind.isStatement = false := by
  constructor
  · rintro rfl
    cases term
  · cases kind <;> first | rfl | cases term

/-- What a graph shows of a term is its kind, its text and its line between the same pieces of
markup. -/
theorem Graph.markup_of_term :
    ∃ opening middle near far : String, middle.toList.head? = some '<' ∧
      near.toList.head? = some '<' ∧ ∀ (label : Label) (body : String),
        label.kind.isTerm = true → body.toList.all isBlank = false →
          markup label body = opening ++ escapeMarkup label.kind.name ++ middle ++
            escapeMarkup body ++ near ++ toString label.line ++ far := by
  refine ⟨"<<TABLE BORDER=\"0\" CELLBORDER=\"1\" CELLSPACING=\"0\"" ++ "" ++ "><TR><TD" ++ "" ++
    "><B>", "</B></TD></TR><TR><TD><FONT POINT-SIZE=\"10\">",
    "</FONT><BR/><FONT POINT-SIZE=\"8\">line ", "</FONT></TD></TR></TABLE>>", by simp, by simp, ?_⟩
  intro label body term inked
  obtain ⟨noTest, noStatement⟩ := NodeKind.plain_of_isTerm term
  unfold markup
  rw [if_neg noTest, noStatement, inked, if_neg Bool.false_ne_true, if_neg Bool.false_ne_true]

/-- What a graph shows of terms tells their texts. -/
theorem Graph.body_eq_of_markup {label copy : Label} {body other : String}
    (term : label.kind.isTerm = true) (copyTerm : copy.kind.isTerm = true)
    (inked : body.toList.all isBlank = false) (otherInked : other.toList.all isBlank = false)
    (same : Graph.markup label body = Graph.markup copy other) : body = other := by
  obtain ⟨opening, middle, near, far, starts, startsBehind, parts⟩ := markup_of_term
  rw [parts label body term inked, parts copy other copyTerm otherInked] at same
  refine escapeMarkup_injective (eq_of_markup_parts starts startsBehind ?_ ?_ same)
  · exact ⟨mark_not_mem_escapeMarkup _, mark_not_mem_escapeMarkup _⟩
  · exact ⟨mark_not_mem_escapeMarkup _, mark_not_mem_escapeMarkup _⟩

end Drawing

/-- The text of a term has a character that is not blank. -/
theorem Tree.OfSyntax.inked {node : Tree} (part : node.OfSyntax) (term : node.kind.isTerm = true)
    (spelled : node.AllSpelled) : node.surface.toList.all Text.isBlank = false := by
  obtain ⟨kind, word, rest, reads, whole⟩ := part.reads term spelled
  have head := reads.starts.noBlank
  rw [← whole] at head
  have nonempty : node.surface.toList ≠ [] := by
    rw [whole]
    exact List.append_ne_nil_of_left_ne_nil reads.nonempty _
  obtain ⟨first, behind, same⟩ := List.exists_cons_of_ne_nil nonempty
  rw [same] at head ⊢
  have noBlank : Text.isBlank first = false := head
  rw [List.all_cons, noBlank, Bool.false_and]

/-- In the trees of any two parsed texts, whatever mistakes these have, two terms have the same line of
text exactly when they have the same shape, so that they differ at most in their lines, in the cells
of their variables and in the spelling of their signs and negations. Terms that a graph shows in the
same way have the same shape. -/
theorem surface_unambiguous (text other : String) (table tableOther : SymbolTable)
    (program programOther : Program) (result : (parseProgram text table).result = .ok program)
    (resultOther : (parseProgram other tableOther).result = .ok programOther) :
    ∀ node ∈ program.toTree.preorder, ∀ copy ∈ programOther.toTree.preorder,
      node.kind.isTerm = true → copy.kind.isTerm = true →
        (node.surface = copy.surface ↔ node.shape = copy.shape) ∧
        (Graph.markup node.label node.surface = Graph.markup copy.label copy.surface →
          node.shape = copy.shape) := by
  intro node inside copy copyInside term copyTerm
  have spelled := (parseProgram_spelled result).part inside
  have copySpelled := (parseProgram_spelled resultOther).part copyInside
  have part := program.allOfSyntax node inside
  have copyPart := programOther.allOfSyntax copy copyInside
  have tells := part.shape_eq copyPart term copyTerm spelled copySpelled
  refine ⟨⟨tells, Tree.surface_eq_of_shape⟩, fun same => tells ?_⟩
  exact Graph.body_eq_of_markup term copyTerm (part.inked term spelled)
    (copyPart.inked copyTerm copySpelled) same

/-- A difference whose right operand is on the given line. -/
def difference (line : Nat) : Expression :=
  .binary .subtract ⟨"-", 1⟩ (.integer ⟨"1", 1⟩ 1)
    (.unary .minus ⟨"-", line⟩ (.integer ⟨"2", line⟩ 2))

def differenceProgram (line : Nat) : Program :=
  ⟨1, some "p", 1, [.assign 1 ⟨⟨"x", 1⟩, .cell "x" "x"⟩ (difference line)]⟩

theorem difference_unambiguous :
    (parseProgram "program p; begin x := 1 - (-2) end." .empty).result =
        .ok (differenceProgram 1) ∧
      (parseProgram "program p; begin x := (1) -\n((-2)) end." .empty).result =
        .ok (differenceProgram 2) ∧
      (difference 1).toTree.surface = "(1 - -2)" ∧ (difference 2).toTree.surface = "(1 - -2)" ∧
      (difference 1).toTree.shape = (difference 2).toTree.shape := by
  have result : (parseProgram "program p; begin x := 1 - (-2) end." .empty).result =
      .ok (differenceProgram 1) := by cbv
  have resultOther : (parseProgram "program p; begin x := (1) -\n((-2)) end." .empty).result =
      .ok (differenceProgram 2) := by cbv
  have inside (line : Nat) : (difference line).toTree ∈ (differenceProgram line).toTree.preorder :=
    List.mem_of_getElem? (show (differenceProgram line).toTree.preorder[4]? = _ from rfl)
  have surface : (difference 1).toTree.surface = "(1 - -2)" := by decide +kernel
  have surfaceOther : (difference 2).toTree.surface = "(1 - -2)" := by decide +kernel
  refine ⟨result, resultOther, surface, surfaceOther, ?_⟩
  exact (surface_unambiguous _ _ _ _ _ _ result resultOther _ (inside 1) _ (inside 2) rfl rfl).1.mp
    (surface.trans surfaceOther.symm)

end MiniPascal
