/-
This file shows of which tokens the line of text of an expression or of a statement is written, and
says in which places a sign or a negation keeps its operand in such a text.
-/

import MiniPascal.Proofs.Parsing.Spelled
import MiniPascal.Proofs.Scanning.LongestMatch
import MiniPascal.Surface

namespace MiniPascal

open Lexeme

section Places

def BinaryOperator.isRelational : BinaryOperator → Bool
  | .equal | .less | .lessEqual | .greaterEqual | .greater | .notEqual => true
  | _ => false

def BinaryOperator.isAdding : BinaryOperator → Bool
  | .add | .subtract | .disjunction => true
  | _ => false

/-- The place of an expression in the expression around it. A sign tells its operand whether it is
a left operand itself. -/
inductive Place where
  | whole
  | left (operator : BinaryOperator)
  | right (operator : BinaryOperator)
  | negated
  | signed (atLeft : Bool)
deriving DecidableEq, Repr

namespace Place

def isLeft : Place → Bool
  | .left _ => true
  | _ => false

/-- A sign stands before a whole expression, an operand of a comparison, the first term of a sum,
or behind a negation. -/
def admitsSign : Place → Bool
  | .whole | .negated => true
  | .left operator => operator.isRelational || operator.isAdding
  | .right operator => operator.isRelational
  | .signed _ => false

/-- A negation stands where nothing comes behind its operand: as a whole, as a right operand, behind
a negation, or behind a sign that is no left operand. -/
def admitsNegation : Place → Bool
  | .whole | .right _ | .negated => true
  | .left _ => false
  | .signed atLeft => !atLeft

end Place

/-- A tree of an expression in which every sign and every negation stands in a place that admits
it. -/
def Tree.standsAt (place : Place) : Tree → Bool
  | .node label [operand] =>
      match label.kind with
      | .unary .negation => place.admitsNegation && operand.standsAt .negated
      | .unary _ => place.admitsSign && operand.standsAt (.signed place.isLeft)
      | _ => false
  | .node label [left, right] =>
      match label.kind with
      | .binary operator => left.standsAt (.left operator) && right.standsAt (.right operator)
      | _ => false
  | .node label _ =>
      match label.kind with
      | .reference | .integerConstant | .realConstant => true
      | _ => false

/-- A tree of an assignment whose value stands as a whole, or of a writing statement. -/
def Tree.standsAlone : Tree → Bool
  | .node label children =>
      match label.kind, children with
      | .assign, [_, value] => value.standsAt .whole
      | .write, _ | .writeln, _ => true
      | _, _ => false

end Places

section Literals

theorem toList_stringLiteral (content : String) :
    (stringLiteral content).toList = '\'' :: (doubled content.toList ++ ['\'']) :=
  String.toList_ofList

/-- The body of a closed string literal has every quote of its content twice. -/
theorem Lexeme.StringBody.take_of_closed {text : List Char}
    (closed : (StringBody.scan text).closed = true) :
    text.take (StringBody.scan text).length = doubled (StringBody.scan text).content ++ ['\''] := by
  obtain ⟨content, rest, oneLine, ⟨rfl, lone⟩ | ⟨rfl, ends⟩⟩ := exists_doubled text
  · have whole : doubled content ++ '\'' :: rest = (doubled content ++ ['\'']) ++ rest := by simp
    rw [scan_closed oneLine lone, whole]
    exact List.take_left' List.length_append
  · rw [scan_unclosed oneLine ends] at closed
    cases closed

theorem Lexeme.StringBody.value_kind {body : StringBody} {content : String}
    (value : body.kind.value = .text content) :
    body.closed = true ∧ content.toList = body.content := by
  unfold StringBody.kind at value
  split at value
  case isTrue closed =>
    refine ⟨closed, ?_⟩
    split at value
    case h_1 character same =>
      cases value
      exact String.toList_ofList.trans same.symm
    case h_2 =>
      cases value
      exact String.toList_ofList
  case isFalse => cases value

/-- A string literal is spelled as its content is written. -/
theorem text_of_word {kind : Kind} {text content : String} (word : Word kind text.toList)
    (value : kind.value = .text content) : text = stringLiteral content := by
  have closed : kind ≠ .error := by
    rintro rfl
    cases value
  have reads := (word.readAs closed).2
  have same : String.ofList text.toList = text := String.ofList_toList
  rw [← same]
  generalize text.toList = characters at reads
  generalize size : characters.length = length at reads
  cases reads with
  | symbol | other => cases value
  | string behind =>
      obtain ⟨shut, inside⟩ := StringBody.value_kind value
      have taken := StringBody.take_of_closed shut
      rw [← Nat.succ.inj size, List.take_length] at taken
      refine String.toList_injective ?_
      rw [toList_stringLiteral, inside, ← taken, String.toList_ofList]
  | number _ _ read =>
      have number := Numeral.isNumber_of_kind read
      cases kind with
      | string | character => cases number
      | _ => cases value
  | name =>
      unfold nameKind at value
      split at value <;> cases value

end Literals

/-- The contents of the tokens of which the text of an expression is written. Operations between two
operands, and nothing else, stand between parentheses. -/
inductive Expression.Printed (table : SymbolTable) : Expression → List (Kind × String) → Prop where
  | reference {source : Variable} {cell : Cell} (word : Word .identifier source.mark.text.toList)
      (known : table.lookup? source.mark.text = some cell) (same : source.binding = cell.binding) :
      Printed table (.reference source) [(.identifier, source.mark.text)]
  | integer {mark : Mark} {number : Nat} (word : Word (.integer number) mark.text.toList) :
      Printed table (.integer mark number) [(.integer number, mark.text)]
  | real {mark : Mark} {number : Float} (word : Word (.real number) mark.text.toList) :
      Printed table (.real mark number) [(.real number, mark.text)]
  | negation {mark : Mark} {operand : Expression} {contents : List (Kind × String)}
      (inside : Printed table operand contents) :
      Printed table (.unary .negation mark operand) ((.keyword .notWord, "not") :: contents)
  | sign {operator : UnaryOperator} {mark : Mark} {symbol : Symbol} {operand : Expression}
      {contents : List (Kind × String)} (found : Parse.sign? (.symbol symbol) = some operator)
      (text : mark.text = symbol.spelling) (inside : Printed table operand contents) :
      Printed table (.unary operator mark operand) ((.symbol symbol, symbol.spelling) :: contents)
  | binary {operator : BinaryOperator} {mark : Mark} {kind : Kind} {left right : Expression}
      {first second : List (Kind × String)} (word : Word kind mark.text.toList)
      (operates : kind.Operates operator) (leftPrinted : Printed table left first)
      (rightPrinted : Printed table right second) :
      Printed table (.binary operator mark left right)
        ((.symbol .leftParenthesis, "(") :: (first ++ (kind, mark.text) ::
          (second ++ [(.symbol .rightParenthesis, ")")])))

section Known

variable {state : ParseState} {source : Variable}

/-- Where nothing is reported a variable of a tree is known. -/
theorem Variable.known_of_wellFormed (formed : source.toTree.AllWellFormed state)
    (quiet : state.errors = 0) :
    ∃ cell, state.table.lookup? source.mark.text = some cell ∧ source.binding = cell.binding := by
  cases formed.self.bound with
  | other kind => exact absurd rfl kind
  | reference other _ text _ binding bound =>
      obtain ⟨cell, known, same⟩ | ⟨_, reported⟩ := bound
      · exact ⟨cell, Option.some.inj text ▸ known, (Option.some.inj binding).trans same⟩
      · rw [List.length_eq_zero_iff.mp quiet] at reported
        cases reported

theorem Variable.word_of_spelled (spelled : source.toTree.AllSpelled) :
    Word .identifier source.mark.text.toList := by
  cases spelled.self with
  | reference word => exact word
  | other none => cases none

/-- A sign is spelled as its mark. -/
theorem sign_of_word {kind : Kind} {operator : UnaryOperator} {text : String}
    (word : Word kind text.toList) (found : Parse.sign? kind = some operator) :
    ∃ symbol, kind = .symbol symbol ∧ text = symbol.spelling := by
  cases kind with
  | symbol symbol =>
      have reads := word.before_apart nofun apart_nil
      exact ⟨symbol, rfl, String.toList_injective reads.spelling_of_symbol⟩
  | _ => cases found

/-- An expression that is spelled and whose variables are known is printed. -/
theorem Expression.exists_printed {source : Expression} (spelled : source.toTree.AllSpelled)
    (formed : source.toTree.AllWellFormed state) (quiet : state.errors = 0) :
    ∃ contents, source.Printed state.table contents := by
  induction source with
  | reference source =>
      obtain ⟨cell, known, same⟩ := Variable.known_of_wellFormed formed quiet
      exact ⟨_, .reference (Variable.word_of_spelled spelled) known same⟩
  | integer mark number =>
      cases spelled.self with
      | integer word => exact ⟨_, .integer word⟩
      | other none => cases none
  | real mark number =>
      cases spelled.self with
      | real word => exact ⟨_, .real word⟩
      | other none => cases none
  | unary operator mark operand inductionHypothesis =>
      obtain ⟨contents, inside⟩ := inductionHypothesis
        (spelled.parts _ List.mem_cons_self) (formed.parts _ List.mem_cons_self)
      cases spelled.self with
      | sign word found =>
          obtain ⟨symbol, rfl, text⟩ := sign_of_word word found
          exact ⟨_, .sign found text inside⟩
      | other none =>
          cases operator with
          | negation => exact ⟨_, .negation inside⟩
          | minus | plus => cases none
  | binary operator mark left right leftPrinted rightPrinted =>
      obtain ⟨first, leftInside⟩ := leftPrinted
        (spelled.parts _ List.mem_cons_self) (formed.parts _ List.mem_cons_self)
      obtain ⟨second, rightInside⟩ := rightPrinted
        (spelled.parts _ (List.mem_cons_of_mem _ List.mem_cons_self))
        (formed.parts _ (List.mem_cons_of_mem _ List.mem_cons_self))
      cases spelled.self with
      | binary word operates => exact ⟨_, .binary word operates leftInside rightInside⟩
      | other none => cases none

end Known

section Texts

variable {table : SymbolTable} {source : Expression} {contents more : List (Kind × String)}
  {rest : List Char}

theorem Expression.surface_unary (operator : UnaryOperator) (mark : Mark) (operand : Expression)
    (rest : List Char) :
    (Expression.unary operator mark operand).toTree.surface.toList ++ rest =
      operator.spelling.toList ++ (operand.toTree.surface.toList ++ rest) := by
  change (operator.spelling ++ operand.toTree.surface).toList ++ rest = _
  rw [String.toList_append, List.append_assoc]

theorem Expression.surface_binary (operator : BinaryOperator) (mark : Mark)
    (left right : Expression) (rest : List Char) :
    (Expression.binary operator mark left right).toTree.surface.toList ++ rest =
      "(".toList ++ (left.toTree.surface.toList ++ ' ' :: (mark.text.toList ++ ' ' ::
        (right.toTree.surface.toList ++ (")".toList ++ rest)))) := by
  change ("(" ++ left.toTree.surface ++ " " ++ mark.text ++ " " ++ right.toTree.surface ++
    ")").toList ++ rest = _
  simp

/-- A sign is shown by its mark. -/
theorem spelling_of_sign {operator : UnaryOperator} {symbol : Symbol}
    (found : Parse.sign? (.symbol symbol) = some operator) :
    operator.spelling = symbol.spelling := by
  cases symbol <;> cases found <;> rfl

/-- The text of an expression does not start with a star, which would open a comment behind a
parenthesis. -/
theorem Expression.Printed.head_ne (printed : source.Printed table contents) (rest : List Char) :
    (source.toTree.surface.toList ++ rest).head? ≠ some '*' := by
  have star : symbol? ['*'] ≠ none := nofun
  cases printed with
  | reference word => exact word.head_ne rfl star rest
  | integer word => exact word.head_ne rfl star rest
  | real word => exact word.head_ne rfl star rest
  | negation =>
      rw [surface_unary]
      exact nofun
  | @sign operator =>
      rw [surface_unary]
      cases operator <;> exact nofun
  | binary =>
      rw [surface_binary]
      exact nofun

/-- The text of an expression is written of its tokens before every delimiter. -/
theorem Expression.Printed.writes (printed : source.Printed table contents) (ends : Delimited rest)
    (others : Writes rest more) :
    Writes (source.toTree.surface.toList ++ rest) (contents ++ more) := by
  induction printed generalizing rest more with
  | reference word => exact .word (word.before_delimited rfl ends) others
  | integer word => exact .word (word.before_delimited rfl ends) others
  | real word => exact .word (word.before_delimited rfl ends) others
  | negation inside inductionHypothesis =>
      rw [surface_unary]
      exact (inductionHypothesis ends others).spaced (word_of_keyword .notWord) nofun
  | @sign _ _ symbol _ _ found _ _ inductionHypothesis =>
      rw [surface_unary, spelling_of_sign found]
      refine (inductionHypothesis ends others).symbol symbol ?_ ?_
      · cases symbol <;> cases found <;> rfl
      · rintro rfl
        cases found
  | binary word operates leftPrinted rightPrinted first second =>
      rw [surface_binary, List.cons_append, List.append_assoc, List.cons_append, List.append_assoc]
      have closing : Writes (")".toList ++ rest) ((.symbol .rightParenthesis, ")") :: more) :=
        others.symbol .rightParenthesis rfl nofun
      have right := second (delimited_cons (by decide) rest) closing
      have between := right.spaced word operates.ne_error
      have left := first (delimited_cons (by decide) _) (.blank between)
      exact left.symbol .leftParenthesis rfl fun _ => leftPrinted.head_ne _

end Texts

/-- The contents of a colon and the width behind it. -/
def Width.contents (width : Width) : List (Kind × String) :=
  [(.symbol .colon, ":"), (.integer width.number, width.mark.text)]

/-- The content of the token of which the text of an item is written. -/
inductive Item.Printed (table : SymbolTable) : Item → Kind × String → Prop where
  | reference {source : Variable} {cell : Cell} (word : Word .identifier source.mark.text.toList)
      (known : table.lookup? source.mark.text = some cell) (same : source.binding = cell.binding) :
      Printed table (.reference source) (.identifier, source.mark.text)
  | string {mark : Mark} {content : String} {kind : Kind} (word : Word kind mark.text.toList)
      (value : kind.value = .text content) : Printed table (.string mark content) (kind, mark.text)

/-- The contents of the tokens of which the text of an argument is written. -/
inductive Argument.Printed (table : SymbolTable) : Argument → List (Kind × String) → Prop where
  | argument {item : Item} {format : Format} {content : Kind × String}
      (itemPrinted : item.Printed table content)
      (words : ∀ width ∈ format.widths, Word (.integer width.number) width.mark.text.toList) :
      Printed table ⟨item, format⟩ ((.symbol .leftParenthesis, "(") :: content ::
        (format.widths.flatMap Width.contents ++ [(.symbol .rightParenthesis, ")")]))

/-- The contents of the tokens of which the text of an assignment or of a writing statement is
written. -/
inductive Statement.Printed (table : SymbolTable) : Statement → List (Kind × String) → Prop where
  | assign {line : Nat} {target : Variable} {value : Expression} {cell : Cell}
      {contents : List (Kind × String)} (word : Word .identifier target.mark.text.toList)
      (known : table.lookup? target.mark.text = some cell) (same : target.binding = cell.binding)
      (valuePrinted : value.Printed table contents) :
      Printed table (.assign line target value)
        ((.identifier, target.mark.text) :: (.symbol .colonEquals, ":=") :: contents)
  | write {line : Nat} {argument : Argument} {contents : List (Kind × String)}
      (inside : argument.Printed table contents) :
      Printed table (.write line argument) ((.keyword .writeWord, "write") :: contents)
  | writeln {line : Nat} {argument : Argument} {contents : List (Kind × String)}
      (inside : argument.Printed table contents) :
      Printed table (.writeln line (some argument)) ((.keyword .writelnWord, "writeln") :: contents)
  | writelnPlain {line : Nat} :
      Printed table (.writeln line none) [(.keyword .writelnWord, "writeln")]

section Statements

variable {state : ParseState} {table : SymbolTable}

theorem Width.word_of_spelled {width : Width} (spelled : width.toTree.AllSpelled) :
    Word (.integer width.number) width.mark.text.toList := by
  cases spelled.self with
  | integer word => exact word
  | other none => cases none

/-- An argument that is spelled and whose variable is known is printed. -/
theorem Argument.exists_printed {argument : Argument}
    (spelled : ∀ tree ∈ argument.toTrees, tree.AllSpelled)
    (formed : ∀ tree ∈ argument.toTrees, tree.AllWellFormed state) (quiet : state.errors = 0) :
    ∃ contents, argument.Printed state.table contents := by
  obtain ⟨item, format⟩ := argument
  have itemSpelled : item.toTree.AllSpelled := spelled _ List.mem_cons_self
  have itemFormed : item.toTree.AllWellFormed state := formed _ List.mem_cons_self
  have words : ∀ width ∈ format.widths, Word (.integer width.number) width.mark.text.toList := by
    intro width inside
    refine Width.word_of_spelled (spelled _ (List.mem_cons_of_mem _ ?_))
    rw [Format.toTrees_eq_map]
    exact List.mem_map_of_mem inside
  cases item with
  | reference source =>
      obtain ⟨cell, known, same⟩ := Variable.known_of_wellFormed itemFormed quiet
      exact ⟨_, .argument (.reference (Variable.word_of_spelled itemSpelled) known same) words⟩
  | string mark content =>
      cases itemSpelled.self with
      | string word value => exact ⟨_, .argument (.string word value) words⟩
      | other none => cases none

theorem Statement.exists_printed {statement : Statement}
    (alone : statement.toTree.standsAlone = true) (spelled : statement.toTree.AllSpelled)
    (formed : statement.toTree.AllWellFormed state)
    (quiet : state.errors = 0) : ∃ contents, statement.Printed state.table contents := by
  cases statement with
  | assign line target value =>
      have targetSpelled : target.toTree.AllSpelled := spelled.parts _ List.mem_cons_self
      obtain ⟨cell, known, same⟩ :=
        Variable.known_of_wellFormed (formed.parts _ List.mem_cons_self) quiet
      obtain ⟨contents, inside⟩ := Expression.exists_printed
        (spelled.parts _ (List.mem_cons_of_mem _ List.mem_cons_self))
        (formed.parts _ (List.mem_cons_of_mem _ List.mem_cons_self)) quiet
      exact ⟨_, .assign (Variable.word_of_spelled targetSpelled) known same inside⟩
  | write line argument =>
      obtain ⟨contents, inside⟩ := Argument.exists_printed spelled.parts formed.parts quiet
      exact ⟨_, .write inside⟩
  | writeln line argument =>
      cases argument with
      | none => exact ⟨_, .writelnPlain⟩
      | some argument =>
          obtain ⟨contents, inside⟩ := Argument.exists_printed spelled.parts formed.parts quiet
          exact ⟨_, .writeln inside⟩
  | _ => cases alone

/-- The text of widths behind an item, each with a colon in front. -/
def writtenWidths (widths : List Width) (rest : List Char) : List Char :=
  widths.foldr (fun width behind => ":".toList ++ (width.mark.text.toList ++ behind)) rest

theorem toList_intercalate_widths (first : String) (widths : List Width) (rest : List Char) :
    (":".intercalate (first :: widths.map fun width => width.mark.text)).toList ++ rest =
      first.toList ++ writtenWidths widths rest := by
  induction widths generalizing first with
  | nil => rfl
  | cons width widths inductionHypothesis =>
      have behind := inductionHypothesis width.mark.text
      rw [String.toList_intercalate] at behind ⊢
      rw [List.map_cons, List.map_cons, List.map_cons, List.intercalate_cons_of_ne_nil (by simp)]
      rw [List.append_assoc, List.append_assoc]
      exact congrArg (fun text => first.toList ++ (":".toList ++ text)) behind

theorem delimited_writtenWidths (widths : List Width) {rest : List Char} (ends : Delimited rest) :
    Delimited (writtenWidths widths rest) := by
  cases widths with
  | nil => exact ends
  | cons width widths => exact delimited_cons (by decide) _

theorem writes_widths {widths : List Width} {rest : List Char} {more : List (Kind × String)}
    (words : ∀ width ∈ widths, Word (.integer width.number) width.mark.text.toList)
    (ends : Delimited rest) (others : Writes rest more) :
    Writes (writtenWidths widths rest) (widths.flatMap Width.contents ++ more) := by
  induction widths with
  | nil => exact others
  | cons width widths inductionHypothesis =>
      obtain ⟨word, words⟩ := List.forall_mem_cons.mp words
      have number := Writes.word (word.before_delimited rfl (delimited_writtenWidths widths ends))
        (inductionHypothesis words)
      refine number.symbol .colon ?_ nofun
      have noEquals := word.head_ne rfl (show symbol? ['='] ≠ none from nofun)
        (writtenWidths widths rest)
      have noGreater := word.head_ne rfl (show symbol? ['>'] ≠ none from nofun)
        (writtenWidths widths rest)
      exact symbol?_alone noEquals noGreater

/-- The text of an item is the spelling of its token, which is a name or a literal. -/
theorem Item.Printed.word {item : Item} {content : Kind × String}
    (printed : item.Printed table content) :
    item.toTree.surface = content.2 ∧ content.1.isAtom = true ∧
      Word content.1 content.2.toList := by
  cases printed with
  | reference word => exact ⟨rfl, rfl, word⟩
  | string word value =>
      refine ⟨(text_of_word word value).symm, ?_, word⟩
      rename_i kind
      cases kind <;> first | rfl | cases value

/-- The text of an argument with its parentheses. -/
def Argument.surface (argument : Argument) : String :=
  "(" ++ ":".intercalate (argument.toTrees.map Tree.surface) ++ ")"

theorem Argument.Printed.writes {argument : Argument} {contents : List (Kind × String)}
    (printed : argument.Printed table contents) : Writes argument.surface.toList contents := by
  cases printed with
  | @argument item format content itemPrinted words =>
      obtain ⟨same, atom, word⟩ := itemPrinted.word
      have text : (Argument.mk item format).surface.toList =
          "(".toList ++ (content.2.toList ++ writtenWidths format.widths ")".toList) := by
        rw [← same, ← toList_intercalate_widths, surface, toTrees, Format.toTrees_eq_map]
        simp only [String.toList_append, List.append_assoc, List.map_cons, List.map_map]
        rfl
      have closing : Writes ")".toList [(.symbol .rightParenthesis, ")")] :=
        Writes.done.symbol .rightParenthesis rfl fun same => by cases same
      have ends : Delimited ")".toList := delimited_cons (by decide) []
      have inside := Writes.word (word.before_delimited atom (delimited_writtenWidths _ ends))
        (writes_widths words ends closing)
      rw [text]
      have star : symbol? ['*'] ≠ none := by decide
      exact inside.symbol .leftParenthesis rfl fun _ => word.head_ne atom star _

theorem Statement.surface_argument (argument : Argument) (line : Nat) :
    (Statement.write line argument).toTree.surface = "write" ++ argument.surface ∧
      (Statement.writeln line (some argument)).toTree.surface = "writeln" ++ argument.surface := by
  have texts : (Tree.toSurfaces argument.toTrees).map (shown ·.text) =
      argument.toTrees.map Tree.surface := by
    rw [Tree.toSurfaces_eq_map, List.map_map]
    rfl
  rw [Argument.surface, ← texts, ← String.append_assoc, ← String.append_assoc]
  exact ⟨rfl, rfl⟩

/-- The text of a statement is written of its tokens. -/
theorem Statement.Printed.writes {statement : Statement} {contents : List (Kind × String)}
    (printed : statement.Printed table contents) :
    Writes statement.toTree.surface.toList contents := by
  have opened {keyword : Keyword} {argument : Argument} {contents : List (Kind × String)}
      (inside : argument.Printed table contents) :
      Writes (keyword.spelling ++ argument.surface).toList
        ((.keyword keyword, keyword.spelling) :: contents) := by
    have apart : Apart argument.surface.toList := by
      intro first head
      rw [Argument.surface, String.append_assoc, String.toList_append] at head
      cases head
      decide
    rw [String.toList_append]
    exact .word ((word_of_keyword keyword).before_apart nofun apart) inside.writes
  cases printed with
  | @assign line target value _ contents word _ _ valuePrinted =>
      have inside := valuePrinted.writes delimited_nil .done
      rw [List.append_nil, List.append_nil] at inside
      have sign := inside.spaced (word_of_symbol .colonEquals) nofun
      have text : (Statement.assign line target value).toTree.surface.toList =
          target.mark.text.toList ++
            ' ' :: (":=".toList ++ ' ' :: value.toTree.surface.toList) := by
        change (target.mark.text ++ " := " ++ value.toTree.surface).toList = _
        simp
      rw [text]
      exact sign.spaced word nofun
  | @write line argument _ inside =>
      rw [(Statement.surface_argument argument line).1]
      exact @opened .writeWord _ _ inside
  | @writeln line argument _ inside =>
      rw [(Statement.surface_argument argument line).2]
      exact @opened .writelnWord _ _ inside
  | writelnPlain =>
      have alone := Writes.word ((word_of_keyword .writelnWord).before_apart nofun apart_nil) .done
      rwa [List.append_nil] at alone

end Statements

end MiniPascal
