/-
This file shows that no text of a program breaks the label of a node in a graph: the brackets of the
label are those of its template, and the text of the node is read back from its cell.
-/

import MiniPascal.Proofs.Trees.Unambiguous

namespace MiniPascal

namespace Text

/-- The entities that stand for characters of markup. -/
def entities : List String := ["&amp;", "&lt;", "&gt;", "&quot;", "&#x27;"]

/-- Every entity is undone once; what it leaves is not read again. -/
def unescapeMarkup : List Char → List Char
  | '&' :: 'a' :: 'm' :: 'p' :: ';' :: rest => '&' :: unescapeMarkup rest
  | '&' :: 'l' :: 't' :: ';' :: rest => '<' :: unescapeMarkup rest
  | '&' :: 'g' :: 't' :: ';' :: rest => '>' :: unescapeMarkup rest
  | '&' :: 'q' :: 'u' :: 'o' :: 't' :: ';' :: rest => '"' :: unescapeMarkup rest
  | '&' :: '#' :: 'x' :: '2' :: '7' :: ';' :: rest => '\'' :: unescapeMarkup rest
  | character :: rest => character :: unescapeMarkup rest
  | [] => []

theorem unescapeMarkup_cons {character : Char} (plain : character ≠ '&') (rest : List Char) :
    unescapeMarkup (character :: rest) = character :: unescapeMarkup rest := by
  rw [unescapeMarkup] <;> simp [plain]

/-- An entity stands for its character before any rest. -/
theorem unescapeMarkup_entity (character : Char) (rest : List Char) :
    unescapeMarkup (entity character ++ rest) = character :: unescapeMarkup rest := by
  unfold entity
  split
  case h_6 noAnd _ _ _ _ => exact unescapeMarkup_cons noAnd rest
  all_goals rfl

theorem unescapeMarkup_flatMap (characters : List Char) :
    unescapeMarkup (characters.flatMap entity) = characters := by
  induction characters with
  | nil => rfl
  | cons character characters inductionHypothesis =>
      rw [List.flatMap_cons, unescapeMarkup_entity, inductionHypothesis]

/-- Every ampersand is the first character of an entity. -/
def Escaped (text : List Char) : Prop :=
  ∀ front behind, text = front ++ '&' :: behind →
    ∃ entity ∈ entities, entity.toList <+: '&' :: behind

theorem Escaped.of_not_mem {text : List Char} (plain : '&' ∉ text) : Escaped text := by
  rintro front behind rfl
  exact absurd (List.mem_append_right _ List.mem_cons_self) plain

theorem Escaped.append {first second : List Char} (escaped : Escaped first)
    (others : Escaped second) : Escaped (first ++ second) := by
  intro front behind same
  rcases List.append_eq_append_iff.mp same with ⟨middle, rfl, whole⟩ | ⟨middle, whole, rest⟩
  · exact others middle behind whole
  · cases middle with
    | nil => exact others [] behind rest.symm
    | cons character middle =>
        obtain ⟨rfl, rfl⟩ := List.cons.inj rest
        obtain ⟨entity, known, starts⟩ := escaped front middle whole
        exact ⟨entity, known, starts.trans (List.prefix_append _ _)⟩

theorem Escaped.single {rest : List Char} (known : String.ofList ('&' :: rest) ∈ entities)
    (plain : '&' ∉ rest) : Escaped ('&' :: rest) := by
  intro front behind same
  cases front with
  | nil => exact ⟨_, known, by rw [String.toList_ofList, same, List.nil_append]⟩
  | cons first front =>
      obtain ⟨_, rfl⟩ := List.cons.inj same
      exact absurd (List.mem_append_right _ List.mem_cons_self) plain

theorem escaped_entity (character : Char) : Escaped (entity character) := by
  unfold entity
  split
  case h_6 noAnd _ _ _ _ =>
    exact .of_not_mem fun inside => noAnd (List.mem_singleton.mp inside).symm
  all_goals exact .single (by decide) (by decide)

theorem escaped_flatMap (characters : List Char) : Escaped (characters.flatMap entity) := by
  induction characters with
  | nil => exact .of_not_mem nofun
  | cons character characters inductionHypothesis =>
      exact (escaped_entity character).append inductionHypothesis

def isBracket (character : Char) : Bool := character == '<' || character == '>'

/-- A text is enclosed by its first bracket, which its last character alone closes. -/
structure Enclosed (text : List Char) : Prop where
  starts : text.head? = some '<'
  ends : text.getLast? = some '>'
  balanced : text.count '<' = text.count '>'
  inside : ∀ front behind, text = front ++ behind → front ≠ [] → behind ≠ [] →
    front.count '>' < front.count '<'

/-- The brackets of so many tags, none of which holds another one. -/
def tagBrackets (tags : Nat) : List Char := (List.replicate tags ['<', '>']).flatten

theorem tagBrackets_succ (tags : Nat) : tagBrackets (tags + 1) = '<' :: '>' :: tagBrackets tags := by
  rw [tagBrackets, List.replicate_succ, List.flatten_cons]
  rfl

theorem count_tagBrackets (tags : Nat) :
    (tagBrackets tags).count '<' = (tagBrackets tags).count '>' := by
  induction tags with
  | zero => rfl
  | succ tags inductionHypothesis =>
      rw [tagBrackets_succ]
      simpa using inductionHypothesis

/-- In front of the last bracket no more brackets are closed than opened. -/
theorem count_le_of_tags {tags : Nat} {front behind : List Char}
    (same : tagBrackets tags ++ ['>'] = front ++ behind) (last : behind ≠ []) :
    front.count '>' ≤ front.count '<' := by
  induction tags generalizing front with
  | zero =>
      cases front with
      | nil => exact Nat.le_refl _
      | cons first front =>
          have ended := (List.append_eq_nil_iff.mp (List.cons.inj same).2.symm).2
          exact absurd ended last
  | succ tags inductionHypothesis =>
      rw [tagBrackets_succ] at same
      match front with
      | [] => exact Nat.le_refl _
      | [first] =>
          obtain ⟨rfl, _⟩ := List.cons.inj same
          exact Nat.zero_le _
      | first :: second :: front =>
          obtain ⟨rfl, behindFirst⟩ := List.cons.inj same
          obtain ⟨rfl, others⟩ := List.cons.inj behindFirst
          have counts := inductionHypothesis others
          simpa using counts

/-- Tags between two outer brackets are enclosed by these, whatever else stands between the
brackets. -/
theorem Enclosed.of_tags {text : List Char} {tags : Nat} (starts : text.head? = some '<')
    (ends : text.getLast? = some '>')
    (brackets : text.filter isBracket = '<' :: (tagBrackets tags ++ ['>'])) : Enclosed text where
  starts := starts
  ends := ends
  balanced := by
    have opened : (text.filter isBracket).count '<' = text.count '<' := List.count_filter rfl
    have closed : (text.filter isBracket).count '>' = text.count '>' := List.count_filter rfl
    rw [← opened, ← closed, brackets]
    simp [count_tagBrackets]
  inside front behind same first last := by
    subst same
    obtain ⟨final, rfl⟩ : ∃ final, behind = final ++ ['>'] := by
      rw [List.getLast?_append_of_ne_nil _ last] at ends
      exact List.getLast?_eq_some_iff.mp ends
    obtain ⟨opening, front, rfl⟩ := List.exists_cons_of_ne_nil first
    obtain rfl := Option.some.inj starts
    rw [List.filter_append, List.filter_cons_of_pos rfl, List.cons_append] at brackets
    have counts := count_le_of_tags (List.cons.inj brackets).2.symm (by simp [isBracket])
    rw [List.count_filter rfl, List.count_filter rfl] at counts
    simpa using Nat.lt_succ_of_le counts

end Text

namespace Graph

open Text

/-- The opening of a label depends on the kind of its node alone. -/
def opening (kind : NodeKind) : String :=
  "<<TABLE BORDER=\"0\" CELLBORDER=\"1\" CELLSPACING=\"0\"" ++
    (if kind.isStatement then " STYLE=\"ROUNDED\"" else "") ++ "><TR><TD" ++
    (if kind = .test then " BGCOLOR=\"#ffefef\"" else "") ++ "><B>"

/-- The template of a label, filled with a name, the text of a cell and a line. -/
def template (kind : NodeKind) (name cell line : String) : String :=
  opening kind ++ name ++ "</B></TD></TR><TR><TD><FONT POINT-SIZE=\"10\">" ++ cell ++
    "</FONT><BR/><FONT POINT-SIZE=\"8\">line " ++ line ++ "</FONT></TD></TR></TABLE>>"

/-- A text that is not blank fills the cell itself. -/
theorem markup_eq_template {label : Label} {body : String}
    (inked : body.toList.all isBlank = false) :
    markup label body =
      template label.kind (escapeMarkup label.kind.name) (escapeMarkup body) (toString label.line) := by
  unfold markup
  rw [inked, if_neg Bool.false_ne_true]
  rfl

variable {name cell line : String}

theorem filter_opening (kind : NodeKind) :
    (opening kind).toList.filter isBracket = '<' :: tagBrackets 4 := by
  have table : "<<TABLE BORDER=\"0\" CELLBORDER=\"1\" CELLSPACING=\"0\"".toList.filter isBracket =
      ['<', '<'] := rfl
  have style : (if kind.isStatement then " STYLE=\"ROUNDED\"" else "").toList.filter isBracket =
      [] := by
    split <;> rfl
  have row : "><TR><TD".toList.filter isBracket = ['>', '<', '>', '<'] := rfl
  have colour : (if kind = .test then " BGCOLOR=\"#ffefef\"" else "").toList.filter isBracket =
      [] := by
    split <;> rfl
  have font : "><B>".toList.filter isBracket = ['>', '<', '>'] := rfl
  unfold opening
  simp only [String.toList_append, List.filter_append]
  rw [table, style, row, colour, font]
  rfl

/-- The brackets of a template are its own. -/
theorem filter_template (kind : NodeKind) (plainName : name.toList.filter isBracket = [])
    (plainCell : cell.toList.filter isBracket = []) (plainLine : line.toList.filter isBracket = []) :
    (template kind name cell line).toList.filter isBracket = '<' :: (tagBrackets 17 ++ ['>']) := by
  have middle : "</B></TD></TR><TR><TD><FONT POINT-SIZE=\"10\">".toList.filter isBracket =
      tagBrackets 6 := rfl
  have behind : "</FONT><BR/><FONT POINT-SIZE=\"8\">line ".toList.filter isBracket =
      tagBrackets 3 := rfl
  have closing : "</FONT></TD></TR></TABLE>>".toList.filter isBracket =
      tagBrackets 4 ++ ['>'] := rfl
  simp only [template, String.toList_append, List.filter_append, plainName, plainCell, plainLine,
    filter_opening, middle, behind, closing]
  rfl

theorem escaped_template (kind : NodeKind) (nameEscaped : Escaped name.toList)
    (cellEscaped : Escaped cell.toList) (lineEscaped : Escaped line.toList) :
    Escaped (template kind name cell line).toList := by
  have plain (text : String) (plain : '&' ∉ text.toList) : Escaped text.toList := .of_not_mem plain
  have opened : Escaped (opening kind).toList := by
    refine .of_not_mem ?_
    unfold opening
    split <;> split <;> decide +kernel
  rw [template]
  simp only [String.toList_append]
  exact .append (.append (.append (.append (.append (.append opened nameEscaped) (plain _ (by decide)))
    cellEscaped) (plain _ (by decide))) lineEscaped) (plain _ (by decide))

theorem head?_append {first : String} {character : Char}
    (starts : first.toList.head? = some character) (second : String) :
    (first ++ second).toList.head? = some character := by
  obtain ⟨rest, same⟩ := List.head?_eq_some_iff.mp starts
  rw [String.toList_append, same, List.cons_append, List.head?_cons]

theorem head?_template (kind : NodeKind) :
    (template kind name cell line).toList.head? = some '<' := by
  unfold template opening
  iterate 10 refine head?_append ?_ _
  rfl

theorem getLast?_template (kind : NodeKind) :
    (template kind name cell line).toList.getLast? = some '>' := by
  rw [template, String.toList_append, List.getLast?_append_of_ne_nil _ (by decide)]
  rfl

end Graph

namespace Text

theorem not_bracket_of_mem_entity {character inner : Char} (inside : inner ∈ entity character) :
    isBracket inner = false := by
  unfold entity at inside
  split at inside
  case h_6 noAnd noLess noMore _ _ =>
    rw [List.mem_singleton.mp inside, isBracket, beq_false_of_ne noLess, beq_false_of_ne noMore]
    rfl
  all_goals
    have plain := List.all_eq_true.mp (show List.all _ (!isBracket ·) = true from rfl) _ inside
    simpa using plain

/-- No bracket of a text is left when it is escaped. -/
theorem filter_escapeMarkup (text : String) :
    (escapeMarkup text).toList.filter isBracket = [] := by
  rw [escapeMarkup, String.toList_ofList, List.filter_eq_nil_iff]
  intro inner inside
  obtain ⟨character, _, inside⟩ := List.mem_flatMap.mp inside
  exact Bool.eq_false_iff.mp (not_bracket_of_mem_entity inside)

theorem escaped_escapeMarkup (text : String) : Escaped (escapeMarkup text).toList := by
  rw [escapeMarkup, String.toList_ofList]
  exact escaped_flatMap _

/-- The digits of a number are no characters of markup. -/
theorem not_mem_toString {character : Char} (special : character.isDigit = false) (number : Nat) :
    character ∉ (toString number).toList := by
  rw [Nat.toString_eq_repr, Nat.toList_repr]
  intro inside
  rw [Nat.isDigit_of_mem_toDigits (by decide) (by decide) inside] at special
  cases special

theorem filter_toString (number : Nat) : (toString number).toList.filter isBracket = [] := by
  refine List.filter_eq_nil_iff.mpr fun character inside bracket => ?_
  simp only [isBracket, Bool.or_eq_true, beq_iff_eq] at bracket
  rcases bracket with rfl | rfl <;> exact not_mem_toString rfl number inside

end Text

/-- A text shows something when it has a character that is not blank. -/
def Inked (text : String) : Prop := text.toList.all Text.isBlank = false

theorem Inked.before {text : String} (inked : Inked text) (behind : String) :
    Inked (text ++ behind) := by
  rw [Inked, String.toList_append, List.all_append, inked, Bool.false_and]

theorem Inked.behind {text : String} (inked : Inked text) (front : String) :
    Inked (front ++ text) := by
  rw [Inked, String.toList_append, List.all_append, inked, Bool.and_false]

/-- The text of a node that is not a term has a word or an assignment sign. -/
theorem Tree.inked_of_not_term {node : Tree} (other : node.kind.isTerm = false) :
    Inked node.surface := by
  obtain ⟨⟨kind, line, text, value, binding⟩, children⟩ := node
  have known (word : String) (inked : word.toList.all Text.isBlank = false) : Inked word := inked
  have writing (word : String) (inked : Inked word) (parts : List Surface) :
      Inked (shown (if parts.isEmpty then some word
        else some (word ++ "(" ++ ":".intercalate (parts.map (shown ·.text)) ++ ")"))) := by
    split
    · exact inked
    · exact ((inked.before _).before _).before _
  cases kind with
  | program => exact (known "program " (by decide +kernel)).before _
  | compound => exact known "begin ... end" (by decide +kernel)
  | assign => exact ((known " := " (by decide +kernel)).behind _).before _
  | loop => exact known "loop" (by decide +kernel)
  | test => exact (known "exit when " (by decide +kernel)).before _
  | conditional => exact (known "if " (by decide +kernel)).before _
  | write => exact writing "write" (known _ (by decide +kernel)) _
  | writeln => exact writing "writeln" (known _ (by decide +kernel)) _
  | _ => cases other

/-- The text of a node of a parsed text is not blank. -/
theorem Tree.inked {text : String} {table : SymbolTable} {program : Program}
    (result : (parseProgram text table).result = .ok program) {node : Tree}
    (inside : node ∈ program.toTree.preorder) : Inked node.surface := by
  cases term : node.kind.isTerm with
  | true =>
      exact (program.allOfSyntax node inside).inked term ((parseProgram_spelled result).part inside)
  | false => exact inked_of_not_term term

/-- The label of a node of a parsed text, whatever mistakes this has. The cell of the label holds the
escaped text of the node, which is never blank, and undoing the entities of the cell gives this text.
The label is the template filled with texts without brackets; its first bracket is closed by its last
character alone, and every ampersand starts an entity. -/
theorem graph_labels_unbroken (text : String) (table : SymbolTable) (program : Program)
    (result : (parseProgram text table).result = .ok program) :
    ∀ node ∈ program.toTree.preorder, ∃ name cell line : String,
      Graph.markup node.label node.surface = Graph.template node.kind name cell line ∧
      (∀ filling ∈ [name, cell, line], filling.toList.filter Text.isBracket = []) ∧
      Text.Enclosed (Graph.markup node.label node.surface).toList ∧
      Text.Escaped (Graph.markup node.label node.surface).toList ∧
      Text.unescapeMarkup cell.toList = node.surface.toList ∧
      Inked node.surface := by
  intro node inside
  have inked := Tree.inked result inside
  have brackets : ∀ filling ∈ [Text.escapeMarkup node.kind.name, Text.escapeMarkup node.surface,
      toString node.label.line], filling.toList.filter Text.isBracket = [] :=
    List.forall_mem_cons.mpr ⟨Text.filter_escapeMarkup _, List.forall_mem_cons.mpr
      ⟨Text.filter_escapeMarkup _, List.forall_mem_singleton.mpr (Text.filter_toString _)⟩⟩
  refine ⟨_, _, _, Graph.markup_eq_template inked, brackets, ?_, ?_, ?_, inked⟩
  · rw [Graph.markup_eq_template inked]
    exact .of_tags (Graph.head?_template _) (Graph.getLast?_template _)
      (Graph.filter_template _ (Text.filter_escapeMarkup _) (Text.filter_escapeMarkup _)
        (Text.filter_toString _))
  · rw [Graph.markup_eq_template inked]
    exact Graph.escaped_template _ (Text.escaped_escapeMarkup _) (Text.escaped_escapeMarkup _)
      (.of_not_mem (Text.not_mem_toString rfl _))
  · rw [Text.escapeMarkup, String.toList_ofList, Text.unescapeMarkup_flatMap]

/-- A program that writes a tag and an entity. -/
def taggingProgram : Program :=
  ⟨1, some "p", 1, [.writeln 1 (some ⟨.string ⟨"'<b>&amp;'", 1⟩ "<b>&amp;", .plain⟩)]⟩

theorem graph_labels_unbroken_tags :
    (parseProgram "program p; begin writeln('<b>&amp;') end." .empty).result =
        .ok taggingProgram ∧
      ∃ node ∈ taggingProgram.toTree.preorder, node.surface = "writeln('<b>&amp;')" ∧
        Text.Enclosed (Graph.markup node.label node.surface).toList ∧
        Text.Escaped (Graph.markup node.label node.surface).toList := by
  have result : (parseProgram "program p; begin writeln('<b>&amp;') end." .empty).result =
      .ok taggingProgram := by cbv
  have inside : (Statement.writeln 1 (some ⟨.string ⟨"'<b>&amp;'", 1⟩ "<b>&amp;", .plain⟩)).toTree ∈
      taggingProgram.toTree.preorder := List.mem_of_getElem? (i := 2) rfl
  obtain ⟨_, _, _, _, _, enclosed, escaped, _, _⟩ :=
    graph_labels_unbroken _ _ _ result _ inside
  exact ⟨result, _, inside, by decide +kernel, enclosed, escaped⟩

end MiniPascal
