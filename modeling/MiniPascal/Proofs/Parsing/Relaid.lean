/-
This file shows that the layout of a text does not matter: a text whose gaps are changed has the same
tokens and the same tree, on other lines.
-/

import MiniPascal.Proofs.Parsing.Containment
import MiniPascal.Proofs.Parsing.LikeReadings
import MiniPascal.Proofs.Scanning.Relayout

namespace MiniPascal

mutual

/-- A tree with all its nodes on one line. -/
def Tree.withoutLines : Tree → Tree
  | .node label children => .node { label with line := 0 } (Tree.withoutLinesAll children)

def Tree.withoutLinesAll : List Tree → List Tree
  | [] => []
  | tree :: trees => tree.withoutLines :: Tree.withoutLinesAll trees

end

/-- Readings that differ in the lines only. -/
def Likeness.same : Likeness where
  spelling _ := Eq
  line _ _ := True
  table := Eq
  binding := Eq
  endOfText := rfl
  firstLine := trivial
  enter := by
    rintro _ _ _ _ rfl rfl
    rfl
  entered := by
    rintro _ _ _ _ rfl rfl
    rfl
  lookup? := by
    rintro name _ names _ rfl rfl
    cases names.lookup? name with
    | none => exact .none
    | some cell => exact .some rfl
  detached := by
    rintro _ _ rfl
    rfl

namespace Likeness

theorem Texts.eq {text other : String} (texts : same.Texts text other) : other = text := by
  obtain ⟨kind, same⟩ := texts
  exact Eq.symm same

theorem Labels.eq {label other : Label} (labels : same.Labels label other) :
    { other with line := 0 } = { label with line := 0 } := by
  rw [Label.mk.injEq]
  exact ⟨labels.kind, rfl, eq_of_rel labels.text fun _ _ => Texts.eq, labels.value,
    eq_of_rel labels.binding fun _ _ => Eq.symm⟩

theorem withoutLinesAll_eq {trees others : List Tree}
    (each : List.Forall₂ (fun tree other => other.withoutLines = tree.withoutLines) trees others) :
    Tree.withoutLinesAll others = Tree.withoutLinesAll trees := by
  induction each with
  | nil => rfl
  | cons first _ inductionHypothesis =>
      rw [Tree.withoutLinesAll, Tree.withoutLinesAll, first, inductionHypothesis]

/-- Trees that are alike up to their lines are the same without them. -/
theorem Trees.withoutLines {tree other : Tree} (trees : same.Trees tree other) :
    other.withoutLines = tree.withoutLines := by
  refine trees.inductionOn fun label copy children others labels parts => ?_
  rw [Tree.withoutLines, Tree.withoutLines, withoutLinesAll_eq parts, labels.eq]

/-- Tokens that differ in their lines only are alike. -/
theorem same_tokens {tokens others : List Token}
    (contents : others.map Token.content = tokens.map Token.content) :
    List.Forall₂ same.Tokens tokens others := by
  have found := contents.symm
  rw [← List.forall₂_eq_eq_eq, List.forall₂_map_left_iff, List.forall₂_map_right_iff] at found
  exact found.imp fun _ _ content =>
    ⟨(congrArg Prod.fst content).symm, congrArg Prod.snd content, trivial⟩

end Likeness

/-- The second text has the tokens of the first one, on other lines, and over every table it is parsed
to the same tree with the same number of errors and the same names. -/
structure Relaid (text other : String) : Prop where
  tokens : ∃ tokens others, tokenize text = .ok tokens ∧ tokenize other = .ok others ∧
    others.map Token.content = tokens.map Token.content
  trees : ∀ table, ∃ program copy, (parseProgram text table).result = .ok program ∧
    (parseProgram other table).result = .ok copy ∧
    copy.toTree.withoutLines = program.toTree.withoutLines
  errors : ∀ table, (parseProgram other table).errors = (parseProgram text table).errors
  table : ∀ table, (parseProgram other table).state.table = (parseProgram text table).state.table

/-- Tokens on other lines are parsed alike. -/
theorem Likeness.same_streams {text other : String} {tokens others : List Token}
    (read : tokenize text = .ok tokens) (readOther : tokenize other = .ok others)
    (contents : others.map Token.content = tokens.map Token.content) :
    same.Streams (.ofText text) (.ofText other) := by
  obtain ⟨line, ends, rfl⟩ := tokenize_eq_ok.mp read
  obtain ⟨lineOther, endsOther, rfl⟩ := tokenize_eq_ok.mp readOther
  rw [List.map_append, List.map_append] at contents
  refine ⟨⟨rfl, rfl, trivial⟩, same_tokens (List.append_inj_left' contents rfl), ?_⟩
  change same.Endings (Scanner.ofText text).scan.ending (Scanner.ofText other).scan.ending
  rw [ends, endsOther]
  exact .endOfText trivial

/-- A text that is scanned up to its end is parsed. -/
theorem parseProgram_ok {text : String} {tokens : List Token} (read : tokenize text = .ok tokens)
    (table : SymbolTable) : ∃ program, (parseProgram text table).result = .ok program := by
  obtain found | ⟨fault, ends, _⟩ := Parse.program_total ⟨.ofText text, [], table⟩
  · exact found
  · obtain ⟨line, ended, _⟩ := tokenize_eq_ok.mp read
    have both : Ending.fault fault = .endOfText line := ends.symm.trans ended
    cases both

/-- Texts with the same tokens are parsed to the same trees. -/
theorem Relaid.of_tokens {text other : String} {tokens others : List Token}
    (read : tokenize text = .ok tokens) (readOther : tokenize other = .ok others)
    (contents : others.map Token.content = tokens.map Token.content) : Relaid text other := by
  have outcomes (table : SymbolTable) := Likeness.Reads.program _ ⟨.ofText text, [], table⟩
    ⟨.ofText other, [], table⟩ ⟨Likeness.same_streams read readOther contents, .nil, rfl⟩ rfl
  refine ⟨⟨tokens, others, read, readOther, contents⟩, fun table => ?_, fun table => ?_,
    fun table => ?_⟩
  · obtain ⟨program, result⟩ := parseProgram_ok read table
    obtain ⟨copy, resultCopy⟩ := parseProgram_ok readOther table
    have results := (outcomes table).result
    change Likeness.Results _ (parseProgram text table).result (parseProgram other table).result
      at results
    rw [result, resultCopy] at results
    cases results with
    | ok programs => exact ⟨program, copy, result, resultCopy, programs.withoutLines⟩
  · exact (outcomes table).state.diagnostics.length_eq.symm
  · exact (outcomes table).state.table.symm

/-- When a text is scanned up to its end, all layouts of its tokens that keep them apart have the same
tokens and the same tree, on other lines. So has the text with every token on a line of its own, with
or without a line end behind the last one. -/
theorem layout_independent (text : String) (tokens : List Token)
    (read : tokenize text = .ok tokens) :
    (∀ first pieces other, pieces.map Piece.token = tokens.dropLast → Spaced first pieces →
      other.toList = weave first pieces → Relaid text other) ∧
    Relaid text ("\n".intercalate (tokens.map Token.text)) ∧
    Relaid text ("\n".intercalate (tokens.dropLast.map Token.text)) := by
  have layouts : ∀ first pieces other, pieces.map Piece.token = tokens.dropLast →
      Spaced first pieces → other.toList = weave first pieces → Relaid text other := by
    intro first pieces other same spaced laid
    obtain ⟨others, readOther, contents⟩ := tokenize_of_layout read same spaced laid
    exact .of_tokens read readOther contents
  have lines (last : List Char) := layouts [] (lineByLine last tokens.dropLast)
  refine ⟨layouts, ?_, ?_⟩
  · refine lines ['\n'] _ (tokens_lineByLine _ _) (spaced_lineByLine (.inr rfl) .nil _) ?_
    obtain ⟨line, _, rfl⟩ := tokenize_eq_ok.mp read
    rw [weave_lineByLine, List.dropLast_concat, String.toList_intercalate, List.map_map,
      List.map_append]
    exact (intercalate_concat_nil _ _).trans (by rw [List.isEmpty_map]; rfl)
  · refine lines [] _ (tokens_lineByLine _ _) (spaced_lineByLine (.inl rfl) .nil _) ?_
    rw [weave_lineByLine, ite_self, List.append_nil, String.toList_intercalate, List.map_map]
    rfl

/-- A text without a gap, which ends in a string literal that is left open, and a layout of it with
blanks, comments and a last comment that is left open too. -/
theorem layout_independent_tight :
    tokenize "x<>5.'a" = .ok [⟨.identifier, "x", 1⟩, ⟨.symbol .notEquals, "<>", 1⟩,
        ⟨.integer 5, "5", 1⟩, ⟨.symbol .period, ".", 1⟩, ⟨.error, "'a", 1⟩, .endOfText 1] ∧
      Relaid "x<>5.'a" "x <>\x7b\x7d5\n.(*)*)'a\n(* b" := by
  have read : tokenize "x<>5.'a" = .ok [⟨.identifier, "x", 1⟩, ⟨.symbol .notEquals, "<>", 1⟩,
      ⟨.integer 5, "5", 1⟩, ⟨.symbol .period, ".", 1⟩, ⟨.error, "'a", 1⟩, .endOfText 1] := by rfl
  have blank : Lexeme.ClosedGap [' '] := .blank (by decide) .nil
  have braces : Lexeme.ClosedGap ['\x7b', '\x7d'] := @Lexeme.ClosedGap.braces [] [] (by simp) .nil
  have stars : Lexeme.ClosedGap ['(', '*', ')', '*', ')'] :=
    @Lexeme.ClosedGap.stars [')'] [] (by decide) .nil
  have opened : Lexeme.FinalGap ['\n', '(', '*', ' ', 'b'] :=
    @Lexeme.FinalGap.opened ['\n'] ['(', '*', ' ', 'b'] .lineEnd (.star (by decide))
  have spaced : Spaced [] [⟨⟨.identifier, "x", 1⟩, [' ']⟩,
      ⟨⟨.symbol .notEquals, "<>", 1⟩, ['\x7b', '\x7d']⟩, ⟨⟨.integer 5, "5", 1⟩, ['\n']⟩,
      ⟨⟨.symbol .period, ".", 1⟩, ['(', '*', ')', '*', ')']⟩,
      ⟨⟨.error, "'a", 1⟩, ['\n', '(', '*', ' ', 'b']⟩] := by
    refine ⟨⟨.nil, blank, braces, .lineEnd, stars, opened⟩, by simp, ?_⟩
    simp [Lexeme.OpenString]
  exact ⟨read, (layout_independent _ _ read).1 _ _ _ rfl spaced (by rfl)⟩

end MiniPascal
