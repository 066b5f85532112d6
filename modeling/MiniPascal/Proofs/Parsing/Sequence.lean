/-
This file reads a program whose body is put together from the bodies of two others.
-/

import MiniPascal.Proofs.Parsing.AlikePrograms
import MiniPascal.Proofs.Parsing.Acceptance
import MiniPascal.Proofs.Parsing.Following
import MiniPascal.Proofs.Parsing.Names
import MiniPascal.Proofs.Parsing.Relaid

namespace MiniPascal

/-- Only a program has a period. -/
theorem Derives.noPeriod {phrase : Nonterminal} {tokens rest : List Token}
    (derives : Derives phrase tokens rest) (inside : phrase ≠ .program) :
    Passes (·.kind ≠ .symbol .period) tokens rest := by
  have skip {kind : Kind} {token : Token} {rest : List Token} (same : token.kind = kind)
      (other : kind ≠ .symbol .period) :
      Passes (·.kind ≠ .symbol .period) (token :: rest) rest := .single (same ▸ other)
  -- The kinds that are told by a test do not include a period.
  have tested {test : Kind → Bool} {token : Token} {rest : List Token}
      (found : test token.kind = true) (other : test (.symbol .period) = false) :
      Passes (·.kind ≠ .symbol .period) (token :: rest) rest :=
    .single fun same => by
      rw [same, other] at found
      cases found
  induction derives with
  | program => exact absurd rfl inside
  | compoundStatement opens _ closes body =>
      exact .trans (skip opens nofun) (.trans (body nofun) (skip closes nofun))
  | emptyList | emptyBranch | plain | noFurtherTerm | noFurtherFactor => exact .refl
  | gap kind _ others => exact .trans (skip kind nofun) (others nofun)
  | lastStatement _ last | branch _ last | alone _ last => exact last nofun
  | statement member _ form =>
      refine form ?_
      rintro rfl
      exact absurd member (by decide)
  | nextStatement _ kind _ first others =>
      exact .trans (first nofun) (.trans (skip kind nofun) (others nofun))
  | assignment kind sign _ value =>
      exact .trans (skip kind nofun) (.trans (skip sign nofun) (value nofun))
  | repeatStatement opens _ test _ body condition =>
      exact .trans (skip opens nofun)
        (.trans (body nofun) (.trans (skip test nofun) (condition nofun)))
  | whileStatement opens _ doing _ condition body =>
      exact .trans (skip opens nofun)
        (.trans (condition nofun) (.trans (skip doing nofun) (body nofun)))
  | ifThen opens _ thenKind _ condition branch =>
      exact .trans (skip opens nofun)
        (.trans (condition nofun) (.trans (skip thenKind nofun) (branch nofun)))
  | ifElse opens _ thenKind _ elseKind _ condition branch otherwise =>
      exact .trans (skip opens nofun) (.trans (condition nofun) (.trans (skip thenKind nofun)
        (.trans (branch nofun) (.trans (skip elseKind nofun) (otherwise nofun)))))
  | writeStatement opens parenthesis _ closes argument
  | writelnStatement opens parenthesis _ closes argument =>
      exact .trans (skip opens nofun)
        (.trans (skip parenthesis nofun) (.trans (argument nofun) (skip closes nofun)))
  | writelnLine opens => exact skip opens nofun
  | writeArgument writable _ layout => exact .trans (tested writable rfl) (layout nofun)
  | width colon field => exact .trans (skip colon nofun) (skip field nofun)
  | places colon field second places =>
      exact .trans (skip colon nofun) (.trans (skip field nofun)
        (.trans (skip second nofun) (skip places nofun)))
  | comparison _ compares _ left right =>
      exact .trans (left nofun) (.trans (tested compares rfl) (right nofun))
  | unsigned _ _ first others | term _ _ first others => exact .trans (first nofun) (others nofun)
  | signed sign _ _ first others | furtherTerm sign _ _ first others
  | furtherFactor sign _ _ first others =>
      exact .trans (tested sign rfl) (.trans (first nofun) (others nofun))
  | identifier kind | integer kind | real kind => exact skip kind nofun
  | group opens _ closes inner =>
      exact .trans (skip opens nofun) (.trans (inner nofun) (skip closes nofun))
  | negation kind _ operand => exact .trans (skip kind nofun) (operand nofun)

/-- The tokens of a program with a name and a body, on one line. -/
def programTokens (name : String) (body : List Token) : List Token :=
  ⟨.keyword .programWord, "program", 1⟩ :: ⟨.identifier, name, 1⟩ ::
    ⟨.symbol .semicolon, ";", 1⟩ :: ⟨.keyword .beginWord, "begin", 1⟩ ::
      (body ++ [⟨.keyword .endWord, "end", 1⟩, ⟨.symbol .period, ".", 1⟩])

/-- A text has the tokens of a program, on any lines. -/
def WritesProgram (text name : String) (body : List Token) : Prop :=
  (Scanner.ofText text).scan.tokens.map Token.content =
    (programTokens name body).map Token.content

/-- The tokens of a text that writes a program, around those of its body. -/
theorem WritesProgram.split {text name : String} {body : List Token}
    (writes : WritesProgram text name body) :
    ∃ opening word semicolon begins own closing period,
      (Scanner.ofText text).scan.tokens =
        opening :: word :: semicolon :: begins :: (own ++ [closing, period]) ∧
      [opening, word, semicolon, begins, closing, period].map Token.content =
        (programTokens name []).map Token.content ∧
      own.map Token.content = body.map Token.content := by
  have parts : (Scanner.ofText text).scan.tokens.map Token.content = _ := writes
  rw [programTokens, List.map_cons, List.map_cons, List.map_cons, List.map_cons, List.map_append]
    at parts
  obtain ⟨opening, tokens, same, opens, parts⟩ := List.map_eq_cons_iff.mp parts
  obtain ⟨word, tokens, rfl, names, parts⟩ := List.map_eq_cons_iff.mp parts
  obtain ⟨semicolon, tokens, rfl, separates, parts⟩ := List.map_eq_cons_iff.mp parts
  obtain ⟨begins, tokens, rfl, begun, parts⟩ := List.map_eq_cons_iff.mp parts
  obtain ⟨own, last, rfl, owns, parts⟩ := List.map_eq_append_iff.mp parts
  obtain ⟨closing, last, rfl, closes, parts⟩ := List.map_eq_cons_iff.mp parts
  obtain ⟨period, last, rfl, ends, parts⟩ := List.map_eq_cons_iff.mp parts
  obtain rfl := List.map_eq_nil_iff.mp parts
  refine ⟨opening, word, semicolon, begins, own, closing, period, same, ?_, owns⟩
  simp [programTokens, opens, names, separates, begun, closes, ends]

/-- The names that a table knows stay known while statements are read. -/
theorem StatementReading.keeps {construct : Construct} {table after : SymbolTable}
    {tokens rest : List Token} {found : List Statement}
    (reading : StatementReading construct table tokens found after rest) {name : String} {cell : Cell}
    (known : table.lookup? name = some cell) : after.lookup? name = some cell := by
  induction reading with
  | assign => exact SymbolTable.lookup?_enter_of_some known _
  | compound _ _ _ body | repeatUntil _ _ _ _ body | whileDo _ _ _ _ _ _ body =>
      exact body known
  | ifThen _ _ _ _ _ branch => exact branch known
  | ifElse _ _ _ _ _ _ branch otherwise => exact otherwise (branch known)
  | branch _ inside | listGap _ _ inside | listLast _ _ inside => exact inside known
  | listNext _ _ _ first others => exact others (first known)
  | write | writeln | writelnPlain | emptyBranch | listEnd => exact known

/-- A closing word and a period that are found at the end of a text without other periods are its
last tokens. -/
theorem closing_eq_last {own : List Token} {closing period last point : Token}
    {rest : List Token} (noPeriod : ∀ token ∈ own, token.kind ≠ .symbol .period)
    (lastKind : last.kind = .keyword .endWord) (periodKind : period.kind = .symbol .period)
    (behind : closing :: period :: rest <:+ own ++ [last, point]) :
    closing :: period :: rest = [last, point] := by
  obtain ⟨front, same⟩ := behind
  obtain rfl | ⟨others, final, rfl⟩ := List.eq_nil_or_concat rest
  · have lengths : ([closing, period] : List Token).length = [last, point].length := rfl
    exact (List.append_inj' same lengths).2
  · have before : front ++ closing :: period :: others = own ++ [last] := by
      have regrouped : (front ++ closing :: period :: others) ++ [final] = (own ++ [last]) ++ [point] := by
        simpa using same
      exact (List.append_inj' regrouped rfl).1
    have inside : period ∈ own ++ [last] := by
      rw [← before]
      simp
    rcases List.mem_append.mp inside with member | member
    · exact absurd periodKind (noPeriod period member)
    · rw [List.mem_singleton.mp member, lastKind] at periodKind
      cases periodKind

/-- A program without errors is read with its whole body, up to the last two tokens. -/
theorem WritesProgram.reads {text name : String} {body : List Token} {table after : SymbolTable}
    {program : Program} (writes : WritesProgram text name body)
    (derives : Derives .statementList body []) (parses : Parses text table program after) :
    ∃ opening word semicolon begins own closing period,
      [opening, word, semicolon, begins, closing, period].map Token.content =
        (programTokens name []).map Token.content ∧
      own.map Token.content = body.map Token.content ∧
      StatementReading (.list .endWord) (table.enter name) (own ++ [closing, period]) program.body
        after [closing, period] := by
  obtain ⟨opening, word, semicolon, begins, own, closing, period, same, frame, owns⟩ := writes.split
  refine ⟨opening, word, semicolon, begins, own, closing, period, frame, owns, ?_⟩
  simp only [programTokens, List.map_cons, List.nil_append, List.map_nil, List.cons.injEq,
    Token.content, Prod.mk.injEq, and_true] at frame
  obtain ⟨_, ⟨_, rfl⟩, _, _, ⟨closes, _⟩, _⟩ := frame
  have noPeriod : ∀ token ∈ own, token.kind ≠ .symbol .period := by
    intro token inside
    have member : token.content ∈ body.map Token.content := owns ▸ List.mem_map_of_mem inside
    obtain ⟨other, otherInside, contents⟩ := List.mem_map.mp member
    have kinds : other.kind = token.kind := congrArg Prod.fst contents
    rw [← kinds]
    exact (derives.noPeriod (by simp) other otherInside).resolve_right (by simp)
  obtain ⟨rest, reading⟩ := parses_iff_reading.mp parses
  rw [same] at reading
  cases reading with
  | program _ _ _ _ bodyReading closing' period' =>
      have last := closing_eq_last noPeriod closes period' bodyReading.leaves.1
      rw [last] at bodyReading
      exact bodyReading

/-- The statements of two bodies with a semicolon between them are those of the first body and then
those of the second one. -/
theorem Parses.sequence {first second both name : String} {body others : List Token}
    {semicolon : Token} {table middle after : SymbolTable} {program other : Program}
    (writes : WritesProgram first name body) (writesOther : WritesProgram second name others)
    (writesBoth : WritesProgram both name (body ++ semicolon :: others))
    (derives : Derives .statementList body []) (derivesOther : Derives .statementList others [])
    (separates : semicolon.kind = .symbol .semicolon) (parses : Parses first table program middle)
    (parsesOther : Parses second middle other after) :
    ∃ whole, Parses both table whole after ∧
      Likeness.same.Bodies (program.body ++ other.body) whole.body := by
  obtain ⟨opening, word, joint, begins, own, closing, period, frame, owns, reading⟩ :=
    writes.reads derives parses
  obtain ⟨_, _, _, _, ownOther, closingOther, periodOther, frameOther, ownsOther, readingOther⟩ :=
    writesOther.reads derivesOther parsesOther
  have contents := frame
  have contentsOther := frameOther
  simp only [programTokens, List.map_cons, List.nil_append, List.map_nil, List.cons.injEq,
    Token.content, Prod.mk.injEq, and_true] at frame frameOther
  obtain ⟨⟨opens, _⟩, ⟨names, rfl⟩, ⟨joins, _⟩, ⟨begun, _⟩, ⟨closes, _⟩, _⟩ := frame
  obtain ⟨_, _, _, _, ⟨closesOther, _⟩, endsOther, _⟩ := frameOther
  -- The second body is read over the names that the first one leaves, which include that of the program.
  have known := reading.keeps (SymbolTable.lookup?_enter table word.text)
  have entered : middle.enter word.text = middle :=
    SymbolTable.enter_of_contains (Option.isSome_iff_exists.mpr ⟨_, known⟩)
  rw [entered] at readingOther
  have ended : (nextKind [closing, period]).isKeyword .endWord = true :=
    Kind.isKeyword_iff.mpr closes
  obtain ⟨front, cut, goesOn⟩ := reading.goesOn rfl ended
  obtain rfl := List.append_cancel_right cut
  have wholeReading := goesOn (semicolon :: (ownOther ++ [closingOther, periodOther]))
    (Kind.isSymbol_iff.mpr separates) rfl readingOther
  have composed := ProgramReading.program opens names joins begun wholeReading closesOther endsOther
  have same : (Scanner.ofText both).scan.tokens.map Token.content =
      (opening :: word :: joint :: begins :: (own ++ semicolon ::
        (ownOther ++ [closingOther, periodOther]))).map Token.content := by
    have written : (Scanner.ofText both).scan.tokens.map Token.content = _ := writesBoth
    rw [written]
    simp only [programTokens, List.map_cons, List.map_append, List.map_nil, List.nil_append,
      List.cons.injEq, and_true, owns, ownsOther] at contents contentsOther ⊢
    simp [contents, contentsOther]
  obtain ⟨copy, afterCopy, rest, readingCopy, programs, tables, _⟩ :=
    composed.alike (Likeness.same_tokens same) (rfl : Likeness.same.table table table)
  obtain rfl : after = afterCopy := tables
  exact ⟨copy, parses_iff_reading.mpr ⟨rest, readingCopy⟩, programs.bodies⟩

end MiniPascal
