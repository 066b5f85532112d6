/-
This file shows that the greedy reading of statements never fails on a program of the grammar: an
ELSE that an inner IF takes is given up by an outer one.
-/

import MiniPascal.Proofs.Parsing.ExpressionCompleteness

namespace MiniPascal

/-- Branches go on behind a statement that stands in so many conditionals without an ELSE. -/
inductive ElseTail : Nat → List Token → List Token → Prop where
  | done {slots : Nat} {rest : List Token} : ElseTail slots rest rest
  | attached {slots : Nat} {elseToken : Token} {tokens middle rest : List Token}
      (elseKind : elseToken.kind = .keyword .elseWord) (branch : Derives .branch tokens middle)
      (others : ElseTail slots middle rest) :
      ElseTail (slots + 1) (elseToken :: tokens) rest

/-- A conditional need not have an ELSE. -/
theorem ElseTail.weaken {slots : Nat} {tokens rest : List Token}
    (tail : ElseTail slots tokens rest) : ElseTail (slots + 1) tokens rest := by
  induction tail with
  | done => exact .done
  | attached elseKind branch _ others => exact .attached elseKind branch others

/-- What ends a statement ends an expression too and goes on with nothing optional. -/
theorem apart_of_endsStatement {kind : Kind} (ends : Parse.endsStatement kind = true) :
    kind.endsExpression = true ∧ kind.isSymbol .leftParenthesis = false ∧
      kind.isKeyword .elseWord = false := by
  cases kind with
  | symbol mark => cases mark <;> first | (refine ⟨?_, ?_, ?_⟩ <;> rfl) | cases ends
  | keyword word => cases word <;> first | (refine ⟨?_, ?_, ?_⟩ <;> rfl) | cases ends
  | endOfText => refine ⟨?_, ?_, ?_⟩ <;> rfl
  | _ => cases ends

/-- Behind a statement neither an operator nor a parenthesis comes next. -/
theorem ElseTail.apart {slots : Nat} {tokens rest : List Token} (tail : ElseTail slots tokens rest)
    (ends : Parse.endsStatement (nextKind rest) = true) :
    (nextKind tokens).endsExpression = true ∧
      (nextKind tokens).isSymbol .leftParenthesis = false := by
  cases tail with
  | done =>
      obtain ⟨endsExpression, noParenthesis, _⟩ := apart_of_endsStatement ends
      exact ⟨endsExpression, noParenthesis⟩
  | attached elseKind =>
      simp only [nextKind, elseKind]
      exact ⟨rfl, rfl⟩

/-- A reading goes as far as it can into the branches behind the statement. -/
def ReadsUpTo (table : SymbolTable) (construct : Construct) (slots : Nat)
    (tokens rest : List Token) : Prop :=
  ∃ found after last, StatementReading construct table tokens [found] after last ∧
    ElseTail slots last rest ∧ ReadsKnown after last

/-- Every derivation of a construct within so many tokens has a greedy reading. -/
def ReadsPhrase (construct : Construct) (bound : Nat) : Prop :=
  ∀ ⦃table tokens middle rest slots⦄, Derives construct.phrase tokens middle →
    ElseTail slots middle rest → Parse.endsStatement (nextKind rest) = true →
      tokens.length ≤ bound → ReadsKnown table tokens → ReadsUpTo table construct slots tokens rest

/-- Every list of statements within so many tokens is read up to its closing word. -/
def ReadsList (bound : Nat) : Prop :=
  ∀ ⦃terminal table tokens closing rest⦄, Derives .statementList tokens (closing :: rest) →
    closing.kind = .keyword terminal →
      (terminal = .endWord ∨ terminal = .untilWord) → tokens.length ≤ bound →
        ReadsKnown table tokens →
          ∃ found after, StatementReading (.list terminal) table tokens found after
            (closing :: rest) ∧ ReadsKnown after (closing :: rest)

/-- Outside of all conditionals no branch goes on. -/
theorem ElseTail.ended {tokens rest : List Token} (tail : ElseTail 0 tokens rest) :
    tokens = rest := by
  cases tail
  rfl

theorem readsList_of_statement {bound : Nat} (statementReads : ReadsPhrase .statement bound) :
    ReadsList bound := by
  intro terminal table tokens closing rest derives closes terminals short known
  have ends : Parse.endsList (·.isKeyword terminal) closing.kind = true := by
    simp [Parse.endsList, closes, Kind.isKeyword]
  have endsStatement : Parse.endsStatement (nextKind (closing :: rest)) = true := by
    rcases terminals with rfl | rfl <;> (simp only [nextKind, closes]; rfl)
  induction length : tokens.length using Nat.strongRecOn generalizing table tokens with
  | ind length inductionHypothesis =>
  cases derives with
  | emptyList => exact ⟨[], table, .listEnd ends, known⟩
  | gap kind others =>
      simp only [List.length_cons] at short length
      have known := (readsKnown_other (by rw [kind]; rfl)).mp known
      obtain ⟨found, after, reading, known⟩ :=
        inductionHypothesis _ (by omega) others (by omega) known rfl
      exact ⟨found, after, .listGap kind reading, known⟩
  | lastStatement last =>
      have done : ElseTail 0 (closing :: rest) (closing :: rest) := .done
      obtain ⟨found, after, next, reading, tail, known⟩ :=
        statementReads last done endsStatement short known
      obtain rfl := tail.ended
      exact ⟨[found], after, .listLast reading ends, known⟩
  | @nextStatement semicolon _ middle _ first kind others =>
      have done : ElseTail 0 (semicolon :: middle) (semicolon :: middle) := .done
      have separates : Parse.endsStatement (nextKind (semicolon :: middle)) = true := by
        simp only [nextKind, kind]
        rfl
      obtain ⟨found, between, next, reading, tail, known⟩ :=
        statementReads first done separates short known
      obtain rfl := tail.ended
      have shorter := reading.leaves.1.length_le
      simp only [List.length_cons] at shorter
      have known := (readsKnown_other (by rw [kind]; rfl)).mp known
      obtain ⟨listed, after, listReading, known⟩ :=
        inductionHypothesis _ (by omega) others (by omega) known rfl
      exact ⟨found :: listed, after, .listNext reading kind listReading, known⟩

theorem readsPhrase_branch {bound : Nat} (statementReads : ReadsPhrase .statement bound) :
    ReadsPhrase .branch bound := by
  intro table tokens middle rest slots derives tail ends short known
  cases derives with
  | branch inside =>
      obtain ⟨found, after, last, reading, done⟩ := statementReads inside tail ends short known
      exact ⟨found, after, last, .branch reading, done⟩
  | emptyBranch kind => exact ⟨_, table, _, .emptyBranch kind, tail, known⟩

/-- A layout is read up to the closing parenthesis, and it holds no names. -/
theorem FormatReading.complete {table : SymbolTable} {closing : Token} {tokens rest : List Token}
    (derives : Derives .layout tokens (closing :: rest))
    (closes : closing.kind = .symbol .rightParenthesis) (known : ReadsKnown table tokens) :
    ∃ found, FormatReading tokens found (closing :: rest) ∧ ReadsKnown table rest := by
  have behind {kind : Kind} {token : Token} {others : List Token} (same : token.kind = kind)
      (noName : kind.isIdentifier = false) (known : ReadsKnown table (token :: others)) :
      ReadsKnown table others := (readsKnown_other (by rw [same, noName])).mp known
  have noColon : (nextKind (closing :: rest)).isSymbol .colon = false := by
    simp [nextKind, closes, Kind.isSymbol]
  cases derives with
  | plain => exact ⟨_, .plain noColon, behind closes rfl known⟩
  | width colonKind fieldKind =>
      have known := behind fieldKind rfl (behind colonKind rfl known)
      exact ⟨_, .field colonKind fieldKind noColon, behind closes rfl known⟩
  | places colonKind fieldKind secondKind placesKind =>
      have known := behind secondKind rfl (behind fieldKind rfl (behind colonKind rfl known))
      exact ⟨_, .fixed colonKind fieldKind secondKind placesKind,
        behind closes rfl (behind placesKind rfl known)⟩

/-- The argument of a writing statement is read up to its closing parenthesis. -/
theorem ArgumentReading.complete {table : SymbolTable} {opening closing : Token}
    {tokens rest : List Token} (opens : opening.kind = .symbol .leftParenthesis)
    (derives : Derives .writeArgument tokens (closing :: rest))
    (closes : closing.kind = .symbol .rightParenthesis)
    (known : ReadsKnown table (opening :: tokens)) :
    ∃ found, ArgumentReading table (opening :: tokens) found rest ∧ ReadsKnown table rest := by
  have known := (readsKnown_other (by rw [opens]; rfl)).mp known
  cases derives with
  | @writeArgument item tokens _ writable layout =>
      cases kind : item.kind with
      | identifier =>
          have noSign : (nextKind tokens).isSymbol .colonEquals = false := by
            cases layout with
            | plain => simp [nextKind, closes, Kind.isSymbol]
            | width colonKind | places colonKind => simp [nextKind, colonKind, Kind.isSymbol]
          obtain ⟨contained, known⟩ := (readsKnown_read kind noSign).mp known
          obtain ⟨cell, found⟩ := Option.isSome_iff_exists.mp contained
          obtain ⟨format, reading, known⟩ := FormatReading.complete layout closes known
          exact ⟨_, .argument opens (.reference kind found) reading closes, known⟩
      | string content =>
          have known := (readsKnown_other (by rw [kind]; rfl)).mp known
          obtain ⟨format, reading, known⟩ := FormatReading.complete layout closes known
          exact ⟨_, .argument opens (.string kind) reading closes, known⟩
      | character content =>
          have known := (readsKnown_other (by rw [kind]; rfl)).mp known
          obtain ⟨format, reading, known⟩ := FormatReading.complete layout closes known
          exact ⟨_, .argument opens (.character kind) reading closes, known⟩
      | _ => simp [kind, Kind.isWritable] at writable

/-- Behind a word of the grammar the same names are known. -/
theorem readsKnown_behind_keyword {table : SymbolTable} {word : Keyword} {token : Token}
    {rest : List Token} (kind : token.kind = .keyword word)
    (known : ReadsKnown table (token :: rest)) : ReadsKnown table rest :=
  (readsKnown_other (by rw [kind]; rfl)).mp known

section Forms

variable {bound slots : Nat} {table : SymbolTable} {tokens middle rest : List Token}

theorem readsUpTo_assignment (derives : Derives .assignment tokens middle)
    (tail : ElseTail slots middle rest) (ends : Parse.endsStatement (nextKind rest) = true)
    (known : ReadsKnown table tokens) : ReadsUpTo table .statement slots tokens rest := by
  cases derives with
  | assignment kind signKind value =>
      have assigned := (readsKnown_target kind (by simp [nextKind, signKind, Kind.isSymbol])).mp known
      have known := (readsKnown_other (by rw [signKind]; rfl)).mp assigned
      obtain ⟨found, reading, known⟩ :=
        ExpressionReading.complete value (tail.apart ends).1 known
      exact ⟨_, _, middle, .assign kind signKind reading, tail, known⟩

theorem readsUpTo_compound (listReads : ReadsList bound)
    (derives : Derives .compoundStatement tokens middle) (tail : ElseTail slots middle rest)
    (short : tokens.length ≤ bound + 1) (known : ReadsKnown table tokens) :
    ReadsUpTo table .statement slots tokens rest := by
  cases derives with
  | compoundStatement opens body closes =>
      obtain ⟨found, after, reading, known⟩ :=
        listReads body closes (.inl rfl) (Nat.le_of_succ_le_succ short)
          (readsKnown_behind_keyword opens known)
      exact ⟨_, after, middle, .compound opens reading closes, tail,
        readsKnown_behind_keyword closes known⟩

theorem readsUpTo_repeat (listReads : ReadsList bound)
    (derives : Derives .repeatStatement tokens middle) (tail : ElseTail slots middle rest)
    (ends : Parse.endsStatement (nextKind rest) = true) (short : tokens.length ≤ bound + 1)
    (known : ReadsKnown table tokens) : ReadsUpTo table .statement slots tokens rest := by
  cases derives with
  | repeatStatement opens body testKind condition =>
      obtain ⟨found, after, bodyReading, known⟩ :=
        listReads body testKind (.inr rfl) (Nat.le_of_succ_le_succ short)
          (readsKnown_behind_keyword opens known)
      obtain ⟨test, reading, known⟩ :=
        ExpressionReading.complete condition (tail.apart ends).1
          (readsKnown_behind_keyword testKind known)
      exact ⟨_, after, middle, .repeatUntil opens bodyReading testKind reading, tail, known⟩

/-- A condition is read up to the word behind it; it has a first token. -/
theorem condition_complete {word : Keyword} {closing : Token} {others : List Token}
    (derives : Derives .expression tokens (closing :: others))
    (closes : closing.kind = .keyword word)
    (closed : (Kind.keyword word).endsExpression = true) (known : ReadsKnown table tokens) :
    ∃ first behind found, tokens = first :: behind ∧
      ExpressionReading table .whole (first :: behind) found (closing :: others) ∧
      ReadsKnown table others := by
  obtain ⟨found, reading, closingKnown⟩ :=
    ExpressionReading.complete derives (by simp only [nextKind, closes, closed]) known
  have shorter := reading.suffix.length_le
  cases tokens with
  | nil => simp at shorter
  | cons first behind =>
      exact ⟨first, behind, found, rfl, reading, readsKnown_behind_keyword closes closingKnown⟩

theorem readsUpTo_while (listReads : ReadsList bound)
    (derives : Derives .whileStatement tokens middle) (tail : ElseTail slots middle rest)
    (short : tokens.length ≤ bound + 1) (known : ReadsKnown table tokens) :
    ReadsUpTo table .statement slots tokens rest := by
  cases derives with
  | whileStatement opens condition doingKind body =>
      obtain ⟨first, behind, test, rfl, reading, known⟩ :=
        condition_complete condition doingKind (by decide) (readsKnown_behind_keyword opens known)
      have shorter := reading.suffix.length_le
      cases body with
      | compoundStatement bodyOpens inside closes =>
          simp only [List.length_cons] at shorter short
          obtain ⟨found, after, bodyReading, known⟩ :=
            listReads inside closes (.inl rfl) (by omega) (readsKnown_behind_keyword bodyOpens known)
          exact ⟨_, after, middle, .whileDo opens reading doingKind bodyOpens bodyReading closes,
            tail, readsKnown_behind_keyword closes known⟩

theorem readsUpTo_if (branchReads : ReadsPhrase .branch bound)
    (derives : Derives .ifStatement tokens middle) (tail : ElseTail slots middle rest)
    (ends : Parse.endsStatement (nextKind rest) = true) (short : tokens.length ≤ bound + 1)
    (known : ReadsKnown table tokens) : ReadsUpTo table .statement slots tokens rest := by
  -- The conditional is one without an ELSE, with one more ELSE behind its branch.
  have front : ∃ opening thenToken condition branch behind, tokens = opening :: condition ∧
      opening.kind = .keyword .ifWord ∧ Derives .expression condition (thenToken :: branch) ∧
      thenToken.kind = .keyword .thenWord ∧ Derives .branch branch behind ∧
      ElseTail (slots + 1) behind rest := by
    cases derives with
    | ifThen opens condition thenKind branch =>
        exact ⟨_, _, _, _, _, rfl, opens, condition, thenKind, branch, tail.weaken⟩
    | ifElse opens condition thenKind branch elseKind otherwise =>
        exact ⟨_, _, _, _, _, rfl, opens, condition, thenKind, branch,
          .attached elseKind otherwise tail⟩
  obtain ⟨opening, thenToken, condition, branch, behind, rfl, opens, conditionDerives, thenKind,
    branchDerives, branchTail⟩ := front
  obtain ⟨first, others, test, rfl, reading, known⟩ :=
    condition_complete conditionDerives thenKind (by decide) (readsKnown_behind_keyword opens known)
  have shorter := reading.suffix.length_le
  simp only [List.length_cons] at shorter short
  obtain ⟨found, after, next, branchReading, nextTail, known⟩ :=
    branchReads branchDerives branchTail ends (by omega) known
  have less := branchReading.leaves.1.length_le
  cases nextTail with
  | done =>
      have noElse := (apart_of_endsStatement ends).2.2
      exact ⟨_, after, rest, .ifThen opens reading thenKind branchReading noElse, .done, known⟩
  | attached elseKind otherwise otherwiseTail =>
      simp only [List.length_cons] at less
      obtain ⟨second, last, end', otherwiseReading, lastTail, known⟩ :=
        branchReads otherwise otherwiseTail ends (by omega)
          (readsKnown_behind_keyword elseKind known)
      exact ⟨_, last, end', .ifElse opens reading thenKind branchReading elseKind otherwiseReading,
        lastTail, known⟩

end Forms

theorem readsPhrase_statement (bound : Nat) : ReadsPhrase .statement bound := by
  induction bound with
  | zero =>
      intro table tokens middle rest slots derives tail ends short known
      obtain rfl := List.length_eq_zero_iff.mp (Nat.le_zero.mp short)
      cases derives with
      | statement member inside =>
          simp only [Nonterminal.statementForms, List.mem_cons, List.not_mem_nil, or_false] at member
          rcases member with rfl | rfl | rfl | rfl | rfl | rfl | rfl <;> cases inside
  | succ bound inductionHypothesis =>
      have listReads := readsList_of_statement inductionHypothesis
      have branchReads := readsPhrase_branch inductionHypothesis
      intro table tokens middle rest slots derives tail ends short known
      cases derives with
      | statement member inside =>
          simp only [Nonterminal.statementForms, List.mem_cons, List.not_mem_nil, or_false] at member
          rcases member with rfl | rfl | rfl | rfl | rfl | rfl | rfl
          · exact readsUpTo_assignment inside tail ends known
          · exact readsUpTo_compound listReads inside tail short known
          · exact readsUpTo_repeat listReads inside tail ends short known
          · exact readsUpTo_while listReads inside tail short known
          · exact readsUpTo_if branchReads inside tail ends short known
          · cases inside with
            | writeStatement opens begins argument closes =>
                obtain ⟨found, reading, known⟩ :=
                  ArgumentReading.complete begins argument closes
                    (readsKnown_behind_keyword opens known)
                exact ⟨_, table, middle, .write opens reading, tail, known⟩
          · cases inside with
            | writelnLine opens =>
                exact ⟨_, table, middle, .writelnPlain opens (tail.apart ends).2, tail,
                  readsKnown_behind_keyword opens known⟩
            | writelnStatement opens begins argument closes =>
                obtain ⟨found, reading, known⟩ :=
                  ArgumentReading.complete begins argument closes
                    (readsKnown_behind_keyword opens known)
                exact ⟨_, table, middle, .writeln opens reading, tail, known⟩

/-- A program of the grammar that reads declared names only is read off its tokens. -/
theorem ProgramReading.complete {tokens : List Token} (derives : Derives .program tokens [])
    (declared : ReadsDeclared tokens) :
    ∃ found after period, ProgramReading .empty tokens found after [period] := by
  cases derives with
  | @program _ _ _ period _ _ opens named separates body ends =>
      have known := (readsKnown_other (by rw [separates]; rfl)).mp (readsDeclared_iff.mp declared)
      cases body with
      | compoundStatement bodyOpens inside closes =>
          obtain ⟨found, after, reading, _⟩ :=
            readsList_of_statement (readsPhrase_statement _) inside closes (.inl rfl)
              (Nat.le_refl _) (readsKnown_behind_keyword bodyOpens known)
          exact ⟨_, after, period, .program opens named separates bodyOpens reading closes ends⟩

end MiniPascal
