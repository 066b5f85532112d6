/-
This file shows that the greedy reading of an expression never fails on an expression of the
grammar: what a negation takes from the operators behind it is taken by an enclosing level
otherwise.
-/

import MiniPascal.Proofs.Parsing.GrammarSoundness

namespace MiniPascal

/-- Operators and operands go on behind an expression whose enclosing levels leave so many
comparisons open. -/
inductive OperatorTail : Nat → List Token → List Token → Prop where
  | done {slots : Nat} {rest : List Token} : OperatorTail slots rest rest
  | multiplied {slots : Nat} {sign : Token} {tokens middle rest : List Token}
      (multiplies : sign.kind.isMultiplyingOperator = true)
      (operand : Derives .factor tokens middle) (others : OperatorTail slots middle rest) :
      OperatorTail slots (sign :: tokens) rest
  | added {slots : Nat} {sign : Token} {tokens middle rest : List Token}
      (adds : sign.kind.isAddingOperator = true)
      (operand : Derives .term tokens middle) (others : OperatorTail slots middle rest) :
      OperatorTail slots (sign :: tokens) rest
  | compared {slots : Nat} {sign : Token} {tokens middle rest : List Token}
      (compares : sign.kind.isRelationalOperator = true)
      (operand : Derives .simpleExpression tokens middle)
      (others : OperatorTail slots middle rest) :
      OperatorTail (slots + 1) (sign :: tokens) rest

namespace OperatorTail

variable {slots : Nat} {tokens middle rest : List Token}

/-- An open comparison need not be used. -/
theorem weaken (tail : OperatorTail slots tokens rest) : OperatorTail (slots + 1) tokens rest := by
  induction tail with
  | done => exact .done
  | multiplied multiplies operand _ others => exact .multiplied multiplies operand others
  | added adds operand _ others => exact .added adds operand others
  | compared compares operand _ others => exact .compared compares operand others

theorem ofFurtherFactors (factors : Derives .furtherFactors tokens middle)
    (tail : OperatorTail slots middle rest) : OperatorTail slots tokens rest := by
  generalize same : Nonterminal.furtherFactors = phrase at factors
  induction factors with
  | noFurtherFactor => exact tail
  | furtherFactor multiplies operand _ _ others =>
      exact .multiplied multiplies operand (others tail same)
  | _ => cases same

theorem ofFurtherTerms (terms : Derives .furtherTerms tokens middle)
    (tail : OperatorTail slots middle rest) : OperatorTail slots tokens rest := by
  generalize same : Nonterminal.furtherTerms = phrase at terms
  induction terms with
  | noFurtherTerm => exact tail
  | furtherTerm adds operand _ _ others => exact .added adds operand (others tail same)
  | _ => cases same

end OperatorTail

/-- No expression goes on with this kind of token. -/
def Kind.endsExpression (kind : Kind) : Bool := !kind.isOperator && !kind.isSymbol .colonEquals

/-- No operator of the rank or of a stronger one comes next. -/
def Rank.exhausted : Rank → Kind → Bool
  | .multiplying, kind => !kind.isMultiplyingOperator
  | .adding, kind => !kind.isMultiplyingOperator && !kind.isAddingOperator

/-- What comes next behind a level that has been read. -/
def Level.exhausted : Level → Kind → Bool
  | .factor, _ => true
  | .term, kind => Rank.multiplying.exhausted kind
  | .chain rank _, kind => rank.exhausted kind
  | .simple, kind => Rank.adding.exhausted kind
  | .whole, kind => Rank.adding.exhausted kind

/-- A reading goes as far as it can into the operators behind the level. -/
def ReadsInto (table : SymbolTable) (level : Level) (slots : Nat) (tokens rest : List Token) :
    Prop :=
  ∃ found last, ExpressionReading table level tokens found last ∧
    OperatorTail slots last rest ∧ level.exhausted (nextKind last) = true ∧ ReadsKnown table last

/-- Every derivation of a level within so many tokens has a greedy reading. -/
def ReadsLevel (level : Level) (bound : Nat) : Prop :=
  ∀ ⦃table tokens middle rest slots⦄, Derives level.phrase tokens middle →
    OperatorTail slots middle rest → (nextKind rest).endsExpression = true →
      tokens.length ≤ bound → ReadsKnown table tokens → ReadsInto table level slots tokens rest

/-- Operators of different ranks differ. -/
theorem Kind.rank_unique (kind : Kind) :
    (kind.isMultiplyingOperator = true → kind.isAddingOperator = false) ∧
    (kind.isMultiplyingOperator = true → kind.isRelationalOperator = false) ∧
    (kind.isAddingOperator = true → kind.isRelationalOperator = false) := by
  cases kind with
  | symbol mark => cases mark <;> decide
  | keyword word => cases word <;> decide
  | _ => refine ⟨?_, ?_, ?_⟩ <;> (intro found; cases found)

theorem Kind.noOperator_of_endsExpression {kind : Kind} (ends : kind.endsExpression = true) :
    kind.isMultiplyingOperator = false ∧ kind.isAddingOperator = false ∧
      kind.isRelationalOperator = false ∧ kind.isSymbol .colonEquals = false := by
  simpa [Kind.endsExpression, Kind.isOperator, and_assoc] using ends

theorem readsKnown_behind_operator {table : SymbolTable} {token : Token} {rest : List Token}
    (operates : token.kind.isOperator = true) (known : ReadsKnown table (token :: rest)) :
    ReadsKnown table rest :=
  (readsKnown_other (Kind.apart_of_isOperator operates).1).mp known

/-- No assignment sign comes behind an expression. -/
theorem OperatorTail.noSign {slots : Nat} {tokens rest : List Token}
    (tail : OperatorTail slots tokens rest) (ends : (nextKind rest).endsExpression = true) :
    (nextKind tokens).isSymbol .colonEquals = false := by
  have apart {kind : Kind} (operates : kind.isOperator = true) :
      kind.isSymbol .colonEquals = false := (Kind.apart_of_isOperator operates).2
  cases tail with
  | done => exact (Kind.noOperator_of_endsExpression ends).2.2.2
  | multiplied operates | added operates | compared operates =>
      exact apart (by simp [nextKind, Kind.isOperator, operates])

def Rank.operates : Rank → Kind → Bool
  | .multiplying => Kind.isMultiplyingOperator
  | .adding => Kind.isAddingOperator

theorem Rank.operator?_isSome (rank : Rank) (kind : Kind) :
    (rank.operator? kind).isSome = rank.operates kind := by
  cases rank with
  | multiplying => exact multiplying?_isSome kind
  | adding => exact adding?_isSome kind

/-- An operator of a rank comes with an operand of the rank. -/
theorem OperatorTail.operand {rank : Rank} {slots : Nat} {tokens rest : List Token}
    (tail : OperatorTail slots tokens rest)
    (ends : (nextKind rest).endsExpression = true)
    (operates : rank.operates (nextKind tokens) = true) :
    ∃ sign others middle, tokens = sign :: others ∧ Derives rank.operand.phrase others middle ∧
      OperatorTail slots middle rest := by
  cases tail with
  | done =>
      obtain ⟨noFactor, noTerm, _⟩ := Kind.noOperator_of_endsExpression ends
      cases rank with
      | multiplying => exact absurd operates (by simp [Rank.operates, noFactor])
      | adding => exact absurd operates (by simp [Rank.operates, noTerm])
  | @multiplied _ sign _ _ _ multiplies operand others =>
      cases rank with
      | multiplying => exact ⟨_, _, _, rfl, operand, others⟩
      | adding =>
          have other := sign.kind.rank_unique.1 multiplies
          exact absurd operates (by simp [Rank.operates, nextKind, other])
  | @added _ sign _ _ _ adds operand others =>
      cases rank with
      | multiplying =>
          have other := sign.kind.rank_unique.1 operates
          rw [adds] at other
          cases other
      | adding => exact ⟨_, _, _, rfl, operand, others⟩
  | @compared _ sign _ _ _ compares operand others =>
      obtain ⟨_, noFactor, noTerm⟩ := sign.kind.rank_unique
      cases rank with
      | multiplying =>
          have other := noFactor operates
          rw [compares] at other
          cases other
      | adding =>
          have other := noTerm operates
          rw [compares] at other
          cases other

theorem readsKnown_behind {rank : Rank} {table : SymbolTable} {sign : Token} {rest : List Token}
    (operates : rank.operates sign.kind = true) (known : ReadsKnown table (sign :: rest)) :
    ReadsKnown table rest := by
  apply readsKnown_behind_operator _ known
  cases rank with
  | multiplying => simp [Kind.isOperator, show sign.kind.isMultiplyingOperator = true from operates]
  | adding => simp [Kind.isOperator, show sign.kind.isAddingOperator = true from operates]

/-- A chain takes all operators of its rank, and none of a lower rank stands before it. -/
theorem readsInto_chain (rank : Rank) {bound : Nat} (operandReads : ReadsLevel rank.operand bound)
    {table : SymbolTable} {slots : Nat} {tokens rest : List Token} (left : Expression)
    (tail : OperatorTail slots tokens rest) (ends : (nextKind rest).endsExpression = true)
    (short : tokens.length ≤ bound + 1) (known : ReadsKnown table tokens)
    (operandRead : rank.operand.exhausted (nextKind tokens) = true) :
    ReadsInto table (.chain rank left) slots tokens rest := by
  induction length : tokens.length using Nat.strongRecOn generalizing left tokens with
  | ind length inductionHypothesis =>
  by_cases operates : rank.operates (nextKind tokens) = true
  · obtain ⟨sign, others, middle, rfl, operand, behind⟩ := tail.operand ends operates
    have isSome := rank.operator?_isSome sign.kind
    rw [show rank.operates sign.kind = true from operates] at isSome
    obtain ⟨operator, goesOn⟩ := Option.isSome_iff_exists.mp isSome
    simp only [List.length_cons] at short length
    obtain ⟨right, next, operandReading, nextTail, nextRead, nextKnown⟩ :=
      operandReads operand behind ends (by omega) (readsKnown_behind operates known)
    have shorter := operandReading.suffix.length_le
    obtain ⟨found, last, chainReading, done⟩ :=
      inductionHypothesis next.length (by omega) _ nextTail (by omega) nextKnown nextRead rfl
    exact ⟨found, last, .chainNext goesOn operandReading chainReading, done⟩
  · have missed : rank.operates (nextKind tokens) = false := by simpa using operates
    have isNone := rank.operator?_isSome (nextKind tokens)
    rw [missed, Option.isSome_eq_false_iff, Option.isNone_iff_eq_none] at isNone
    refine ⟨left, tokens, .chainEnd isNone, tail, ?_, known⟩
    cases rank with
    | multiplying =>
        have noFactor : (nextKind tokens).isMultiplyingOperator = false := missed
        rw [Level.exhausted, Rank.exhausted, noFactor]
        rfl
    | adding =>
        have noFactor : (!(nextKind tokens).isMultiplyingOperator) = true := operandRead
        have noTerm : (nextKind tokens).isAddingOperator = false := missed
        rw [Level.exhausted, Rank.exhausted, noFactor, noTerm]
        rfl

theorem readsLevel_term {bound : Nat} (factorReads : ReadsLevel .factor bound) :
    ReadsLevel .term bound := by
  intro table tokens middle rest slots derives tail ends short known
  cases derives with
  | term first others =>
      obtain ⟨found, next, factorReading, nextTail, nextRead, nextKnown⟩ :=
        factorReads first (tail.ofFurtherFactors others) ends short known
      have shorter := factorReading.suffix.length_le
      obtain ⟨whole, last, chainReading, done⟩ :=
        readsInto_chain .multiplying factorReads found nextTail ends (by omega) nextKnown nextRead
      exact ⟨whole, last, .term factorReading chainReading, done⟩

/-- No factor starts with a sign. -/
theorem sign?_of_factor {tokens rest : List Token} (derives : Derives .factor tokens rest) :
    Parse.sign? (nextKind tokens) = none := by
  cases derives with
  | identifier kind | integer kind | real kind | group kind | negation kind =>
      simp only [nextKind, kind]
      rfl

theorem readsLevel_simple {bound : Nat} (factorReads : ReadsLevel .factor bound) :
    ReadsLevel .simple bound := by
  have termReads := readsLevel_term factorReads
  intro table tokens middle rest slots derives tail ends short known
  cases derives with
  | unsigned first others =>
      obtain ⟨found, next, termReading, nextTail, nextRead, nextKnown⟩ :=
        termReads first (tail.ofFurtherTerms others) ends short known
      have shorter := termReading.suffix.length_le
      obtain ⟨whole, last, chainReading, done⟩ :=
        readsInto_chain .adding termReads found nextTail ends (by omega) nextKnown nextRead
      have noSign : Parse.sign? (nextKind tokens) = none := by
        cases first with
        | term factor => exact sign?_of_factor factor
      exact ⟨whole, last, .unsigned noSign termReading chainReading, done⟩
  | @signed sign others _ _ isSign first behind =>
      have isSome := sign?_isSome sign.kind
      rw [isSign] at isSome
      obtain ⟨operator, signs⟩ := Option.isSome_iff_exists.mp isSome
      simp only [List.length_cons] at short
      obtain ⟨found, next, termReading, nextTail, nextRead, nextKnown⟩ :=
        termReads first (tail.ofFurtherTerms behind) ends (by omega)
          (readsKnown_behind_operator (sign?_isOperator signs) known)
      have shorter := termReading.suffix.length_le
      obtain ⟨whole, last, chainReading, done⟩ :=
        readsInto_chain .adding termReads (.unary operator sign.mark found) nextTail ends (by omega)
          nextKnown nextRead
      exact ⟨whole, last, .signed signs termReading chainReading, done⟩

/-- Behind a simple expression either a comparison is open, or nothing is left of the operators. -/
theorem OperatorTail.comparison {slots : Nat} {tokens rest : List Token}
    (tail : OperatorTail (slots + 1) tokens rest)
    (exhausted : Level.simple.exhausted (nextKind tokens) = true) :
    tokens = rest ∨ ∃ sign others middle, tokens = sign :: others ∧
      sign.kind.isRelationalOperator = true ∧ Derives .simpleExpression others middle ∧
      OperatorTail slots middle rest := by
  cases tail with
  | done => exact .inl rfl
  | multiplied multiplies => simp [Level.exhausted, Rank.exhausted, nextKind, multiplies] at exhausted
  | added adds => simp [Level.exhausted, Rank.exhausted, nextKind, adds] at exhausted
  | compared compares operand others => exact .inr ⟨_, _, _, rfl, compares, operand, others⟩

theorem readsLevel_whole {bound : Nat} (factorReads : ReadsLevel .factor bound) :
    ReadsLevel .whole bound := by
  have simpleReads := readsLevel_simple factorReads
  intro table tokens middle rest slots derives tail ends short known
  -- The expression is a simple one with one more comparison open behind it.
  have front : ∃ middle, Derives .simpleExpression tokens middle ∧
      OperatorTail (slots + 1) middle rest := by
    cases derives with
    | alone simple => exact ⟨middle, simple, tail.weaken⟩
    | comparison left compares right => exact ⟨_, left, .compared compares right tail⟩
  obtain ⟨middle, simple, opened⟩ := front
  obtain ⟨left, next, leftReading, nextTail, nextRead, nextKnown⟩ :=
    simpleReads simple opened ends short known
  obtain rfl | ⟨sign, others, behind, rfl, compares, right, rightTail⟩ :=
    nextTail.comparison nextRead
  · have isNone := relational?_isSome (nextKind next)
    rw [(Kind.noOperator_of_endsExpression ends).2.2.1, Option.isSome_eq_false_iff,
      Option.isNone_iff_eq_none] at isNone
    exact ⟨left, next, .alone leftReading isNone, .done, nextRead, nextKnown⟩
  · have isSome := relational?_isSome sign.kind
    rw [compares] at isSome
    obtain ⟨operator, relates⟩ := Option.isSome_iff_exists.mp isSome
    have shorter := leftReading.suffix.length_le
    simp only [List.length_cons] at shorter
    obtain ⟨found, last, rightReading, done⟩ :=
      simpleReads right rightTail ends (by omega)
        (readsKnown_behind_operator (relational?_isOperator relates) nextKnown)
    exact ⟨_, last, .compared leftReading relates rightReading, done⟩

/-- A level that leaves no comparison open is read to its end. -/
theorem OperatorTail.ended {tokens rest : List Token} (tail : OperatorTail 0 tokens rest)
    (exhausted : Level.whole.exhausted (nextKind tokens) = true) : tokens = rest := by
  cases tail with
  | done => rfl
  | multiplied multiplies => simp [Level.exhausted, Rank.exhausted, nextKind, multiplies] at exhausted
  | added adds => simp [Level.exhausted, Rank.exhausted, nextKind, adds] at exhausted

theorem readsLevel_factor (bound : Nat) : ReadsLevel .factor bound := by
  induction bound with
  | zero =>
      intro table tokens middle rest slots derives tail ends short known
      obtain rfl := List.length_eq_zero_iff.mp (Nat.le_zero.mp short)
      cases derives
  | succ bound inductionHypothesis =>
      have wholeReads := readsLevel_whole inductionHypothesis
      intro table tokens middle rest slots derives tail ends short known
      cases derives with
      | @identifier token _ kind =>
          have noSign := tail.noSign ends
          obtain ⟨contained, known⟩ := (readsKnown_read kind noSign).mp known
          obtain ⟨cell, found⟩ := Option.isSome_iff_exists.mp contained
          exact ⟨_, middle, .reference kind found, tail, rfl, known⟩
      | integer kind =>
          have known := (readsKnown_other (by rw [kind]; rfl)).mp known
          exact ⟨_, middle, .integer kind, tail, rfl, known⟩
      | real kind =>
          have known := (readsKnown_other (by rw [kind]; rfl)).mp known
          exact ⟨_, middle, .real kind, tail, rfl, known⟩
      | @group opening closing tokens _ opens inside closes =>
          simp only [List.length_cons] at short
          have known := (readsKnown_other (by rw [opens]; rfl)).mp known
          have closed : (nextKind (closing :: middle)).endsExpression = true := by
            simp only [nextKind, closes]
            rfl
          have done : OperatorTail 0 (closing :: middle) (closing :: middle) := .done
          obtain ⟨found, last, reading, lastTail, lastRead, lastKnown⟩ :=
            wholeReads inside done closed (by omega) known
          obtain rfl := lastTail.ended lastRead
          have known := (readsKnown_other (by rw [closes]; rfl)).mp lastKnown
          exact ⟨found, middle, .group opens reading closes, tail, rfl, known⟩
      | negation kind operand =>
          simp only [List.length_cons] at short
          have known := (readsKnown_other (by rw [kind]; rfl)).mp known
          obtain ⟨found, last, reading, lastTail, _, lastKnown⟩ :=
            wholeReads operand tail ends (by omega) known
          exact ⟨_, last, .negation kind reading, lastTail, rfl, lastKnown⟩

/-- An expression of the grammar is read up to its end when no operator follows it. -/
theorem ExpressionReading.complete {table : SymbolTable} {tokens rest : List Token}
    (derives : Derives .expression tokens rest) (ends : (nextKind rest).endsExpression = true)
    (known : ReadsKnown table tokens) :
    ∃ found, ExpressionReading table .whole tokens found rest ∧ ReadsKnown table rest := by
  have done : OperatorTail 0 rest rest := .done
  obtain ⟨found, last, reading, tail, read, known⟩ :=
    readsLevel_whole (readsLevel_factor tokens.length) derives done ends (Nat.le_refl _) known
  obtain rfl := tail.ended read
  exact ⟨found, reading, known⟩

end MiniPascal
