/-
This file says which tree an expression has in the layered grammar, and shows that the parser finds
this tree whatever names are declared.
-/

import MiniPascal.Proofs.Parsing.ExpressionCompleteness
import MiniPascal.Proofs.Parsing.ExpressionRuns
import MiniPascal.Proofs.Parsing.Locality

namespace MiniPascal

open Parse

/-- The layers of the grammar of expressions, from the tightest one on. -/
inductive Layer where
  | factor
  | term
  | simple
  | whole
deriving DecidableEq, Repr

def Layer.level : Layer → Level
  | .factor => .factor
  | .term => .term
  | .simple => .simple
  | .whole => .whole

/-- The layer of the chains of a rank. -/
def Rank.layer : Rank → Layer
  | .multiplying => .term
  | .adding => .simple

/-- The layer of the operands that a rank chains. -/
def Rank.inner : Rank → Layer
  | .multiplying => .factor
  | .adding => .term

theorem Rank.level_inner (rank : Rank) : rank.inner.level = rank.operand := by
  cases rank <;> rfl

/-- The tree of the tokens of a phrase, which has others behind it. An operator of a rank has a chain
of this rank on its left and an operand on its right, so that chains nest to the left and a sign
covers the first term. A comparison is the root of its expression. A group has the tree of what is
inside, and a negation covers the longest expression that follows it. -/
inductive Phrase : Layer → List Token → List Token → Expression → Prop where
  | reference {token : Token} {binding : Binding} {behind : List Token}
      (kind : token.kind = .identifier) :
      Phrase .factor behind [token] (.reference ⟨token.mark, binding⟩)
  | integer {token : Token} {number : Nat} {behind : List Token}
      (kind : token.kind = .integer number) :
      Phrase .factor behind [token] (.integer token.mark number)
  | real {token : Token} {number : Float} {behind : List Token}
      (kind : token.kind = .real number) : Phrase .factor behind [token] (.real token.mark number)
  | group {opening closing : Token} {tokens behind : List Token} {found : Expression}
      (opens : opening.kind = .symbol .leftParenthesis)
      (inside : Phrase .whole (closing :: behind) tokens found)
      (closes : closing.kind = .symbol .rightParenthesis) :
      Phrase .factor behind (opening :: (tokens ++ [closing])) found
  | negation {token : Token} {tokens behind : List Token} {operand : Expression}
      (kind : token.kind = .keyword .notWord) (inside : Phrase .whole behind tokens operand)
      (longest : ∀ more, more <+: behind → more ≠ [] → ¬Derives .expression (tokens ++ more) []) :
      Phrase .factor behind (token :: tokens) (.unary .negation token.mark operand)
  | operand {rank : Rank} {tokens behind : List Token} {found : Expression}
      (inside : Phrase rank.inner behind tokens found) : Phrase rank.layer behind tokens found
  | chained {rank : Rank} {operator : BinaryOperator} {sign : Token}
      {front tokens behind : List Token} {left right : Expression}
      (first : Phrase rank.layer (sign :: (tokens ++ behind)) front left)
      (kind : rank.operator? sign.kind = some operator)
      (second : Phrase rank.inner behind tokens right) :
      Phrase rank.layer behind (front ++ sign :: tokens) (.binary operator sign.mark left right)
  | signed {operator : UnaryOperator} {sign : Token} {tokens behind : List Token}
      {operand : Expression} (kind : Parse.sign? sign.kind = some operator)
      (inside : Phrase .term behind tokens operand) :
      Phrase .simple behind (sign :: tokens) (.unary operator sign.mark operand)
  | alone {tokens behind : List Token} {found : Expression}
      (inside : Phrase .simple behind tokens found) : Phrase .whole behind tokens found
  | compared {operator : BinaryOperator} {sign : Token} {front tokens behind : List Token}
      {left right : Expression} (first : Phrase .simple (sign :: (tokens ++ behind)) front left)
      (kind : Parse.relational? sign.kind = some operator)
      (second : Phrase .simple behind tokens right) :
      Phrase .whole behind (front ++ sign :: tokens) (.binary operator sign.mark left right)

/-- The table knows the names of all tokens. -/
def SymbolTable.KnowsAll (table : SymbolTable) (tokens : List Token) : Prop :=
  ∀ token ∈ tokens, table.contains token.text = true

theorem SymbolTable.KnowsAll.readsKnown {table : SymbolTable} {tokens : List Token}
    (knows : table.KnowsAll tokens) : ReadsKnown table tokens := by
  induction tokens generalizing table with
  | nil => trivial
  | cons token rest inductionHypothesis =>
      obtain ⟨own, others⟩ := List.forall_mem_cons.mp knows
      rw [ReadsKnown]
      split
      · split
        · refine inductionHypothesis fun other inside => ?_
          exact SymbolTable.contains_enter.mpr (.inl (others other inside))
        · exact ⟨own, inductionHypothesis others⟩
      · exact inductionHypothesis others

theorem SymbolTable.KnowsAll.of_append {table : SymbolTable} {front tokens : List Token}
    (knows : table.KnowsAll (front ++ tokens)) : table.KnowsAll tokens :=
  fun token inside => knows token (List.mem_append_right _ inside)

/-- There is a table that knows all names. -/
theorem SymbolTable.exists_knowsAll (tokens : List Token) :
    ∃ table : SymbolTable, table.KnowsAll tokens := by
  induction tokens with
  | nil => exact ⟨.empty, nofun⟩
  | cons token rest inductionHypothesis =>
      obtain ⟨table, knows⟩ := inductionHypothesis
      refine ⟨table.enter token.text, List.forall_mem_cons.mpr ⟨?_, fun other inside => ?_⟩⟩
      · exact SymbolTable.contains_enter.mpr (.inr rfl)
      · exact SymbolTable.contains_enter.mpr (.inl (knows other inside))

/-- Before an end of the text on another line the place of a stream is seen from the stream. -/
theorem Stream.before_injective {line : Nat} {tokens others : List Token}
    (apart : ∀ token, tokens.head? = some token → token.line ≠ line)
    (apartOther : ∀ token, others.head? = some token → token.line ≠ line)
    (same : Stream.before (.endOfText line) tokens = .before (.endOfText line) others) :
    tokens = others := by
  cases tokens with
  | nil =>
      cases others with
      | nil => rfl
      | cons other others =>
          have current := congrArg (·.current.line) same
          exact absurd current.symm (apartOther other rfl)
  | cons token tokens =>
      cases others with
      | nil =>
          have current := congrArg (·.current.line) same
          exact absurd current (apart token rfl)
      | cons other others =>
          cases same
          rfl

/-- Two readings of an expression from the same tokens are the same. -/
theorem ExpressionReading.unique {table : SymbolTable} {tokens rest others : List Token}
    {found copy : Expression} (reading : ExpressionReading table .whole tokens found rest)
    (second : ExpressionReading table .whole tokens copy others) :
    found = copy ∧ rest = others := by
  let lineOf (list : List Token) : Nat := (list.head?.map Token.line).getD 0
  let frame : Frame := ⟨.endOfText (lineOf rest + lineOf others + 1), []⟩
  have clean (list : List Token) : frame.Allows list := fun _ => rfl
  have one := expressionWithin_follows frame tokens.length reading (Nat.le_refl _) (clean rest)
  have other := expressionWithin_follows frame tokens.length second (Nat.le_refl _) (clean others)
  have same := one.symm.trans other
  rw [Parsed.mk.injEq, Except.ok.injEq] at same
  refine ⟨same.1, Stream.before_injective ?_ ?_ (congrArg ParseState.stream same.2)⟩
  · intro token head
    have line : lineOf rest = token.line := by simp [lineOf, head]
    omega
  · intro token head
    have line : lineOf others = token.line := by simp [lineOf, head]
    omega

/-- What is read of tokens of which all names are known cannot be continued to a longer
expression. -/
theorem ExpressionReading.longest {table : SymbolTable} {tokens used rest : List Token}
    {found : Expression} (reading : ExpressionReading table .whole tokens found rest)
    (split : tokens = used ++ rest) (knows : table.KnowsAll tokens) :
    ∀ more, more <+: rest → more ≠ [] → ¬Derives .expression (used ++ more) [] := by
  rintro more ⟨tail, rfl⟩ nonempty derives
  have knowsFront : table.KnowsAll (used ++ more) := by
    intro token inside
    refine knows token ?_
    rw [split, ← List.append_assoc]
    exact List.mem_append_left _ inside
  obtain ⟨copy, whole, _⟩ := ExpressionReading.complete derives rfl knowsFront.readsKnown
  obtain ⟨front, _, same, takes⟩ := reading.endsFreely more tail rfl nonempty
  rw [split, ← List.append_assoc] at same
  obtain rfl := List.append_cancel_right same
  have short := takes []
  rw [List.append_nil, List.append_nil] at short
  exact nonempty (short.unique whole).2

namespace Stream

theorem mark_before {stream : Stream} {ending : Ending} {token : Token} {rest : List Token}
    (stands : stream = before ending (token :: rest)) : stream.current.mark = token.mark := by
  rw [stands]
  rfl

/-- A stream that passes a token before the end of the text stands before the tokens behind it. -/
theorem passes {stream after : Stream} {ending : Ending} {tokens : List Token}
    (stands : stream = before ending tokens) (next : stream.next = .ok after)
    (inside : (nextKind tokens).isEndOfText = false) :
    ∃ token rest, tokens = token :: rest ∧ after = before ending rest := by
  rw [stands] at next
  obtain ⟨token, rest, same, passed, _⟩ :=
    @Frame.passes ⟨ending, []⟩ .empty tokens after next inside
  exact ⟨token, rest, same, passed⟩

end Stream

/-- A phrase stands in front of the tokens, and all of it is read when all names are known. -/
structure TakesPhrase (layer : Layer) (tokens : List Token) (found : Expression)
    (rest : List Token) : Prop where
  phrase : ∃ used, tokens = used ++ rest ∧ Phrase layer rest used found
  reading : ∀ table : SymbolTable, table.KnowsAll tokens →
    ∃ copy, ExpressionReading table layer.level tokens copy rest

/-- A chain is continued in front of the tokens. -/
structure ContinuesChain (rank : Rank) (left : Expression) (tokens : List Token)
    (found : Expression) (rest : List Token) : Prop where
  phrase : ∃ used, tokens = used ++ rest ∧
    ∀ front, Phrase rank.layer tokens front left → Phrase rank.layer rest (front ++ used) found
  reading : ∀ table : SymbolTable, table.KnowsAll tokens → ∀ left,
    ∃ copy, ExpressionReading table (.chain rank left) tokens copy rest

/-- What a level takes from the front of the tokens. -/
def Level.Takes : Level → List Token → Expression → List Token → Prop
  | .factor => TakesPhrase .factor
  | .term => TakesPhrase .term
  | .chain rank left => ContinuesChain rank left
  | .simple => TakesPhrase .simple
  | .whole => TakesPhrase .whole

theorem Rank.takes_operand (rank : Rank) : rank.operand.Takes = TakesPhrase rank.inner := by
  cases rank <;> rfl

section Rules

variable {rank : Rank} {tokens middle rest : List Token} {token : Token}
  {left right first found : Expression}

/-- A factor of one token is a phrase, and is read when its name is known. -/
theorem TakesPhrase.of_token (phrase : Phrase .factor rest [token] found)
    (reading : ∀ table : SymbolTable, table.contains token.text = true →
      ∃ copy, ExpressionReading table .factor (token :: rest) copy rest) :
    TakesPhrase .factor (token :: rest) found rest :=
  ⟨⟨[token], rfl, phrase⟩, fun table knows => reading table (knows token List.mem_cons_self)⟩

theorem TakesPhrase.group {closing : Token} (opens : token.kind = .symbol .leftParenthesis)
    (inside : TakesPhrase .whole tokens found (closing :: rest))
    (closes : closing.kind = .symbol .rightParenthesis) :
    TakesPhrase .factor (token :: tokens) found rest := by
  obtain ⟨⟨used, rfl, phrase⟩, reading⟩ := inside
  refine ⟨⟨token :: (used ++ [closing]), by simp, .group opens phrase closes⟩, fun table knows => ?_⟩
  obtain ⟨copy, insideReading⟩ := reading table (List.forall_mem_cons.mp knows).2
  exact ⟨copy, .group opens insideReading closes⟩

/-- A negation covers the longest expression behind it, which is seen over a table that knows all
names. -/
theorem TakesPhrase.negation (kind : token.kind = .keyword .notWord)
    (inside : TakesPhrase .whole tokens found rest) :
    TakesPhrase .factor (token :: tokens) (.unary .negation token.mark found) rest := by
  obtain ⟨⟨used, rfl, phrase⟩, reading⟩ := inside
  refine ⟨⟨token :: used, rfl, .negation kind phrase ?_⟩, fun table knows => ?_⟩
  · obtain ⟨table, knows⟩ := SymbolTable.exists_knowsAll (used ++ rest)
    obtain ⟨copy, insideReading⟩ := reading table knows
    exact insideReading.longest rfl knows
  · obtain ⟨copy, insideReading⟩ := reading table (List.forall_mem_cons.mp knows).2
    exact ⟨_, .negation kind insideReading⟩

theorem ContinuesChain.ended (stops : rank.operator? (nextKind tokens) = none) :
    ContinuesChain rank left tokens left tokens :=
  ⟨⟨[], rfl, fun _ phrase => by rwa [List.append_nil]⟩, fun _ _ left => ⟨left, .chainEnd stops⟩⟩

theorem ContinuesChain.next {operator : BinaryOperator}
    (goesOn : rank.operator? token.kind = some operator)
    (operand : TakesPhrase rank.inner tokens right middle)
    (others : ContinuesChain rank (.binary operator token.mark left right) middle found rest) :
    ContinuesChain rank left (token :: tokens) found rest := by
  obtain ⟨⟨used, rfl, phrase⟩, reading⟩ := operand
  obtain ⟨⟨more, rfl, continued⟩, readingOthers⟩ := others
  refine ⟨⟨token :: (used ++ more), by simp, fun front leftPhrase => ?_⟩, fun table knows left => ?_⟩
  · simpa using continued _ (.chained leftPhrase goesOn phrase)
  · have knowsUsed : table.KnowsAll (used ++ (more ++ rest)) := (List.forall_mem_cons.mp knows).2
    obtain ⟨copy, operandReading⟩ := reading table knowsUsed
    obtain ⟨whole, othersReading⟩ := readingOthers table knowsUsed.of_append
      (.binary operator token.mark left copy)
    rw [rank.level_inner] at operandReading
    exact ⟨whole, .chainNext goesOn operandReading othersReading⟩

theorem TakesPhrase.term (factor : TakesPhrase .factor tokens first middle)
    (others : ContinuesChain .multiplying first middle found rest) :
    TakesPhrase .term tokens found rest := by
  obtain ⟨⟨used, rfl, phrase⟩, reading⟩ := factor
  obtain ⟨⟨more, rfl, continued⟩, readingOthers⟩ := others
  refine ⟨⟨used ++ more, by simp, continued used (.operand phrase)⟩, fun table knows => ?_⟩
  obtain ⟨copy, factorReading⟩ := reading table knows
  obtain ⟨whole, othersReading⟩ := readingOthers table knows.of_append copy
  exact ⟨whole, .term factorReading othersReading⟩

theorem TakesPhrase.unsigned (noSign : Parse.sign? (nextKind tokens) = none)
    (term : TakesPhrase .term tokens first middle)
    (others : ContinuesChain .adding first middle found rest) :
    TakesPhrase .simple tokens found rest := by
  obtain ⟨⟨used, rfl, phrase⟩, reading⟩ := term
  obtain ⟨⟨more, rfl, continued⟩, readingOthers⟩ := others
  refine ⟨⟨used ++ more, by simp, continued used (.operand phrase)⟩, fun table knows => ?_⟩
  obtain ⟨copy, termReading⟩ := reading table knows
  obtain ⟨whole, othersReading⟩ := readingOthers table knows.of_append copy
  exact ⟨whole, .unsigned noSign termReading othersReading⟩

theorem TakesPhrase.signed {operator : UnaryOperator} (kind : Parse.sign? token.kind = some operator)
    (term : TakesPhrase .term tokens first middle)
    (others : ContinuesChain .adding (.unary operator token.mark first) middle found rest) :
    TakesPhrase .simple (token :: tokens) found rest := by
  obtain ⟨⟨used, rfl, phrase⟩, reading⟩ := term
  obtain ⟨⟨more, rfl, continued⟩, readingOthers⟩ := others
  refine ⟨⟨token :: (used ++ more), by simp, continued (token :: used) (.signed kind phrase)⟩,
    fun table knows => ?_⟩
  have knowsUsed : table.KnowsAll (used ++ (more ++ rest)) := (List.forall_mem_cons.mp knows).2
  obtain ⟨copy, termReading⟩ := reading table knowsUsed
  obtain ⟨whole, othersReading⟩ :=
    readingOthers table knowsUsed.of_append (.unary operator token.mark copy)
  exact ⟨whole, .signed kind termReading othersReading⟩

theorem TakesPhrase.alone (simple : TakesPhrase .simple tokens found rest)
    (stops : Parse.relational? (nextKind rest) = none) : TakesPhrase .whole tokens found rest := by
  obtain ⟨⟨used, rfl, phrase⟩, reading⟩ := simple
  refine ⟨⟨used, rfl, .alone phrase⟩, fun table knows => ?_⟩
  obtain ⟨copy, simpleReading⟩ := reading table knows
  exact ⟨copy, .alone simpleReading stops⟩

theorem TakesPhrase.compared {operator : BinaryOperator}
    (first : TakesPhrase .simple tokens left (token :: middle))
    (kind : Parse.relational? token.kind = some operator)
    (second : TakesPhrase .simple middle right rest) :
    TakesPhrase .whole tokens (.binary operator token.mark left right) rest := by
  obtain ⟨⟨used, rfl, phrase⟩, reading⟩ := first
  obtain ⟨⟨more, rfl, phraseRight⟩, readingRight⟩ := second
  refine ⟨⟨used ++ token :: more, by simp, .compared phrase kind phraseRight⟩, fun table knows => ?_⟩
  obtain ⟨copy, firstReading⟩ := reading table knows
  obtain ⟨copyRight, secondReading⟩ :=
    readingRight table (List.forall_mem_cons.mp knows.of_append).2
  exact ⟨_, .compared firstReading kind secondReading⟩

end Rules

/-- From a state before given tokens the parser of a level takes what the level does, whatever names
are declared. -/
theorem ExpressionTrace.takes {level : Level} {state after : ParseState} {found : Expression}
    (trace : ExpressionTrace level state found after) {ending : Ending} {tokens : List Token}
    (stands : state.stream = .before ending tokens) :
    ∃ rest, after.stream = .before ending rest ∧ level.Takes tokens found rest := by
  -- The current token of a kind is the first one of the tokens.
  have passes {place : ParseState} {stream : Stream} {kind : Kind} {tokens : List Token}
      (same : place.stream.current.kind = kind) (next : place.stream.next = .ok stream)
      (stands : place.stream = .before ending tokens) (inside : kind.isEndOfText = false) :
      ∃ token rest, tokens = token :: rest ∧ token.kind = kind ∧ stream = .before ending rest ∧
        place.stream.current.mark = token.mark := by
    have first : nextKind tokens = kind := by rw [← same, stands, Stream.before_kind]
    obtain ⟨token, rest, rfl, passed⟩ := Stream.passes stands next (first ▸ inside)
    exact ⟨token, rest, rfl, first, passed, Stream.mark_before stands⟩
  induction trace generalizing tokens with
  | @reference place _ _ kind read =>
      have named {binding : Binding} {stream : Stream} (next : place.stream.next = .ok stream) :
          ∃ rest, stream = .before ending rest ∧ TakesPhrase .factor tokens
            (.reference ⟨place.stream.current.mark, binding⟩) rest := by
        obtain ⟨token, rest, rfl, kind, passed, mark⟩ := passes kind next stands rfl
        refine ⟨rest, passed, .of_token (mark ▸ .reference kind) fun table known => ?_⟩
        obtain ⟨cell, found⟩ := Option.isSome_iff_exists.mp known
        exact ⟨_, .reference kind found⟩
      cases read with
      | known _ next => exact named next
      | unknown _ next => exact named next
  | integer kind next =>
      obtain ⟨token, rest, rfl, kind, passed, mark⟩ := passes kind next stands rfl
      exact ⟨rest, passed, .of_token (mark ▸ .integer kind) fun _ _ => ⟨_, .integer kind⟩⟩
  | real kind next =>
      obtain ⟨token, rest, rfl, kind, passed, mark⟩ := passes kind next stands rfl
      exact ⟨rest, passed, .of_token (mark ▸ .real kind) fun _ _ => ⟨_, .real kind⟩⟩
  | group opens next _ closes behind inside =>
      obtain ⟨opening, rest, rfl, opens, passed, _⟩ := passes opens next stands rfl
      obtain ⟨middle, reached, takes⟩ := inside passed
      obtain ⟨closing, last, rfl, closes, passed, _⟩ := passes closes behind reached rfl
      exact ⟨last, passed, .group opens takes closes⟩
  | negation kind next _ inside =>
      obtain ⟨token, rest, rfl, kind, passed, mark⟩ := passes kind next stands rfl
      obtain ⟨last, reached, takes⟩ := inside passed
      exact ⟨last, reached, mark ▸ .negation kind takes⟩
  | chainEnd stops => exact ⟨tokens, stands, .ended (by simpa [stands] using stops)⟩
  | @chainNext rank _ _ _ _ _ _ _ _ goesOn next _ _ operand others =>
      obtain ⟨sign, rest, rfl, kind, passed, mark⟩ :=
        passes rfl next stands (operator?_inside goesOn)
      obtain ⟨middle, reached, takes⟩ := operand passed
      obtain ⟨last, stops, continues⟩ := others reached
      rw [rank.takes_operand] at takes
      rw [mark] at continues
      exact ⟨last, stops, .next (kind ▸ goesOn) takes continues⟩
  | term _ _ factor others =>
      obtain ⟨middle, reached, takes⟩ := factor stands
      obtain ⟨last, stops, continues⟩ := others reached
      exact ⟨last, stops, .term takes continues⟩
  | unsigned noSign _ _ term others =>
      obtain ⟨middle, reached, takes⟩ := term stands
      obtain ⟨last, stops, continues⟩ := others reached
      exact ⟨last, stops, .unsigned (by simpa [stands] using noSign) takes continues⟩
  | signed isSign next _ _ term others =>
      obtain ⟨sign, rest, rfl, kind, passed, mark⟩ := passes rfl next stands (sign?_inside isSign)
      obtain ⟨middle, reached, takes⟩ := term passed
      obtain ⟨last, stops, continues⟩ := others reached
      rw [mark] at continues
      exact ⟨last, stops, .signed (kind ▸ isSign) takes continues⟩
  | alone _ stops simple =>
      obtain ⟨rest, reached, takes⟩ := simple stands
      exact ⟨rest, reached, .alone takes (by simpa [reached] using stops)⟩
  | compared _ compares next _ first second =>
      obtain ⟨middle, reached, takes⟩ := first stands
      obtain ⟨sign, rest, rfl, kind, passed, mark⟩ :=
        passes rfl next reached (relational?_inside compares)
      obtain ⟨last, stops, others⟩ := second passed
      exact ⟨last, stops, mark ▸ .compared takes (kind ▸ compares) others⟩

namespace Parse

/-- From a state before given tokens a parser leaves an end of them. -/
def Takes (takes : List Token → Expression → List Token → Prop) (bound : Nat)
    (state : ParseState) (found : Expression) (after : ParseState) : Prop :=
  ∀ ending tokens, state.stream = .before ending tokens → tokens.length ≤ bound →
    ∃ rest, after.stream = .before ending rest ∧ takes tokens found rest

theorem expressionWithin_takes (bound : Nat) (state : ParseState) :
    (expressionWithin bound).Leads state (Takes (TakesPhrase .whole) bound state) := by
  refine (expressionWithin_traces bound state).weaken fun _ _ _ trace ending tokens stands short => ?_
  have enough : state.left ≤ bound := by
    rw [ParseState.left, stands]
    exact Nat.le_trans (Stream.left_before_le ending tokens) short
  exact (trace enough).takes stands

end Parse

end MiniPascal
