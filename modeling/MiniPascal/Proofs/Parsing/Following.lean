/-
This file shows that a reading is kept before other tokens that end an expression, and that a
statement before an END is read before a semicolon too.
-/

import MiniPascal.Proofs.Parsing.ExpressionCompleteness
import MiniPascal.Proofs.Parsing.Locality
import MiniPascal.Proofs.Parsing.StatementCompleteness

namespace MiniPascal

/-- When a relation takes tokens up to a rest, it takes the same tokens before all others that fit. -/
def Followed (fits : Kind → Bool) (takes : List Token → List Token → Prop)
    (tokens rest : List Token) : Prop :=
  ∃ front, tokens = front ++ rest ∧
    ∀ other, fits (nextKind other) = true → takes (front ++ other) other

namespace Followed

variable {fits : Kind → Bool} {first second whole : List Token → List Token → Prop}
  {tokens middle rest : List Token}

/-- What takes nothing goes on with nothing that fits. -/
theorem stay (takes : ∀ other, fits (nextKind other) = true → whole other other) :
    Followed fits whole rest rest := ⟨[], rfl, takes⟩

/-- Given tokens may stand before what is taken. -/
theorem behind (opening : List Token) (followed : Followed fits first tokens rest)
    (build : ∀ front other, fits (nextKind other) = true → first front other →
      whole (opening ++ front) other) :
    Followed fits whole (opening ++ tokens) rest := by
  obtain ⟨front, rfl, takes⟩ := followed
  refine ⟨opening ++ front, (List.append_assoc _ _ _).symm, fun other fitting => ?_⟩
  rw [List.append_assoc]
  exact build _ _ fitting (takes other fitting)

/-- What ends at given tokens may have any tokens behind them. -/
theorem closed (opening closing : List Token) (nonempty : closing ≠ [])
    (free : EndsFreely first tokens (closing ++ rest))
    (build : ∀ front other, fits (nextKind other) = true → first front (closing ++ other) →
      whole (opening ++ front) other) :
    Followed fits whole (opening ++ tokens) rest := by
  obtain ⟨front, _, rfl, takes⟩ := free closing rest rfl nonempty
  refine ⟨opening ++ front, (List.append_assoc _ _ _).symm, fun other fitting => ?_⟩
  rw [List.append_assoc]
  exact build _ _ fitting (takes other)

/-- The second relation goes on behind given tokens where the first one stops. -/
theorem joined (opening joint : List Token) (nonempty : joint ≠ [])
    (free : EndsFreely first tokens (joint ++ middle)) (followed : Followed fits second middle rest)
    (build : ∀ front between other, front.head? = tokens.head? → fits (nextKind other) = true →
      first front (joint ++ between) → second between other → whole (opening ++ front) other) :
    Followed fits whole (opening ++ tokens) rest := by
  obtain ⟨between, rfl, secondTakes⟩ := followed
  obtain ⟨front, frontNonempty, rfl, firstTakes⟩ :=
    free (joint ++ between) rest (List.append_assoc _ _ _).symm (by simp [nonempty])
  refine ⟨opening ++ front, (List.append_assoc _ _ _).symm, fun other fitting => ?_⟩
  have inside := firstTakes other
  rw [List.append_assoc] at inside ⊢
  exact build _ _ _ (head?_append frontNonempty rest other) fitting inside (secondTakes other fitting)

/-- The second relation goes on where the first one stops, and may take nothing. -/
theorem trans (opening : List Token) (free : EndsFreely first tokens middle)
    (firstFollowed : Followed fits first tokens middle)
    (followed : Followed fits second middle rest)
    (build : ∀ front between other,
      front.head? = tokens.head? ∨ fits (nextKind front) = true → fits (nextKind other) = true →
        first front between → second between other → whole (opening ++ front) other) :
    Followed fits whole (opening ++ tokens) rest := by
  obtain ⟨between, rfl, secondTakes⟩ := followed
  cases between with
  | nil =>
      obtain ⟨front, rfl, firstTakes⟩ := firstFollowed
      refine ⟨opening ++ front, (List.append_assoc _ _ _).symm, fun other fitting => ?_⟩
      rw [List.append_assoc]
      refine build _ _ _ ?_ fitting (firstTakes other fitting) (secondTakes other fitting)
      cases front with
      | nil => exact .inr fitting
      | cons => exact .inl rfl
  | cons next between =>
      obtain ⟨front, nonempty, rfl, firstTakes⟩ := free (next :: between) rest rfl (by simp)
      refine ⟨opening ++ front, (List.append_assoc _ _ _).symm, fun other fitting => ?_⟩
      rw [List.append_assoc]
      exact build _ _ _ (.inl (head?_append nonempty rest other)) fitting (firstTakes other)
        (secondTakes other fitting)

end Followed

/-- What ends an expression is no operator of it. -/
theorem Kind.stops_of_endsExpression {kind : Kind} (ends : kind.endsExpression = true) :
    (∀ rank : Rank, rank.operator? kind = none) ∧ Parse.sign? kind = none ∧
      Parse.relational? kind = none := by
  obtain ⟨noMultiplying, noAdding, noRelational, _⟩ := Kind.noOperator_of_endsExpression ends
  have noSign : kind.isSign = false := by
    rw [Kind.isAddingOperator, Bool.or_eq_false_iff] at noAdding
    exact noAdding.1
  refine ⟨fun rank => ?_, ?_, ?_⟩
  · rw [← Option.isSome_eq_false_iff.trans Option.isNone_iff_eq_none, rank.operator?_isSome]
    cases rank with
    | multiplying => exact noMultiplying
    | adding => exact noAdding
  · rw [← Option.isSome_eq_false_iff.trans Option.isNone_iff_eq_none, sign?_isSome, noSign]
  · rw [← Option.isSome_eq_false_iff.trans Option.isNone_iff_eq_none, relational?_isSome,
      noRelational]

theorem ExpressionReading.followed {table : SymbolTable} {level : Level}
    {tokens rest : List Token} {found : Expression}
    (reading : ExpressionReading table level tokens found rest) :
    Followed Kind.endsExpression
      (fun front other => ExpressionReading table level front found other) tokens rest := by
  induction reading with
  | @reference token _ _ kind known => exact ⟨[token], rfl, fun _ _ => .reference kind known⟩
  | @integer token _ _ kind => exact ⟨[token], rfl, fun _ _ => .integer kind⟩
  | @real token _ _ kind => exact ⟨[token], rfl, fun _ _ => .real kind⟩
  | @group opening closing _ _ _ opens inside closes =>
      exact .closed [opening] [closing] (by simp) inside.endsFreely fun _ _ _ reading =>
        .group opens reading closes
  | @negation token _ _ _ kind _ operand =>
      exact operand.behind [token] fun _ _ _ reading => .negation kind reading
  | chainEnd =>
      exact .stay fun _ fitting => .chainEnd ((Kind.stops_of_endsExpression fitting).1 _)
  | @chainNext _ _ _ _ _ sign _ _ _ goesOn operandReading _ operand others =>
      exact .trans [sign] operandReading.endsFreely operand others fun _ _ _ _ _ first second =>
        .chainNext goesOn first second
  | term factorReading _ factor others =>
      exact .trans [] factorReading.endsFreely factor others fun _ _ _ _ _ first second =>
        .term first second
  | unsigned noSign termReading _ term others =>
      refine .trans [] termReading.endsFreely term others fun _ _ _ same _ first second => ?_
      refine .unsigned ?_ first second
      obtain same | fitting := same
      · rw [List.nil_append, nextKind_congr same, noSign]
      · exact (Kind.stops_of_endsExpression fitting).2.1
  | @signed _ _ _ sign _ _ _ kind termReading _ term others =>
      exact .trans [sign] termReading.endsFreely term others fun _ _ _ _ _ first second =>
        .signed kind first second
  | alone _ _ simple =>
      exact simple.behind [] fun _ _ fitting reading =>
        .alone reading (Kind.stops_of_endsExpression fitting).2.2
  | @compared _ _ _ sign _ _ _ firstReading kind _ _ second =>
      exact .joined [] [sign] (by simp) firstReading.endsFreely second fun _ _ _ _ _ left right =>
        .compared left kind right

theorem ArgumentReading.followed {fits : Kind → Bool} {table : SymbolTable}
    {tokens rest : List Token} {found : Argument}
    (reading : ArgumentReading table tokens found rest) :
    Followed fits (fun front other => ArgumentReading table front found other) tokens rest := by
  cases reading with
  | @argument opening token closing _ _ _ _ opens item format closes =>
      exact .closed [opening, token] [closing] (by simp) format.endsFreely fun _ _ _ inside =>
        .argument opens item inside closes

/-- A statement, or a branch with one, before an END is read before a semicolon too. A list would go
on behind the semicolon. -/
theorem StatementReading.followed {construct : Construct} {table after : SymbolTable}
    {tokens rest : List Token} {found : List Statement}
    (reading : StatementReading construct table tokens found after rest)
    (single : ∀ terminal, construct ≠ .list terminal)
    (ended : (nextKind rest).isKeyword .endWord = true) :
    Followed (·.isSymbol .semicolon)
      (fun front other => StatementReading construct table front found after other) tokens rest := by
  have expression {table : SymbolTable} {tokens rest : List Token} {found : Expression}
      (reading : ExpressionReading table .whole tokens found rest) :
      Followed (·.isSymbol .semicolon)
        (fun front other => ExpressionReading table .whole front found other) tokens rest := by
    obtain ⟨front, same, takes⟩ := reading.followed
    refine ⟨front, same, fun other fitting => takes other ?_⟩
    rw [Kind.isSymbol_iff.mp fitting]
    rfl
  induction reading with
  | @assign _ target sign _ _ _ kind signKind value =>
      exact (expression value).behind [target, sign] fun _ _ _ inside => .assign kind signKind inside
  | @compound _ _ opening closing _ _ _ opens body closes =>
      exact .closed [opening] [closing] (by simp) body.endsFreely fun _ _ _ inside =>
        .compound opens inside closes
  | @repeatUntil _ _ opening test _ _ _ _ _ opens body testKind condition =>
      exact .joined [opening] [test] (by simp) body.endsFreely (expression condition)
        fun _ _ _ _ _ first second => .repeatUntil opens first testKind second
  | @whileDo table after opening first doing bodyOpening closing found _ tokens _ rest opens condition
      doingKind bodyOpens body closes =>
      have inside : Followed (·.isSymbol .semicolon) (fun front other =>
          StatementReading (.list .endWord) table front found after (closing :: other)) _ rest :=
        .closed [] [closing] (by simp) body.endsFreely fun _ _ _ reading => reading
      refine .joined [opening] [doing, bodyOpening] (by simp) condition.endsFreely inside ?_
      intro front between other same _ reading bodyReading
      obtain ⟨front, rfl⟩ := cons_of_head? same
      exact .whileDo opens reading doingKind bodyOpens bodyReading closes
  | @ifThen _ _ opening first thenToken _ _ _ _ _ opens condition thenKind _ _ branch =>
      refine .joined [opening] [thenToken] (by simp) condition.endsFreely (branch nofun ended) ?_
      intro front between other same fitting reading branchReading
      obtain ⟨front, rfl⟩ := cons_of_head? same
      refine .ifThen opens reading thenKind branchReading ?_
      rw [Kind.isSymbol_iff.mp fitting]
      rfl
  | @ifElse table between after opening first thenToken elseToken one other _ _ _ _ _ opens
      condition thenKind branchReading elseKind _ _ otherwise =>
      have inside : Followed (·.isSymbol .semicolon) (fun front others => ∃ middle,
          StatementReading .branch table front [one] between (elseToken :: middle) ∧
          StatementReading .branch between middle [other] after others) _ _ :=
        .joined [] [elseToken] (by simp) branchReading.endsFreely (otherwise nofun ended)
          fun _ middle _ _ _ left right => ⟨middle, left, right⟩
      refine .joined [opening] [thenToken] (by simp) condition.endsFreely inside ?_
      rintro front _ others same _ reading ⟨middle, branchReading, otherwiseReading⟩
      obtain ⟨front, rfl⟩ := cons_of_head? same
      exact .ifElse opens reading thenKind branchReading elseKind otherwiseReading
  | @write _ opening _ _ _ opens argument =>
      exact argument.followed.behind [opening] fun _ _ _ inside => .write opens inside
  | @writeln _ opening _ _ _ opens argument =>
      exact argument.followed.behind [opening] fun _ _ _ inside => .writeln opens inside
  | @writelnPlain _ opening _ opens =>
      have stops {kind : Kind} (fitting : kind.isSymbol .semicolon = true) :
          kind.isSymbol .leftParenthesis = false := by
        rw [Kind.isSymbol_iff.mp fitting]
        rfl
      exact ⟨[opening], rfl, fun other fitting => .writelnPlain opens (stops fitting)⟩
  | branch _ inside =>
      exact (inside nofun ended).behind [] fun _ _ _ reading => .branch reading
  | emptyBranch kind =>
      simp only [nextKind, kind] at ended
      cases ended
  | listEnd | listGap | listLast | listNext => exact absurd rfl (single _)

/-- A list of statements before an END goes on behind a semicolon with the statements of another
list. -/
theorem StatementReading.goesOn {construct : Construct} {table after : SymbolTable}
    {tokens rest : List Token} {found : List Statement}
    (reading : StatementReading construct table tokens found after rest)
    (isList : construct = .list .endWord)
    (ended : (nextKind rest).isKeyword .endWord = true) :
    Followed (·.isSymbol .semicolon) (fun front other =>
      ∀ ⦃semicolon tail others last remaining⦄, other = semicolon :: tail →
        StatementReading (.list .endWord) after tail others last remaining →
          StatementReading (.list .endWord) table front (found ++ others) last remaining)
      tokens rest := by
  induction reading with
  | listEnd =>
      refine .stay fun other fitting semicolon tail others last remaining same reading => ?_
      subst same
      exact .listGap (Kind.isSymbol_iff.mp fitting) reading
  | @listGap _ _ _ semicolon _ _ _ kind _ others =>
      exact (others isList ended).behind [semicolon] fun _ _ _ inside _ _ _ _ _ same reading =>
        .listGap kind (inside same reading)
  | listLast lastReading =>
      refine (lastReading.followed nofun ended).behind [] ?_
      intro front other fitting single semicolon tail others last remaining same reading
      subst same
      exact .listNext single (Kind.isSymbol_iff.mp fitting) reading
  | @listNext _ _ _ _ joint _ _ _ _ _ first kind _ _ others =>
      refine .joined [] [joint] (by simp) first.endsFreely (others isList ended) ?_
      intro front between other _ _ single inside semicolon tail more last remaining same reading
      rw [List.append_assoc]
      exact .listNext single kind (inside same reading)
  | _ => cases isList

end MiniPascal
