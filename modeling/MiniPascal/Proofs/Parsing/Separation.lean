/-
This file shows that in a program of the grammar every number stands before a mark or a reserved word,
and not before the point.
-/

import MiniPascal.Proofs.Parsing.Grammar
import MiniPascal.Proofs.Scanning.Respelling

namespace MiniPascal

/-- The numbers in front of a rest stand before marks and reserved words, but for one that the rest
follows. -/
def NumbersEndUpTo (tokens rest : List Token) : Prop :=
  ∀ token behind, token :: behind <:+ tokens → rest <:+ behind → token.kind.isNumber = true →
    behind = rest ∨ behind.head?.any (·.kind.endsNumber) = true

theorem Kind.isNumber_of_endsNumber {kind : Kind} (ends : kind.endsNumber = true) :
    kind.isNumber = false := by
  cases kind <;> first | rfl | cases ends

theorem Kind.endsNumber_of_isOperator {kind : Kind} (operates : kind.isOperator = true) :
    kind.endsNumber = true := by
  cases kind with
  | symbol mark => cases mark <;> first | rfl | cases operates
  | keyword => rfl
  | _ => cases operates

namespace NumbersEndUpTo

variable {token sign : Token} {tokens middle rest : List Token}

theorem refl : NumbersEndUpTo rest rest := by
  intro token behind inside short _
  have longer := inside.length_le
  have shorter := short.length_le
  rw [List.length_cons] at longer
  omega

/-- A token is followed by the rest alone. -/
theorem single : NumbersEndUpTo (token :: rest) rest := by
  intro other behind inside short _
  have longer := inside.length_le
  rw [List.length_cons, List.length_cons] at longer
  exact .inl (short.eq_of_length (Nat.le_antisymm short.length_le (Nat.le_of_succ_le_succ longer))).symm

/-- What is no number may stand before all tokens. -/
theorem skip {kind : Kind} (same : token.kind = kind) (noNumber : kind.isNumber = false)
    (others : NumbersEndUpTo tokens rest) : NumbersEndUpTo (token :: tokens) rest := by
  intro other behind inside short number
  rcases List.suffix_cons_iff.mp inside with equal | inside
  · rw [(List.cons.inj equal).1, same, noNumber] at number
    cases number
  · exact others other behind inside short number

/-- Two parts may be joined where the second one ends a number or is empty. -/
theorem trans (front : NumbersEndUpTo tokens middle) (suffix : middle <:+ tokens)
    (joint : middle = rest ∨ middle.head?.any (·.kind.endsNumber) = true)
    (others : NumbersEndUpTo middle rest) : NumbersEndUpTo tokens rest := by
  intro token behind inside short number
  rcases List.suffix_or_suffix_of_suffix suffix inside with within | within
  · rcases List.suffix_cons_iff.mp within with rfl | within
    · exact others token behind (List.suffix_refl _) short number
    · rcases front token behind inside within number with rfl | ends
      · exact joint
      · exact .inr ends
  · exact others token behind within short number

/-- Two parts with a token between them that ends a number. -/
theorem joint (front : NumbersEndUpTo tokens (sign :: middle)) (suffix : sign :: middle <:+ tokens)
    (ends : sign.kind.endsNumber = true) (others : NumbersEndUpTo middle rest) :
    NumbersEndUpTo tokens rest :=
  front.trans suffix (.inr ends) (.skip rfl (Kind.isNumber_of_endsNumber ends) others)

end NumbersEndUpTo

/-- Further terms, further factors and a layout are empty or start with what ends a number. -/
theorem Derives.startsJoint {phrase : Nonterminal} {tokens rest : List Token}
    (derives : Derives phrase tokens rest)
    (further : phrase = .furtherTerms ∨ phrase = .furtherFactors ∨ phrase = .layout) :
    tokens = rest ∨ tokens.head?.any (·.kind.endsNumber) = true := by
  cases derives with
  | plain | noFurtherTerm | noFurtherFactor => exact .inl rfl
  | furtherTerm adds =>
      exact .inr (Kind.endsNumber_of_isOperator (by simp [Kind.isOperator, adds]))
  | furtherFactor multiplies =>
      exact .inr (Kind.endsNumber_of_isOperator (by simp [Kind.isOperator, multiplies]))
  | width colon | places colon =>
      refine .inr ?_
      rw [List.head?_cons, Option.any_some, colon]
      rfl
  | _ => simp at further

/-- The numbers in a phrase stand before marks and reserved words. A program goes on to a point. -/
theorem Derives.numbersEndUpTo {phrase : Nonterminal} {tokens rest : List Token}
    (derives : Derives phrase tokens rest) (inside : phrase ≠ .program) :
    NumbersEndUpTo tokens rest := by
  have ends {token : Token} {kind : Kind} (same : token.kind = kind)
      (ends : kind.endsNumber = true) : token.kind.endsNumber = true := same ▸ ends
  have operator {sign : Token} {tokens rest : List Token} (operates : sign.kind.isOperator = true)
      (others : NumbersEndUpTo tokens rest) : NumbersEndUpTo (sign :: tokens) rest :=
    .skip rfl (Kind.isNumber_of_endsNumber (Kind.endsNumber_of_isOperator operates)) others
  induction derives with
  | program => exact absurd rfl inside
  | compoundStatement opens list closes body =>
      exact .skip opens rfl ((body nofun).joint list.suffix (ends closes rfl) .refl)
  | emptyList | emptyBranch | plain | noFurtherTerm | noFurtherFactor => exact .refl
  | gap kind _ others => exact .skip kind rfl (others nofun)
  | lastStatement _ last | branch _ last | alone _ last => exact last nofun
  | statement member _ form =>
      refine form ?_
      rintro rfl
      exact absurd member (by decide)
  | nextStatement first kind _ front others =>
      exact (front nofun).joint first.suffix (ends kind rfl) (others nofun)
  | assignment kind sign _ value => exact .skip kind rfl (.skip sign rfl (value nofun))
  | repeatStatement opens list test _ body condition =>
      exact .skip opens rfl ((body nofun).joint list.suffix (ends test rfl) (condition nofun))
  | whileStatement opens test doing _ condition body =>
      exact .skip opens rfl ((condition nofun).joint test.suffix (ends doing rfl) (body nofun))
  | ifThen opens test thenKind _ condition branch =>
      exact .skip opens rfl ((condition nofun).joint test.suffix (ends thenKind rfl) (branch nofun))
  | ifElse opens test thenKind inner elseKind _ condition branch otherwise =>
      exact .skip opens rfl ((condition nofun).joint test.suffix (ends thenKind rfl)
        ((branch nofun).joint inner.suffix (ends elseKind rfl) (otherwise nofun)))
  | writeStatement opens parenthesis item closes argument
  | writelnStatement opens parenthesis item closes argument =>
      exact .skip opens rfl (.skip parenthesis rfl
        ((argument nofun).joint item.suffix (ends closes rfl) .refl))
  | writelnLine opens => exact .single
  | writeArgument writable further layout =>
      exact .trans .single (List.suffix_cons _ _) (further.startsJoint (by simp)) (layout nofun)
  | width colon => exact .skip colon rfl .single
  | places colon _ second =>
      exact .skip colon rfl (.trans .single (List.suffix_cons _ _)
        (.inr (ends second rfl)) (.skip second rfl .single))
  | comparison first compares _ left right =>
      exact (left nofun).joint first.suffix
        (Kind.endsNumber_of_isOperator (by simp [Kind.isOperator, compares])) (right nofun)
  | unsigned first further front others | term first further front others =>
      exact (front nofun).trans first.suffix (further.startsJoint (by simp)) (others nofun)
  | signed isSign first further front others =>
      have adds := Bool.or_eq_true_iff.mp isSign
      exact operator (by simp [Kind.isOperator, Kind.isAddingOperator, adds])
        ((front nofun).trans first.suffix (further.startsJoint (by simp)) (others nofun))
  | furtherTerm adds first further front others =>
      exact operator (by simp [Kind.isOperator, adds])
        ((front nofun).trans first.suffix (further.startsJoint (by simp)) (others nofun))
  | furtherFactor multiplies first further front others =>
      exact operator (by simp [Kind.isOperator, multiplies])
        ((front nofun).trans first.suffix (further.startsJoint (by simp)) (others nofun))
  | identifier | integer | real => exact .single
  | group opens group closes inner =>
      exact .skip opens rfl ((inner nofun).joint group.suffix (ends closes rfl) .refl)
  | negation kind _ operand => exact .skip kind rfl (operand nofun)

/-- The numbers of a program stand before marks and reserved words. -/
theorem Derives.numbersEnd {tokens : List Token} (derives : Derives .program tokens []) :
    NumbersEnd tokens := by
  cases derives with
  | @program opening name semicolon period _ _ opens named separates body ends =>
      cases body with
      | @compoundStatement begins closing tokens _ begun list closes =>
          have body : NumbersEndUpTo tokens [] := (list.numbersEndUpTo nofun).joint list.suffix
            (closes ▸ rfl) (.skip ends rfl .refl)
          have whole := body.skip begun rfl |>.skip separates rfl |>.skip named rfl
            |>.skip opens rfl
          have point : [period] <:+ opening :: name :: semicolon :: begins :: tokens :=
            ((List.suffix_cons _ _).trans list.suffix).trans ⟨[_, _, _, _], rfl⟩
          intro token behind inside number
          refine (whole token behind inside (List.nil_suffix) number).resolve_left ?_
          -- The last token of a program is the point, and no number.
          rintro rfl
          have same : [token] = [period] := by
            rcases List.suffix_or_suffix_of_suffix inside point with shorter | shorter
            · exact shorter.eq_of_length rfl
            · exact (shorter.eq_of_length rfl).symm
          rw [(List.cons.inj same).1, ends] at number
          cases number

end MiniPascal
