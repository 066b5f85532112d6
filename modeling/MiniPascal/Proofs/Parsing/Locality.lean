/-
This file shows that a reading does not depend on the tokens behind the first one that it leaves.
-/

import MiniPascal.Proofs.Parsing.Reading

namespace MiniPascal

/-- When a relation takes tokens up to a rest, it takes the same tokens before any other end that
keeps the first token of the rest. -/
def EndsFreely (takes : List Token → List Token → Prop) (tokens rest : List Token) : Prop :=
  ∀ kept tail, rest = kept ++ tail → kept ≠ [] →
    ∃ front, front ≠ [] ∧ tokens = front ++ tail ∧ ∀ other, takes (front ++ other) (kept ++ other)

/-- The next token stays when there is one before the end. -/
theorem head?_append {kept : List Token} (nonempty : kept ≠ []) (tail other : List Token) :
    (kept ++ other).head? = (kept ++ tail).head? := by
  cases kept with
  | nil => exact absurd rfl nonempty
  | cons _ _ => rfl

theorem nextKind_congr {tokens others : List Token} (same : tokens.head? = others.head?) :
    nextKind tokens = nextKind others := by
  cases tokens <;> cases others <;> simp_all [nextKind]

/-- A list with the same first token has that token and others. -/
theorem cons_of_head? {tokens others : List Token} {first : Token}
    (same : tokens.head? = (first :: others).head?) : ∃ behind, tokens = first :: behind := by
  cases tokens with
  | nil => cases same
  | cons token behind =>
      obtain rfl : token = first := Option.some.inj same
      exact ⟨behind, rfl⟩

namespace EndsFreely

variable {first second whole : List Token → List Token → Prop} {tokens middle rest : List Token}

/-- What takes nothing depends on the next token only. -/
theorem stay (takes : ∀ others, others.head? = rest.head? → whole others others) :
    EndsFreely whole rest rest := by
  rintro kept tail rfl nonempty
  exact ⟨kept, nonempty, rfl, fun other => takes _ (head?_append nonempty tail other)⟩

/-- Given tokens may stand before and behind what is taken. -/
theorem frame (opening closing : List Token) (free : EndsFreely first tokens (closing ++ rest))
    (build : ∀ front others, others.head? = rest.head? → first front (closing ++ others) →
      whole (opening ++ front) others) :
    EndsFreely whole (opening ++ tokens) rest := by
  rintro kept tail rfl nonempty
  obtain ⟨front, frontNonempty, rfl, takes⟩ :=
    free (closing ++ kept) tail (List.append_assoc _ _ _).symm (by simp [nonempty])
  refine ⟨opening ++ front, by simp [frontNonempty], (List.append_assoc _ _ _).symm, ?_⟩
  intro other
  have inside := takes other
  rw [List.append_assoc] at inside ⊢
  exact build _ _ (head?_append nonempty tail other) inside

/-- The second relation goes on where the first one stops, behind given tokens. -/
theorem trans (opening joint : List Token) (firstFree : EndsFreely first tokens (joint ++ middle))
    (secondFree : EndsFreely second middle rest)
    (build : ∀ front between others, front.head? = tokens.head? →
      others.head? = rest.head? → first front (joint ++ between) → second between others →
        whole (opening ++ front) others) :
    EndsFreely whole (opening ++ tokens) rest := by
  rintro kept tail rfl nonempty
  obtain ⟨between, betweenNonempty, rfl, secondTakes⟩ := secondFree kept tail rfl nonempty
  obtain ⟨front, frontNonempty, rfl, firstTakes⟩ :=
    firstFree (joint ++ between) tail (List.append_assoc _ _ _).symm (by simp [betweenNonempty])
  refine ⟨opening ++ front, by simp [frontNonempty], (List.append_assoc _ _ _).symm, ?_⟩
  intro other
  have inside := firstTakes other
  rw [List.append_assoc] at inside ⊢
  exact build _ _ _ (head?_append frontNonempty tail other)
    (head?_append nonempty tail other) inside (secondTakes other)

/-- A single token is taken before any rest. -/
theorem token {item : Token} (takes : ∀ others, others.head? = rest.head? →
    whole (item :: others) others) : EndsFreely whole (item :: rest) rest :=
  frame [item] [] (stay fun _ _ => rfl) fun _ others same inside => by
    obtain rfl : _ = others := inside
    exact takes _ same

end EndsFreely

theorem ExpressionReading.endsFreely {table : SymbolTable} {level : Level}
    {tokens rest : List Token} {found : Expression}
    (reading : ExpressionReading table level tokens found rest) :
    EndsFreely (fun front others => ExpressionReading table level front found others)
      tokens rest := by
  induction reading with
  | reference kind known => exact .token fun _ _ => .reference kind known
  | integer kind => exact .token fun _ _ => .integer kind
  | real kind => exact .token fun _ _ => .real kind
  | @group opening closing _ _ _ opens _ closes inside =>
      exact inside.frame [opening] [closing] fun _ _ _ reading => .group opens reading closes
  | @negation token _ _ _ kind _ operand =>
      exact operand.frame [token] [] fun _ _ _ reading => .negation kind reading
  | chainEnd stops => exact .stay fun _ same => .chainEnd (by rw [nextKind_congr same, stops])
  | @chainNext _ _ _ _ _ sign _ _ _ goesOn _ _ operand others =>
      exact operand.trans [sign] [] others fun _ _ _ _ _ first second =>
        .chainNext goesOn first second
  | term _ _ factor others =>
      exact factor.trans [] [] others fun _ _ _ _ _ first second => .term first second
  | unsigned noSign _ _ term others =>
      exact term.trans [] [] others fun _ _ _ same _ first second =>
        .unsigned (by rw [List.nil_append, nextKind_congr same, noSign]) first second
  | @signed _ _ _ sign _ _ _ kind _ _ term others =>
      exact term.trans [sign] [] others fun _ _ _ _ _ first second => .signed kind first second
  | alone _ stops simple =>
      exact simple.frame [] [] fun _ _ same reading => .alone reading (by rw [nextKind_congr same, stops])
  | @compared _ _ _ sign _ _ _ _ kind _ first second =>
      exact first.trans [] [sign] second fun _ _ _ _ _ left right => .compared left kind right

theorem FormatReading.endsFreely {tokens rest : List Token} {found : Format}
    (reading : FormatReading tokens found rest) :
    EndsFreely (fun front others => FormatReading front found others) tokens rest := by
  cases reading with
  | plain stops => exact .stay fun _ same => .plain (by rw [nextKind_congr same, stops])
  | @field colon width _ _ colonKind widthKind stops =>
      have inside : EndsFreely (fun front others => front = others) rest rest := .stay fun _ _ => rfl
      refine inside.frame [colon, width] [] fun _ others same equal => ?_
      obtain rfl : _ = others := equal
      rw [← nextKind_congr same] at stops
      exact .field colonKind widthKind stops
  | @fixed colon width second places _ _ _ colonKind widthKind secondKind placesKind =>
      have inside : EndsFreely (fun front others => front = others) rest rest := .stay fun _ _ => rfl
      refine inside.frame [colon, width, second, places] [] fun _ others _ equal => ?_
      obtain rfl : _ = others := equal
      exact .fixed colonKind widthKind secondKind placesKind

theorem ArgumentReading.endsFreely {table : SymbolTable} {tokens rest : List Token}
    {found : Argument} (reading : ArgumentReading table tokens found rest) :
    EndsFreely (fun front others => ArgumentReading table front found others) tokens rest := by
  cases reading with
  | @argument opening token closing _ _ _ _ opens item format closes =>
      exact format.endsFreely.frame [opening, token] [closing] fun _ _ _ inside =>
        .argument opens item inside closes

theorem StatementReading.endsFreely {construct : Construct} {table after : SymbolTable}
    {tokens rest : List Token} {found : List Statement}
    (reading : StatementReading construct table tokens found after rest) :
    EndsFreely (fun front others => StatementReading construct table front found after others)
      tokens rest := by
  induction reading with
  | @assign _ target sign _ _ _ kind signKind value =>
      exact value.endsFreely.frame [target, sign] [] fun _ _ _ inside => .assign kind signKind inside
  | @compound _ _ opening closing _ _ _ opens _ closes body =>
      exact body.frame [opening] [closing] fun _ _ _ inside => .compound opens inside closes
  | @repeatUntil _ _ opening test _ _ _ _ _ opens _ testKind condition body =>
      exact body.trans [opening] [test] condition.endsFreely fun _ _ _ _ _ first second =>
        .repeatUntil opens first testKind second
  | @whileDo table after opening first doing bodyOpening closing found _ tokens _ _ opens condition
      doingKind bodyOpens _ closes body =>
      have inside : EndsFreely (fun front others => StatementReading (.list .endWord) table front
          found after (closing :: others)) _ _ :=
        body.frame [] [closing] fun _ _ _ reading => reading
      refine condition.endsFreely.trans [opening] [doing, bodyOpening] inside ?_
      intro front between others same _ reading bodyReading
      obtain ⟨front, rfl⟩ := cons_of_head? same
      exact .whileDo opens reading doingKind bodyOpens bodyReading closes
  | @ifThen _ _ opening first thenToken _ _ tokens _ _ opens condition thenKind _ noElse branch =>
      refine condition.endsFreely.trans [opening] [thenToken] branch ?_
      intro front between others same sameRest reading branchReading
      obtain ⟨front, rfl⟩ := cons_of_head? same
      exact .ifThen opens reading thenKind branchReading (by rw [nextKind_congr sameRest, noElse])
  | @ifElse table between after opening first thenToken elseToken one other _ tokens _ _ _ opens
      condition thenKind _ elseKind _ branch otherwise =>
      have inside : EndsFreely (fun front others => ∃ middle,
          StatementReading .branch table front [one] between (elseToken :: middle) ∧
          StatementReading .branch between middle [other] after others) _ _ :=
        branch.trans [] [elseToken] otherwise fun _ middle _ _ _ left right => ⟨middle, left, right⟩
      refine condition.endsFreely.trans [opening] [thenToken] inside ?_
      rintro front _ others same _ reading ⟨middle, branchReading, otherwiseReading⟩
      obtain ⟨front, rfl⟩ := cons_of_head? same
      exact .ifElse opens reading thenKind branchReading elseKind otherwiseReading
  | @write _ opening _ _ _ opens argument =>
      exact argument.endsFreely.frame [opening] [] fun _ _ _ inside => .write opens inside
  | @writeln _ opening _ _ _ opens argument =>
      exact argument.endsFreely.frame [opening] [] fun _ _ _ inside => .writeln opens inside
  | writelnPlain opens stops =>
      exact .token fun _ same => .writelnPlain opens (by rw [nextKind_congr same, stops])
  | branch _ inside => exact inside.frame [] [] fun _ _ _ reading => .branch reading
  | emptyBranch kind =>
      refine .stay fun others same => ?_
      obtain ⟨others, rfl⟩ := cons_of_head? same
      exact .emptyBranch kind
  | listEnd ends => exact .stay fun _ same => .listEnd (by rw [nextKind_congr same, ends])
  | @listGap _ _ _ semicolon _ _ _ kind _ others =>
      exact others.frame [semicolon] [] fun _ _ _ inside => .listGap kind inside
  | listLast _ ends last =>
      exact last.frame [] [] fun _ _ same inside => .listLast inside (by rw [nextKind_congr same, ends])
  | @listNext _ _ _ _ semicolon _ _ _ _ _ _ kind _ first others =>
      exact first.trans [] [semicolon] others fun _ _ _ _ _ left right => .listNext left kind right

/-- A program is read before any tokens that come behind its period. -/
theorem ProgramReading.endsFreely {table after : SymbolTable} {tokens rest : List Token}
    {found : Program} (reading : ProgramReading table tokens found after rest) :
    ∃ front period tail, rest = period :: tail ∧ tokens = front ++ tail ∧
      ∀ other, ProgramReading table (front ++ other) found after (period :: other) := by
  cases reading with
  | @program _ opening name semicolon bodyOpening closing period _ tokens tail opens named separates
      bodyOpens body closes ends =>
      obtain ⟨front, _, rfl, takes⟩ := body.endsFreely [closing, period] tail rfl (by simp)
      exact ⟨opening :: name :: semicolon :: bodyOpening :: front, period, tail, rfl, rfl,
        fun other => .program opens named separates bodyOpens (takes other) closes ends⟩

end MiniPascal
