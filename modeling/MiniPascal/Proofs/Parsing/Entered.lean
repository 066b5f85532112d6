/-
This file says what parsing leaves in a table: fresh cells for the names at which statements begin, and
for a program without mistakes those of all its identifiers.
-/

import MiniPascal.Proofs.Parsing.Acceptance
import MiniPascal.Proofs.Parsing.Entering
import MiniPascal.Proofs.Parsing.Names
import Mathlib

namespace MiniPascal

/-- The tokens up to a rest take a table to the one with all their names. -/
def Enrolled (table : SymbolTable) (tokens rest : List Token) (after : SymbolTable) : Prop :=
  ∃ front, tokens = front ++ rest ∧ after = table.enterAll (namesOf front)

namespace Enrolled

variable {table between after : SymbolTable} {token : Token} {tokens middle rest : List Token}

theorem refl : Enrolled table tokens tokens table := ⟨[], rfl, rfl⟩

theorem trans (before : Enrolled table tokens middle between)
    (behind : Enrolled between middle rest after) : Enrolled table tokens rest after := by
  obtain ⟨front, rfl, rfl⟩ := before
  obtain ⟨others, rfl, rfl⟩ := behind
  refine ⟨front ++ others, (List.append_assoc _ _ _).symm, ?_⟩
  rw [namesOf_append, SymbolTable.enterAll_append]

/-- A token that is no identifier has no name. -/
theorem skip {kind : Kind} (same : token.kind = kind) (other : kind.isIdentifier = false) :
    Enrolled table (token :: rest) rest table :=
  ⟨[token], rfl, by rw [namesOf_single_of_other (same ▸ other)]; rfl⟩

theorem operator {α : Type} {operator : α} {operator? : Kind → Option α}
    (found : operator? token.kind = some operator) (none : operator? .identifier = none) :
    Enrolled table (token :: rest) rest table := by
  refine skip rfl (Bool.eq_false_iff.mpr fun named => ?_)
  rw [Kind.isIdentifier_iff.mp named, none] at found
  cases found

theorem named (kind : token.kind = .identifier) :
    Enrolled table (token :: rest) rest (table.enter token.text) :=
  ⟨[token], rfl, by rw [namesOf_single_of_identifier kind]; rfl⟩

/-- A name that is known takes a table to itself. -/
theorem known {cell : Cell} (kind : token.kind = .identifier)
    (found : table.lookup? token.text = some cell) : Enrolled table (token :: rest) rest table := by
  have same : table.enter token.text = table :=
    SymbolTable.enter_of_contains (by rw [SymbolTable.contains, found]; rfl)
  have entered : Enrolled table (token :: rest) rest (table.enter token.text) := named kind
  rwa [same] at entered

end Enrolled

/-- All names of an expression are known. -/
theorem ExpressionReading.enrolled {table : SymbolTable} {level : Level} {tokens rest : List Token}
    {found : Expression} (reading : ExpressionReading table level tokens found rest) :
    Enrolled table tokens rest table := by
  induction reading with
  | reference kind known => exact .known kind known
  | integer kind | real kind => exact .skip kind rfl
  | group opens _ closes inside =>
      exact .trans (.skip opens rfl) (inside.trans (.skip closes rfl))
  | negation kind _ operand => exact .trans (.skip kind rfl) operand
  | chainEnd => exact .refl
  | @chainNext rank _ _ _ _ _ _ _ _ goesOn _ _ operand others =>
      exact .trans (.operator goesOn rank.operator?_identifier) (operand.trans others)
  | term _ _ factor others | unsigned _ _ _ factor others => exact factor.trans others
  | signed kind _ _ term others => exact .trans (.operator kind rfl) (term.trans others)
  | alone _ _ simple => exact simple
  | compared _ kind _ first second => exact first.trans (.trans (.operator kind rfl) second)

theorem FormatReading.enrolled {table : SymbolTable} {tokens rest : List Token} {format : Format}
    (reading : FormatReading tokens format rest) : Enrolled table tokens rest table := by
  have field {colon width : Token} {behind : List Token} {number : Nat}
      (colonKind : colon.kind = .symbol .colon) (widthKind : width.kind = .integer number) :
      Enrolled table (colon :: width :: behind) behind table :=
    .trans (.skip colonKind rfl) (.skip widthKind rfl)
  cases reading with
  | plain => exact .refl
  | field colon width => exact field colon width
  | fixed colon width second places => exact (field colon width).trans (field second places)

theorem ArgumentReading.enrolled {table : SymbolTable} {tokens rest : List Token}
    {argument : Argument} (reading : ArgumentReading table tokens argument rest) :
    Enrolled table tokens rest table := by
  cases reading with
  | argument opens itemReading formatReading closes =>
      refine .trans (.skip opens rfl) (.trans ?_ (formatReading.enrolled.trans (.skip closes rfl)))
      cases itemReading with
      | reference kind known => exact .known kind known
      | string kind | character kind => exact .skip kind rfl

/-- Statements take the table to the one with all their names: those that they read are known when
they are reached. -/
theorem StatementReading.enrolled {construct : Construct} {table after : SymbolTable}
    {tokens rest : List Token} {found : List Statement}
    (reading : StatementReading construct table tokens found after rest) :
    Enrolled table tokens rest after := by
  induction reading with
  | assign kind sign value => exact .trans (.named kind) (.trans (.skip sign rfl) value.enrolled)
  | compound opens _ closes body => exact .trans (.skip opens rfl) (body.trans (.skip closes rfl))
  | repeatUntil opens _ test condition body =>
      exact .trans (.skip opens rfl) (body.trans (.trans (.skip test rfl) condition.enrolled))
  | whileDo opens condition doing bodyOpens _ closes body =>
      exact .trans (.skip opens rfl) (condition.enrolled.trans (.trans (.skip doing rfl)
        (.trans (.skip bodyOpens rfl) (body.trans (.skip closes rfl)))))
  | ifThen opens condition thenKind _ _ branch =>
      exact .trans (.skip opens rfl) (condition.enrolled.trans (.trans (.skip thenKind rfl) branch))
  | ifElse opens condition thenKind _ elseKind _ branch otherwise =>
      exact .trans (.skip opens rfl) (condition.enrolled.trans (.trans (.skip thenKind rfl)
        (branch.trans (.trans (.skip elseKind rfl) otherwise))))
  | write opens argument | writeln opens argument =>
      exact .trans (.skip opens rfl) argument.enrolled
  | writelnPlain opens => exact .skip opens rfl
  | branch _ statement => exact statement
  | emptyBranch | listEnd => exact .refl
  | listGap kind _ others => exact .trans (.skip kind rfl) others
  | listLast _ _ last => exact last
  | listNext _ kind _ first others => exact first.trans (.trans (.skip kind rfl) others)

theorem ProgramReading.enrolled {table after : SymbolTable} {tokens rest : List Token}
    {found : Program} (reading : ProgramReading table tokens found after rest) :
    Enrolled table tokens rest after := by
  cases reading with
  | program opens named semicolonKind bodyOpens body closes ends =>
      exact .trans (.skip opens rfl) (.trans (.named named) (.trans (.skip semicolonKind rfl)
        (.trans (.skip bodyOpens rfl) (body.enrolled.trans (.skip closes rfl)))))

/-- The keys of first spellings are the first occurrences of the keys. -/
theorem map_eraseDupsBy {α β : Type} [BEq β] (key : α → β) (items : List α) :
    (items.eraseDupsBy fun later earlier => key later == key earlier).map key =
      (items.map key).eraseDups := by
  match items with
  | [] => rfl
  | item :: items =>
      have later : (items.filter fun other => decide ((key other == key item) = false)) =
          items.filter ((!· == key item) ∘ key) :=
        List.filter_congr fun other _ => by simp
      rw [List.eraseDupsBy_cons, List.map_cons, List.map_cons, List.eraseDups_cons, List.filter_map,
        later, map_eraseDupsBy key]
termination_by items.length
decreasing_by exact Nat.lt_succ_of_le (List.length_filter_le _ _)

theorem SymbolTable.keys_enterAll_empty (names : List String) :
    (SymbolTable.empty.enterAll names).cells.map Cell.key = (names.map key).eraseDups := by
  have all : names.filter (!SymbolTable.empty.contains ·) = names :=
    List.filter_eq_self.mpr fun _ _ => rfl
  rw [cells_enterAll, newNames, all, ← map_eraseDupsBy]
  exact List.map_map

/-- The keys of an accepted text are the names of its program. -/
theorem Accepts.keys {text : String} {program : Program} {table : SymbolTable}
    (accepts : Accepts text program table) :
    ∃ accepted, accepted <+: (Scanner.ofText text).scan.tokens ∧ WellFormed accepted ∧
      table.cells.map Cell.key = ((namesOf accepted).map SymbolTable.key).eraseDups := by
  obtain ⟨rest, reading⟩ := accepts_iff_reading.mp accepts
  obtain ⟨accepted, period, more, same, alone⟩ := reading.restrict
  obtain ⟨derives, declared⟩ := alone.sound
  refine ⟨accepted, ⟨more, same.symm⟩, ⟨derives, declared⟩, ?_⟩
  obtain ⟨front, _, whole, -, ends⟩ := alone.ends
  have last : period.kind.isIdentifier = false := by rw [ends]; rfl
  obtain ⟨front, rfl, rfl⟩ := alone.enrolled
  rw [SymbolTable.keys_enterAll_empty, namesOf_append, namesOf_single_of_other last, List.append_nil]

/-- Parsing leaves every cell of a table as it is. Behind these it enters a fresh cell for the first
spelling of each new name among the identifiers at which it begins, which it meets in the order of the
text; a variable that is read enters nothing. The keys of a program without mistakes are its
identifiers in lower case, in the order in which they occur first. -/
theorem parsing_enters_begun_names (text : String) (table : SymbolTable) :
    let begun := Parse.begunInProgram ⟨.ofText text, [], table⟩
    (parseProgram text table).state.table.cells =
        table.cells ++ (table.newNames (namesOf begun)).map SymbolTable.freshCell ∧
      (identifiersOf begun).Sublist (Scanner.ofText text).scan.tokens ∧
      (∀ state, (Parse.variableRead.on state).state.table = state.table) ∧
      ∀ program declared, Accepts text program declared → ∃ accepted,
        accepted <+: (Scanner.ofText text).scan.tokens ∧ WellFormed accepted ∧
          declared.cells.map Cell.key =
            ((namesOf accepted).map SymbolTable.key).eraseDups := by
  obtain ⟨entered, order⟩ := Parse.program_enters ⟨.ofText text, [], table⟩
  refine ⟨?_, ?_, fun state => (Parse.Silent.variableRead state).table,
    fun _ _ accepts => accepts.keys⟩
  · rw [← SymbolTable.cells_enterAll, ← entered]
    rfl
  · have outside : (Stream.ofText text).identifiers =
        identifiersOf (Scanner.ofText text).scan.tokens := rfl
    rw [outside] at order
    exact ((List.sublist_append_left _ _).trans order).trans List.filter_sublist

-- A statement without its assignment sign has entered its first name when it is given up; what is
-- skipped and what is read enters nothing.
example : namesOf (Parse.begunInProgram
    ⟨.ofText "program p; begin x y := 1; z := w + x end.", [], .empty⟩) = ["p", "x", "z"] := by
  decide +kernel

/-- A program that spells one name in two ways. -/
def respelledTarget : Program :=
  ⟨1, some "p", 1, [.assign 1 ⟨⟨"Sum", 1⟩, .cell "sum" "Sum"⟩ (.integer ⟨"1", 1⟩ 1),
    .assign 1 ⟨⟨"SUM", 1⟩, .cell "sum" "Sum"⟩ (.reference ⟨⟨"sum", 1⟩, .cell "sum" "Sum"⟩)]⟩

theorem respelledTarget_keys :
    Accepts "program p; begin Sum := 1; SUM := sum end." respelledTarget
        ((SymbolTable.empty.enter "p").enter "Sum") ∧
      ∃ accepted, WellFormed accepted ∧
        ((SymbolTable.empty.enter "p").enter "Sum").cells.map Cell.key =
          ((namesOf accepted).map SymbolTable.key).eraseDups := by
  have accepts : Accepts "program p; begin Sum := 1; SUM := sum end." respelledTarget
      ((SymbolTable.empty.enter "p").enter "Sum") := ⟨by cbv, by decide +kernel, by cbv⟩
  obtain ⟨-, -, -, keys⟩ := parsing_enters_begun_names
    "program p; begin Sum := 1; SUM := sum end." .empty
  obtain ⟨accepted, _, wellFormed, same⟩ := keys _ _ accepts
  exact ⟨accepts, accepted, wellFormed, same⟩

end MiniPascal
