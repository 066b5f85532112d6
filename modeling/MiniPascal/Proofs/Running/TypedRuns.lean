/-
This file shows that a well-typed program never fails at a check of types, on no table of real
numbers and after no number of passes.
-/

import MiniPascal.Proofs.Running.Typing

namespace MiniPascal

mutual

/-- What stands in a statement to be asked for: every expression that is assigned or tested, and
every argument that is written. -/
def Statement.queries : Statement → List Query
  | .empty _ => []
  | .compound _ body => Statement.allQueries body
  | .assign _ target value => [.number target.mark value]
  | .repeatUntil _ body test condition => Statement.allQueries body ++ [.truth test condition]
  | .whileDo _ test condition _ body => .truth test condition :: Statement.allQueries body
  | .ifThen _ test condition branch => .truth test condition :: branch.queries
  | .ifElse _ test condition branch otherwise =>
      .truth test condition :: (branch.queries ++ otherwise.queries)
  | .write _ argument => [.text argument]
  | .writeln _ none => []
  | .writeln _ (some argument) => [.text argument]

def Statement.allQueries : List Statement → List Query
  | [] => []
  | statement :: statements => statement.queries ++ Statement.allQueries statements

end

def Command.queries : Command → List Query
  | .one statement => statement.queries
  | .all body => Statement.allQueries body

/-- A command asks only for what stands in it. -/
theorem Command.Asks.mem_queries {command : Command} {machine place : Machine} {query : Query}
    (asks : command.Asks machine query place) : query ∈ command.queries := by
  induction asks with
  | assign | write | writeln | whileTest | ifTest | ifElseTest => exact List.mem_cons_self
  | repeatTest => exact List.mem_append_right _ (List.mem_singleton_self _)
  | first _ part | repeatBody _ part => exact List.mem_append_left _ part
  | later _ _ part => exact List.mem_append_right _ part
  | whileBody _ _ part | ifBranch _ _ part => exact List.mem_cons_of_mem _ part
  | ifElseBranch _ _ part => exact List.mem_cons_of_mem _ (List.mem_append_left _ part)
  | ifElseOtherwise _ _ part => exact List.mem_cons_of_mem _ (List.mem_append_right _ part)
  | compound _ part | repeatAgain _ _ _ part | whileAgain _ _ _ part => exact part

/-- What is assigned is numeric, and what is tested is a truth value. -/
def Query.WellTyped : Query → Prop
  | .number _ source => source.type? = some .numeric
  | .truth _ source => source.type? = some .truth
  | .text _ => True

instance : (query : Query) → Decidable query.WellTyped
  | .number _ source => inferInstanceAs (Decidable (source.type? = some .numeric))
  | .truth _ source => inferInstanceAs (Decidable (source.type? = some .truth))
  | .text _ => inferInstanceAs (Decidable True)

/-- Everything that is assigned or tested in a program has the type that is asked for. -/
def Program.WellTyped (program : Program) : Prop :=
  ∀ query ∈ Statement.allQueries program.body, query.WellTyped

instance (program : Program) : Decidable program.WellTyped :=
  inferInstanceAs (Decidable (∀ query ∈ Statement.allQueries program.body, query.WellTyped))

variable {table : SymbolTable} {halt : Halt}

theorem Halt.not_incompatible_of_ofFault {α : Type} {result : Except Fault α}
    (fails : Halt.ofFault result = .error halt) : halt.isIncompatible = false := by
  cases result <;> cases fails
  rfl

/-- A layout is written without a check of types. -/
theorem Argument.not_incompatible {argument : Argument} (fails : argument.text table = .error halt) :
    halt.isIncompatible = false := by
  obtain ⟨item, format⟩ := argument
  have whole {width : Width} (fails : width.whole = .error halt) : halt.isIncompatible = false :=
    Halt.not_incompatible_of_ofFault fails
  obtain same | ⟨width, _, others⟩ := bind_eq_error_iff.mp fails
  · cases format with
    | plain => cases same
    | field | fixed => exact whole same
  obtain same | ⟨places, _, others⟩ := bind_eq_error_iff.mp others
  · cases format with
    | plain | field => cases same
    | fixed => exact whole same
  obtain same | ⟨value, _, fails⟩ := bind_eq_error_iff.mp others
  · cases item with
    | reference source => exact SymbolTable.not_incompatible_of_read same
    | string => cases same
  · exact Halt.not_incompatible_of_ofFault fails

/-- What is well typed fails for another reason than its type. -/
theorem Query.WellTyped.not_incompatible {query : Query} (typed : query.WellTyped)
    (reals : table.HoldsReals) (fails : query.Fails table halt) : halt.isIncompatible = false := by
  cases query with
  | number mark source =>
      exact Expression.not_incompatible_of_operand reals typed
        (Expression.not_incompatible reals typed) (Mark.number_error fails)
  | truth mark source =>
      exact Expression.not_incompatible_of_operand reals typed
        (Expression.not_incompatible reals typed) (Mark.truth_error fails)
  | text argument => exact Argument.not_incompatible fails

theorem SymbolTable.HoldsReals.store (reals : table.HoldsReals) (key : String) (number : Float) :
    (table.store key (.real number)).HoldsReals := reals.write number (.cell key key)

/-- A well-typed program ends with no report of a type, however many passes it makes. -/
theorem Program.WellTyped.not_incompatible {program : Program} (typed : program.WellTyped)
    (reals : table.HoldsReals) {bound : Nat} {error : RuntimeError}
    (reports : (execute bound program.toTree table).result = .error (.error error)) :
    error.violation ≠ .incompatibleTypes := by
  obtain exhausted | ⟨result, after, ends⟩ := execute_cases bound program table
  · rw [exhausted] at reports
    cases reports
  rw [ends] at reports
  cases result with
  | ok => cases reports
  | error halt =>
      obtain ⟨query, place, asks, fails, rfl⟩ :=
        Command.runs_error_iff.mp (runs_of_execute ends)
      have real : place.table.HoldsReals := asks.keeps (fun _ _ _ held => held.write _ _) reals
      have passes := (typed query asks.mem_queries).not_incompatible real fails
      cases halt with
      | error found =>
          cases reports
          simpa [Halt.isIncompatible] using passes
      | fault => cases reports

/-- Over every table of real numbers the types that the syntax tells are those of a run. A program
whose assigned expressions are numeric and whose tests are truth values reports no incompatible
types; every program keeps the values real, wherever it stops and wherever it asks for something;
and what the tree of any expression yields has the type of the expression, so that an ill-typed
expression yields nothing. -/
theorem execution_agrees_with_types (table : SymbolTable) (reals : table.HoldsReals) :
    (∀ program : Program, program.WellTyped → ∀ bound error,
      (execute bound program.toTree table).result = .error (.error error) →
        error.violation ≠ .incompatibleTypes) ∧
    (∀ program : Program,
      (∀ bound, (execute bound program.toTree table).machine.table.HoldsReals) ∧
        ∀ query place, program.Asks table query place → place.table.HoldsReals) ∧
    ∀ (source : Expression) (output : String) (bound : Nat) (value : Value),
      ((source.toTree.visit bound).on ⟨table, output⟩).result = .ok value →
        ∃ type, source.type? = some type ∧ value.type? = some type := by
  have kept : SymbolTable.KeptByStores SymbolTable.HoldsReals := fun _ key number held =>
    held.store key number
  refine ⟨fun program typed bound error => typed.not_incompatible reals, fun program => ?_, ?_⟩
  · refine ⟨fun bound => execute_keeps kept bound program.toTree reals, fun query place asks => ?_⟩
    exact Command.Asks.keeps (fun _ _ _ held => held.write _ _) asks reals
  · intro source output bound value yields
    have finds : (source.toTree.visit bound).on ⟨table, output⟩ =
        Machine.settle ⟨table, output⟩ (source.value table) := source.finds_value bound _
    rw [finds] at yields
    cases found : source.value table with
    | error halt =>
        rw [found] at yields
        cases yields
    | ok other =>
        rw [found] at yields
        cases yields
        exact Expression.type_value reals found

/-- A program that counts a variable down to zero. -/
def countdown (start : Nat) : Program :=
  let counter : Variable := ⟨⟨"n", 1⟩, .cell "n" "n"⟩
  let less : Expression := .binary .subtract ⟨"-", 1⟩ (.reference counter) (.integer ⟨"1", 1⟩ 1)
  let positive : Expression := .binary .greater ⟨">", 1⟩ (.reference counter) (.integer ⟨"0", 1⟩ 0)
  ⟨1, some "p", 1, [.assign 1 counter (.integer ⟨toString start, 1⟩ start),
    .whileDo 1 ⟨"while", 1⟩ positive 1 [.assign 1 counter less]]⟩

theorem countdown_typed :
    (SymbolTable.empty.enter "n").HoldsReals ∧ (countdown 3).WellTyped ∧
      ∀ bound error, (execute bound (countdown 3).toTree (SymbolTable.empty.enter "n")).result =
        .error (.error error) → error.violation ≠ .incompatibleTypes := by
  have reals : (SymbolTable.empty.enter "n").HoldsReals := SymbolTable.HoldsReals.empty.enter "n"
  have typed : (countdown 3).WellTyped := by decide
  exact ⟨reals, typed, (execution_agrees_with_types _ reals).1 _ typed⟩

end MiniPascal
