/-
This file shows that a program that is accepted comes to its end, to a runtime error that it
reports, or to something faulty that it asks for; and that the faulty things can be met.
-/

import MiniPascal.Proofs.Parsing.Acceptance
import MiniPascal.Proofs.Running.Desugaring
import MiniPascal.Proofs.Running.Faults

namespace MiniPascal

open Run

/-- What a program asks for is faulty when it takes the remainder of an infinite dividend, or when
its layout cannot be written. -/
inductive Query.Faulty (table : SymbolTable) : Query → Fault → Prop where
  | number {mark : Mark} {source : Expression} (takes : source.TakesRemainder table) :
      Faulty table (.number mark source) .remainderDomain
  | truth {mark : Mark} {source : Expression} (takes : source.TakesRemainder table) :
      Faulty table (.truth mark source) .remainderDomain
  | text {argument : Argument} {fault : Fault} (same : argument.fault? table = some fault) :
      Faulty table (.text argument) fault

variable {table : SymbolTable} {query : Query}

/-- Over a table of real numbers a query fails with a fault exactly when it is faulty. -/
theorem Query.fails_fault_iff {fault : Fault}
    (known : ∀ source ∈ query.variables, source.Known table) (reals : table.HoldsReals) :
    query.Fails table (.fault fault) ↔ query.Faulty table fault := by
  cases query with
  | number mark source =>
      rw [Fails, Mark.number_fault_iff, Expression.value_fault_iff known]
      constructor
      · rintro ⟨rfl, takes⟩
        exact .number takes
      · rintro ⟨takes⟩
        exact ⟨rfl, takes⟩
  | truth mark source =>
      rw [Fails, Mark.truth_fault_iff, Expression.value_fault_iff known]
      constructor
      · rintro ⟨rfl, takes⟩
        exact .truth takes
      · rintro (_ | ⟨takes⟩)
        exact ⟨rfl, takes⟩
  | text argument =>
      rw [Fails]
      obtain ⟨found, expected, fails⟩ | ⟨expected, shown, writes⟩ :=
        Argument.text_cases known reals
      · rw [fails]
        constructor
        · intro same
          cases same
          exact .text expected
        · rintro (_ | _ | same)
          rw [expected] at same
          cases same
          rfl
      · rw [writes]
        constructor
        · exact nofun
        · rintro (_ | _ | same)
          rw [expected] at same
          cases same

/-- The machine of a program is the one before its first statement. -/
def Machine.start (table : SymbolTable) : Machine := ⟨table, ""⟩

/-- A program asks for something when its body does. -/
def Program.Asks (program : Program) (table : SymbolTable) (query : Query) (place : Machine) :
    Prop := Command.Asks (.all program.body) (.start table) query place

variable {text : String} {program : Program} {declared : SymbolTable}

/-- What is known stays known wherever something is asked. -/
theorem Command.Asks.known {command : Command} {machine place : Machine} {source : Variable}
    (asks : command.Asks machine query place) (known : source.Known machine.table) :
    source.Known place.table := by
  have writes (table : SymbolTable) (number : Float) (target : Binding)
      (known : source.Known table) : source.Known (table.write number target) :=
    known.write number target
  exact asks.keeps writes known

/-- Wherever a program whose variables are bound asks for something it can read its variables, and
all values are real. -/
theorem Program.Asks.known {state : ParseState} {place : Machine}
    (asks : program.Asks table query place)
    (bound : AllBound state (Statement.allVariables program.body)) (reals : table.HoldsReals)
    (covers : table.Covers state.table) :
    (∀ source ∈ query.variables, source.Known place.table) ∧ place.table.HoldsReals := by
  refine ⟨fun source inside => Command.Asks.known asks ?_,
    Command.Asks.keeps (fun _ _ _ held => held.write _ _) asks reals⟩
  exact (bound source (Command.Asks.variables asks source inside)).known covers

theorem Accepts.asks_known (accepts : Accepts text program declared) (reals : table.HoldsReals)
    (covers : table.Covers declared) {place : Machine}
    (asks : program.Asks table query place) :
    (∀ source ∈ query.variables, source.Known place.table) ∧ place.table.HoldsReals :=
  asks.known (parseProgram_bound accepts.result) reals (accepts.table ▸ covers)

/-- The run of a program that is not exhausted ends with a result. -/
theorem execute_cases (bound : Nat) (program : Program) (table : SymbolTable) :
    (execute bound program.toTree table).result = .error .exhausted ∨
      ∃ result after, execute bound program.toTree table = .ended result after := by
  have runs : program.toTree.visit bound =
      (do Part.runAll (Statement.parts bound program.body); return .nothing) :=
    Statement.run_eq_effect bound (.compound program.bodyLine program.body)
  rw [execute, runs, on_bind]
  cases Run.on (Part.runAll (Statement.parts bound program.body)) ⟨table, ""⟩ with
  | mk found machine =>
      cases found with
      | ok => exact .inr ⟨.ok (), machine, rfl⟩
      | error stop =>
          cases stop with
          | error error => exact .inr ⟨.error (.error error), machine, rfl⟩
          | fault fault => exact .inr ⟨.error (.fault fault), machine, rfl⟩
          | exhausted => exact .inl rfl

/-- Every way in which the run of a program may stop within a bound. -/
inductive Program.Stops (program : Program) (table : SymbolTable) (outcome : Outcome Value) :
    Prop where
  | exhausted (result : outcome.result = .error .exhausted)
  | ends (result : outcome.result = .ok .nothing)
  /-- What fails is reported, and the report is the last output. -/
  | reports {query : Query} {place : Machine} {error : RuntimeError}
      (asks : program.Asks table query place) (fails : query.Fails place.table (.error error))
      (result : outcome.result = .error (.error error))
      (machine : outcome.machine = place.print error.render)
  /-- What is faulty is not reported. -/
  | faults {query : Query} {fault : Fault}
      (asks : program.Asks table query outcome.machine)
      (faulty : query.Faulty outcome.machine.table fault)
      (result : outcome.result = .error (.fault fault))

theorem Accepts.stops (accepts : Accepts text program declared) (reals : table.HoldsReals)
    (covers : table.Covers declared) (bound : Nat) :
    program.Stops table (execute bound program.toTree table) := by
  obtain exhausted | ⟨result, after, ends⟩ := execute_cases bound program table
  · exact .exhausted exhausted
  have runs := runs_of_execute ends
  rw [ends]
  cases result with
  | ok => exact .ends rfl
  | error halt =>
      obtain ⟨query, place, asks, fails, rfl⟩ := Command.runs_error_iff.mp runs
      cases halt with
      | error error => exact .reports asks fails rfl rfl
      | fault fault =>
          obtain ⟨known, reals⟩ := accepts.asks_known reals covers asks
          exact .faults asks ((Query.fails_fault_iff known reals).mp fails) rfl

/-- An accepted program over a table of real numbers ends, or reports a runtime error as its last
output, or meets a fault. It meets one exactly when it comes to ask for something faulty: the
remainder of an infinite dividend, or a layout that no double, no field or no count of places
allows. -/
theorem run_faults_iff_asks_faulty (text : String) (program : Program) (declared : SymbolTable)
    (accepts : Accepts text program declared) (table : SymbolTable) (reals : table.HoldsReals)
    (covers : table.Covers declared) :
    (∀ bound, program.Stops table (execute bound program.toTree table)) ∧
      ∀ fault after, (∃ bound, execute bound program.toTree table =
          .ended (.error (.fault fault)) after) ↔
        ∃ query, program.Asks table query after ∧ query.Faulty after.table fault := by
  refine ⟨accepts.stops reals covers, fun fault after => ?_⟩
  constructor
  · rintro ⟨bound, ends⟩
    obtain ⟨query, place, asks, fails, rfl⟩ := Command.runs_error_iff.mp (runs_of_execute ends)
    obtain ⟨known, reals⟩ := accepts.asks_known reals covers asks
    exact ⟨query, asks, (Query.fails_fault_iff known reals).mp fails⟩
  · rintro ⟨query, asks, faulty⟩
    obtain ⟨known, reals⟩ := accepts.asks_known reals covers asks
    exact execute_of_runs (asks.halts ((Query.fails_fault_iff known reals).mpr faulty))

/-- A program that takes the remainder of an infinite number. -/
def infiniteDividend : Program :=
  ⟨1, some "p", 1, [.assign 1 ⟨⟨"x", 1⟩, .cell "x" "x"⟩ (.binary .modulus ⟨"mod", 1⟩
    (.real ⟨"1e999", 1⟩ Binary64.positiveInfinity) (.integer ⟨"2", 1⟩ 2))]⟩

/-- The names of this program. -/
def infiniteDividendTable : SymbolTable := (SymbolTable.empty.enter "p").enter "x"

theorem accepts_infiniteDividend :
    Accepts "program p; begin x := 1e999 mod 2 end." infiniteDividend infiniteDividendTable where
  result := by cbv
  quiet := by decide +kernel
  table := by cbv

theorem holdsReals_infiniteDividendTable : infiniteDividendTable.HoldsReals :=
  (SymbolTable.HoldsReals.empty.enter "p").enter "x"

theorem infiniteDividend_stops :
    Accepts "program p; begin x := 1e999 mod 2 end." infiniteDividend infiniteDividendTable ∧
      infiniteDividendTable.HoldsReals ∧ infiniteDividendTable.Covers infiniteDividendTable ∧
      ∀ bound, infiniteDividend.Stops infiniteDividendTable
        (execute bound infiniteDividend.toTree infiniteDividendTable) :=
  ⟨accepts_infiniteDividend, holdsReals_infiniteDividendTable, .refl _,
    (run_faults_iff_asks_faulty _ _ _ accepts_infiniteDividend _
      holdsReals_infiniteDividendTable (.refl _)).1⟩

/-- An accepted program ends with a fault, without any report. -/
theorem infiniteDividend_faults :
    Accepts "program p; begin x := 1e999 mod 2 end." infiniteDividend infiniteDividendTable ∧
      ∃ bound, execute bound infiniteDividend.toTree infiniteDividendTable =
        .ended (.error (.fault .remainderDomain)) (.start infiniteDividendTable) := by
  refine ⟨accepts_infiniteDividend, execute_of_runs (.stop (.assignFails ?_))⟩
  refine Mark.number_fault_iff.mpr ((Expression.value_fault_iff ?_).mpr ⟨rfl, ?_⟩)
  · intro source inside
    cases inside
  · exact .here rfl rfl (by decide +kernel) (by decide +kernel) (by decide +kernel)

end MiniPascal
