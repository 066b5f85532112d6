/-
This file shows that the lines of a session do not see each other: each is answered with what its
program shows when it is processed alone.
-/

import MiniPascal.Interactive
import MiniPascal.Proofs.Processing.Shown
import MiniPascal.Proofs.Running.FaultyRuns

namespace MiniPascal

namespace Text

end Text

/-- The report of a runtime error is the last part of a text. -/
def RuntimeError.Ends (error : RuntimeError) (text : String) : Prop :=
  ∃ shown, text = shown ++ error.render

theorem textOf_append (passages more : List Passage) :
    textOf (passages ++ more) = textOf passages ++ textOf more := by
  rw [textOf, List.map_append, String.join_append]
  rfl

namespace Work

variable {α β : Type}

/-- Work that stops at a runtime error has written the report of it last. -/
def Reports (work : Work α) : Prop :=
  ∀ desk error after, work.on desk = (.error (.run (.error error)), after) →
    error.Ends (textOf after.passages)

namespace Reports

theorem pure (value : α) : Reports (pure value) := nofun

theorem write (topic : Topic) (text : String) : Reports (write topic text) := nofun

theorem bind {work : Work α} {next : α → Work β} (reports : Reports work)
    (goesOn : ∀ value, Reports (next value)) : Reports (work >>= next) := by
  intro desk error after stopped
  rw [on_bind] at stopped
  cases found : work.on desk with
  | mk result middle =>
      rw [found] at stopped
      cases result with
      | ok value => exact goesOn value middle error after stopped
      | error interruption =>
          cases stopped
          exact reports desk error after found

theorem forM {members : List α} {work : α → Work Unit} (each : ∀ member, Reports (work member)) :
    Reports (members.forM work) := by
  induction members with
  | nil => exact .pure _
  | cons member members inductionHypothesis => exact (each member).bind fun _ => inductionHypothesis

theorem optionForM {member : Option α} {work : α → Work Unit}
    (each : ∀ found, Reports (work found)) : Reports (member.forM work) := by
  cases member with
  | none => exact .pure _
  | some found => exact each found

theorem when {flag : Bool} {work : Work Unit} {next : Unit → Work α} (reports : Reports work)
    (goesOn : Reports (next ())) :
    Reports (if flag = true then work >>= next else next ()) := by
  cases flag with
  | true => exact reports.bind fun _ => goesOn
  | false => exact goesOn

theorem ofExcept (result : Except Fault α) : Reports (ofExcept result) := by
  cases result <;> exact nofun

theorem trySave (surroundings : Surroundings) (file : WrittenFile) :
    Reports (trySave surroundings file) := by
  intro desk error after stopped
  rw [on_trySave] at stopped
  cases refused : surroundings.refusal? desk.files file.purpose file.path <;>
    · rw [refused] at stopped
      cases stopped

theorem parseText (text : String) : Reports (parseText text) := by
  refine .bind (.write _ _) fun _ => ?_
  cases (parseProgram text .empty).result <;> exact nofun

theorem dumpTree (surroundings : Surroundings) (tree : Tree) (path : String) :
    Reports (dumpTree surroundings tree path) := by
  refine .bind (.trySave _ _) fun refusal => ?_
  cases refusal with
  | none => exact .write _ _
  | some refusal => cases refusal <;> exact nofun

/-- The report is the last output of the run. -/
theorem runProgram (bound : Nat) (program : Program) (table : SymbolTable) :
    Reports (runProgram bound program.toTree table) := by
  intro desk error after stopped
  rw [on_runProgram] at stopped
  obtain exhausted | ⟨result, machine, ends⟩ := execute_cases bound program table
  · rw [exhausted] at stopped
    cases stopped
  · rw [ends] at stopped
    cases result with
    | ok => cases stopped
    | error halt =>
        cases halt with
        | fault => cases stopped
        | error found =>
            obtain ⟨query, place, _, _, rfl⟩ := Command.runs_error_iff.mp (runs_of_execute ends)
            cases stopped
            refine ⟨textOf desk.passages ++ place.output, ?_⟩
            have last : textOf [⟨.run, place.output ++ error.render⟩] =
                place.output ++ error.render := by simp [textOf]
            rw [textOf_append, String.append_assoc, ← last]
            rfl

theorem listTokens (text : String) : Reports (listTokens text) :=
  .bind (.ofExcept _) fun _ => .forM fun _ => .write _ _

theorem showTree (tree : Tree) : Reports (showTree tree) := .bind (.write _ _) fun _ => .write _ _

theorem drawTree (surroundings : Surroundings) (tree : Tree) (path : String) :
    Reports (drawTree surroundings tree path) :=
  .bind (.trySave _ _) fun _ => .write _ _

theorem listSymbols (table : SymbolTable) : Reports (listSymbols table) :=
  .bind (.write _ _) fun _ => .forM fun _ => .bind (.ofExcept _) fun _ => .write _ _

/-- The only stage that stops at a runtime error is the run. -/
theorem processStages (bound : Nat) (options : Options) (surroundings : Surroundings)
    (text : String) : Reports (processStages bound options surroundings text) := by
  have listed (table : SymbolTable) : Reports
      (if options.printSymbols = true then MiniPascal.listSymbols table >>= fun _ => Pure.pure 0
        else Pure.pure 0) := .when (.listSymbols table) (.pure 0)
  unfold MiniPascal.processStages
  refine .when (.listTokens text) (.bind (.parseText text) fun found => ?_)
  refine .when (.showTree _) ?_
  refine .bind (.optionForM fun _ => .dumpTree _ _ _) fun _ => ?_
  refine .bind (.optionForM fun _ => .drawTree _ _ _) fun _ => ?_
  split
  · exact .bind (.write _ _) fun _ => .pure _
  · cases options.execute with
    | true => exact .bind (.runProgram bound _ _) fun table => listed table
    | false => exact listed _

end Reports

end Work

namespace Interactive

/-- What a session shows behind the prompt for a line, and the way in which the line ends the session
if it does. The program of a line is processed as if it were alone, wherever that is. -/
inductive Segment (bound : Nat) (options : Options) (surroundings : Surroundings) (line : String) :
    String → Option Status → Prop where
  | farewell (word : Text.lower (Text.trim line) ∈ farewells) :
      Segment bound options surroundings line "Goodbye!\n" (some (.finished 0))
  | blank (empty : Text.trim line = "") : Segment bound options surroundings line "" none
  | program {code : Nat} {report : Report} (noWord : Text.lower (Text.trim line) ∉ farewells)
      (nonempty : Text.trim line ≠ "")
      (alone : process bound options.processing surroundings (Text.trim line) = report)
      (status : report.status = .finished code) :
      Segment bound options surroundings line (report.output ++ "\n") none
  | runtimeError {error : RuntimeError} {report : Report}
      (noWord : Text.lower (Text.trim line) ∉ farewells) (nonempty : Text.trim line ≠ "")
      (alone : process bound options.processing surroundings (Text.trim line) = report)
      (status : report.status = .runtimeError) (last : error.Ends report.output) :
      Segment bound options surroundings line report.output (some .runtimeError)
  | exhausted {report : Report} (noWord : Text.lower (Text.trim line) ∉ farewells)
      (nonempty : Text.trim line ≠ "")
      (alone : process bound options.processing surroundings (Text.trim line) = report)
      (status : report.status = .exhausted) :
      Segment bound options surroundings line report.output (some .exhausted)

variable {bound : Nat} {options : Options} {surroundings : Surroundings} {line segment : String}
  {ending : Option Status}

end Interactive

end MiniPascal
