/-
This file processes a program text: it parses the text, shows the stages that are asked for, and
runs the program.
-/

import MiniPascal.Execution
import MiniPascal.Files
import MiniPascal.Graph
import MiniPascal.JsonView
import MiniPascal.Lowering
import MiniPascal.Outline
import MiniPascal.Parse.Program

namespace MiniPascal

/-- What is shown of a program, and whether it is run. -/
structure Options where
  printTokens : Bool := false
  printTree : Bool := false
  dumpPath : Option String := none
  graphPath : Option String := none
  printSymbols : Bool := false
  execute : Bool := true

/-- What a passage of the output is about. -/
inductive Topic where
  | tokens
  | diagnostics
  | tree
  | dump
  | drawing
  | summary
  | run
  | symbols
  | fault
deriving DecidableEq, Repr

/-- A passage that only shows something is written when it is asked for. -/
def Topic.isView : Topic → Bool
  | .tokens | .tree | .dump | .drawing | .symbols => true
  | _ => false

structure Passage where
  topic : Topic
  text : String
deriving DecidableEq, Repr

/-- The text of passages, one behind the other. -/
def textOf (passages : List Passage) : String := String.join (passages.map Passage.text)

/-- The output and the files so far. -/
structure Desk where
  passages : List Passage
  files : List WrittenFile

/-- Processing ends early where the parser or the run does, and at a path that is none. -/
inductive Interruption where
  | parse (unwinding : Unwinding)
  | run (stop : Stop)
  | file (refusal : Refusal)
deriving DecidableEq, Repr

abbrev Work (α : Type) := ExceptT Interruption (StateM Desk) α

/-- How processing ends: with a status, with a runtime error, or not within the bound. -/
inductive Status where
  | finished (code : Nat)
  | runtimeError
  | exhausted
deriving DecidableEq, Repr

/-- The status of a program with errors. -/
def errorStatus : Nat := 1

/-- The status after a runtime error. -/
def runtimeErrorStatus : Nat := 3

/-- The status that the caller of a program sees. -/
def Status.code : Status → Nat
  | .finished code => code
  | .runtimeError => runtimeErrorStatus
  | .exhausted => errorStatus

namespace Work

/-- What work leaves behind a given desk. -/
def on {α : Type} (work : Work α) (desk : Desk) : Except Interruption α × Desk :=
  work.run.run desk

@[simp] theorem on_pure {α : Type} (value : α) (desk : Desk) :
    (pure value : Work α).on desk = (.ok value, desk) := rfl

/-- The second piece of work starts on the desk that the first one leaves. -/
theorem on_bind {α β : Type} (first : Work α) (next : α → Work β) (desk : Desk) :
    (first >>= next).on desk =
      match first.on desk with
      | (.ok value, after) => (next value).on after
      | (.error interruption, after) => (.error interruption, after) := by
  simp only [on, bind, ExceptT.bind, ExceptT.mk, ExceptT.run, StateT.bind, StateT.run]
  rcases first desk with ⟨⟨interruption⟩ | ⟨value⟩, after⟩ <;> rfl

@[simp] theorem on_throw {α : Type} (interruption : Interruption) (desk : Desk) :
    (throw interruption : Work α).on desk = (.error interruption, desk) := rfl

def write (topic : Topic) (text : String) : Work Unit :=
  modify fun desk => { desk with passages := desk.passages ++ [⟨topic, text⟩] }

@[simp] theorem on_write (topic : Topic) (text : String) (desk : Desk) :
    (write topic text).on desk =
      (.ok (), { desk with passages := desk.passages ++ [⟨topic, text⟩] }) := rfl

def writeLine (topic : Topic) (text : String) : Work Unit := write topic (text ++ "\n")

def save (file : WrittenFile) : Work Unit :=
  modify fun desk => { desk with files := desk.files ++ [file] }

@[simp] theorem on_save (file : WrittenFile) (desk : Desk) :
    (save file).on desk = (.ok (), { desk with files := desk.files ++ [file] }) := rfl

/-- The file is saved unless the surroundings refuse it. -/
def trySave (surroundings : Surroundings) (file : WrittenFile) : Work (Option Refusal) := do
  match surroundings.refusal? (← get).files file.purpose file.path with
  | some refusal => return some refusal
  | none =>
      save file
      return none

def ofExcept {α : Type} : Except Fault α → Work α
  | .ok result => pure result
  | .error fault => throw (.run (.fault fault))

end Work

/-- So many tokens of a text are listed. -/
def listedTokens : Nat := 50

/-- A token is listed behind its number. -/
def tokenLine (index : Nat) (token : Token) : String :=
  "  " ++ Text.padLeft 3 (toString index) ++ ": " ++ token.description

/-- The lines that list tokens. -/
def tokenListing (tokens : List Token) : List String :=
  ["Tokens (" ++ toString tokens.length ++ "):"] ++
    (tokens.take listedTokens).mapIdx tokenLine ++
    if listedTokens < tokens.length then
      ["  ... and " ++ toString (tokens.length - listedTokens) ++ " more"]
    else []

def listTokens (text : String) : Work Unit := do
  (tokenListing (← Work.ofExcept (tokenize text))).forM (Work.writeLine .tokens)

/-- The program of a text over a fresh table. The diagnostics are written even when the parser
does not come to an end. -/
def parseText (text : String) : Work (Program × Parsed Program) := do
  let parsed := parseProgram text .empty
  Work.write .diagnostics parsed.report
  match parsed.result with
  | .ok program => return (program, parsed)
  | .error unwinding => throw (.parse unwinding)

def showTree (tree : Tree) : Work Unit := do
  Work.writeLine .tree "\nAST:"
  Work.writeLine .tree (tree.outline 0 "")

/-- The structured view of a tree goes into a file. -/
def dumpTree (surroundings : Surroundings) (tree : Tree) (path : String) : Work Unit := do
  match ← Work.trySave surroundings ⟨.dump, path, tree.toJson.dump⟩ with
  | none => Work.writeLine .dump ("Wrote AST JSON to " ++ path)
  | some .nullCharacter => throw (.file .nullCharacter)
  | some refusal =>
      Work.writeLine .dump ("Failed to write AST JSON to " ++ path ++ ": " ++ refusal.message)

/-- Without a program that renders graphs the drawing is left as text. -/
def rendererMissing : String :=
  "failed to execute PosixPath('dot'), make sure the Graphviz executables are on your systems' PATH"

/-- The drawing of a tree goes into a file. -/
def drawTree (surroundings : Surroundings) (tree : Tree) (path : String) : Work Unit := do
  let refusal ← Work.trySave surroundings ⟨.drawing, path, tree.toGraph none⟩
  let reason := (refusal.map Refusal.message).getD rendererMissing
  Work.writeLine .drawing ("Failed to render AST visualization to " ++ path ++ ": " ++ reason)

/-- The count of errors is written in words. -/
def errorSummary (errors : Nat) : String :=
  "\n" ++ toString errors ++ " syntax " ++ (if errors = 1 then "error" else "errors") ++ "."

/-- The program is run, and its output is written even when it stops early. -/
def runProgram (bound : Nat) (tree : Tree) (table : SymbolTable) : Work SymbolTable := do
  let outcome := execute bound tree table
  Work.write .run outcome.machine.output
  match outcome.result with
  | .ok _ => return outcome.machine.table
  | .error stop => throw (.run stop)

/-- A variable is listed with its value to six places. -/
def symbolLine (cell : Cell) : Except Fault String := do
  return "  " ++ Text.padRight 16 cell.name ++ " " ++ (← Layout.number cell.value 0 6)

def listSymbols (table : SymbolTable) : Work Unit := do
  Work.writeLine .symbols "\nSymbols:"
  table.cells.forM fun cell => do Work.writeLine .symbols (← Work.ofExcept (symbolLine cell))

/-- A path that is empty counts as none. -/
def givenPath (path : Option String) : Option String := path.filter (!·.isEmpty)

/-- The stages of processing. A program with errors is shown but not run. -/
def processStages (bound : Nat) (options : Options) (surroundings : Surroundings)
    (text : String) : Work Nat := do
  if options.printTokens then listTokens text
  let (program, parsed) ← parseText text
  let tree := program.toTree
  if options.printTree then showTree tree
  (givenPath options.dumpPath).forM (dumpTree surroundings tree)
  (givenPath options.graphPath).forM (drawTree surroundings tree)
  if 0 < parsed.errors then
    Work.writeLine .summary (errorSummary parsed.errors)
    return errorStatus
  let table ←
    if options.execute then runProgram bound tree parsed.state.table
    else pure parsed.state.table
  if options.printSymbols then listSymbols table
  return 0

/-- What processing leaves. -/
structure Report where
  status : Status
  passages : List Passage
  files : List WrittenFile

def Report.output (report : Report) : String := textOf report.passages

/-- The line that reports what ends processing without a diagnostic. -/
def unexpectedLine (message : String) : Passage :=
  ⟨.fault, "Unexpected error: " ++ message ++ "\n"⟩

/-- The end of processing that an interruption makes, and the line that reports it. -/
def Interruption.ending : Interruption → Status × List Passage
  | .parse unwinding => (.finished errorStatus, [unexpectedLine unwinding.message])
  | .file refusal => (.finished errorStatus, [unexpectedLine refusal.message])
  | .run (.fault fault) => (.finished errorStatus, [unexpectedLine fault.message])
  | .run (.error _) => (.runtimeError, [])
  | .run .exhausted => (.exhausted, [])

/-- A program text is processed; whatever interrupts it is reported. -/
def process (bound : Nat) (options : Options) (surroundings : Surroundings) (text : String) :
    Report :=
  let (result, desk) := (processStages bound options surroundings text).on ⟨[], []⟩
  match result with
  | .ok code => ⟨.finished code, desk.passages, desk.files⟩
  | .error interruption =>
      let (status, passages) := interruption.ending
      ⟨status, desk.passages ++ passages, desk.files⟩

end MiniPascal
