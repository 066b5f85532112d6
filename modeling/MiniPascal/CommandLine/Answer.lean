/-
This file answers a command line.
-/

import MiniPascal.CommandLine.Arguments
import MiniPascal.Interactive
import MiniPascal.Text.Utf8

namespace MiniPascal.CommandLine

/-- The lines that name all options. -/
def usage : String :=
  "usage: main.py [-h] [--file FILE | --interactive] [--print-tokens]\n" ++
  "               [--print-ast] [--print-symbols] [--no-execute]\n" ++
  "               [--dump-ast DUMP_AST] [--viz-ast VIZ_AST]\n" ++
  "               [--viz-format VIZ_FORMAT]\n"

/-- The lines that explain all options. -/
def help : String :=
  usage ++
  "\nRun a Pascal program from a file or interactively from stdin\n" ++
  "\noptions:\n" ++
  "  -h, --help            show this help message and exit\n" ++
  "  --file FILE, -f FILE  Path to source file to run\n" ++
  "  --interactive, -i     Start interactive REPL mode\n" ++
  "  --print-tokens        Print tokens\n" ++
  "  --print-ast           Print the AST\n" ++
  "  --print-symbols       Print every variable and its final value after the run\n" ++
  "  --no-execute          Parse (and print/dump) only; do not run the program\n" ++
  "  --dump-ast DUMP_AST   Path to write the AST as JSON\n" ++
  "  --viz-ast VIZ_AST     Path (without extension) to write Graphviz\n" ++
  "                        visualization of the AST\n" ++
  "  --viz-format VIZ_FORMAT\n" ++
  "                        Format for Graphviz output (svg, png, pdf, etc)\n"

/-- The status after a misuse of the command line. -/
def misuseStatus : Nat := 2

/-- The two lines that report a misuse. -/
def misuseText (misuse : Misuse) : String := usage ++ "main.py: error: " ++ misuse.message ++ "\n"

/-- What is to be done for a command line. -/
inductive Request where
  | help
  | misuse (misuse : Misuse)
  | interactive (options : Interactive.Options)
  | file (path : String) (options : Options)

def Settings.interactiveOptions (settings : Settings) : Interactive.Options :=
  ⟨settings.printTree, settings.printSymbols⟩

def Settings.options (settings : Settings) : Options where
  printTokens := settings.printTokens
  printTree := settings.printTree
  dumpPath := settings.dumpPath
  graphPath := settings.graphPath
  printSymbols := settings.printSymbols
  execute := settings.execute

/-- Without a session and without a file to run the options are explained. -/
def requestOf (arguments : List String) : Request :=
  match settingsOf arguments with
  | .error .help => .help
  | .error (.misuse misuse) => .misuse misuse
  | .ok settings =>
      if settings.interactive then .interactive settings.interactiveOptions
      else
        match givenPath settings.file with
        | some path => .file path settings.options
        | none => .help

/-- A program file is text in which every form of line end counts as one. -/
def sourceText (bytes : List Nat) : Except Text.Utf8.Failure String := do
  return String.ofList (Text.unifyLineEnds (← Text.Utf8.decode bytes))

/-- How a command ends: with a status, at a path that is none, or at a file that is not text. -/
inductive Exit where
  | status (status : Status)
  | unusable (refusal : Refusal)
  | undecodable (failure : Text.Utf8.Failure)
deriving DecidableEq, Repr

/-- The answer to a command line. -/
structure Answer where
  output : String
  errors : String
  exit : Exit
  files : List WrittenFile

/-- The answer to a request that only writes text. -/
def Answer.text (output : String) : Answer := ⟨output, "", .status (.finished 0), []⟩

/-- The answer to a file with the given content. -/
def fileAnswer (bound : Nat) (surroundings : Surroundings) (path : String) (options : Options)
    (content : Except Refusal (List Nat)) : Answer :=
  match content with
  | .error .nullCharacter => ⟨"", "", .unusable .nullCharacter, []⟩
  | .error refusal =>
      ⟨"Failed to read file " ++ path ++ ": " ++ refusal.message ++ "\n", "",
        .status (.finished errorStatus), []⟩
  | .ok bytes =>
      match sourceText bytes with
      | .error failure => ⟨"", "", .undecodable failure, []⟩
      | .ok text =>
          let report := process bound options surroundings text
          ⟨report.output, "", .status report.status, report.files⟩

/-- The answer to a request over the files and the input of its surroundings. -/
def answer (bound : Nat) (surroundings : Surroundings)
    (content : String → Except Refusal (List Nat)) (input : String) : Request → Answer
  | .help => .text help
  | .misuse misuse => ⟨"", misuseText misuse, .status (.finished misuseStatus), []⟩
  | .interactive options =>
      let transcript := Interactive.session bound options input
      ⟨transcript.output, "", .status transcript.status, []⟩
  | .file path options => fileAnswer bound surroundings path options (content path)

end MiniPascal.CommandLine
