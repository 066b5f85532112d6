/-
This file answers an interactive session, which has one program on each line.
-/

import MiniPascal.Processing
import MiniPascal.Text.Blank
import MiniPascal.Text.Lines

namespace MiniPascal.Interactive

/-- The first lines of a session. -/
def banner : String :=
  "\nInteractive Pascal Mode (type 'quit' to exit)\n" ++
    String.ofList (List.replicate 80 '=') ++ "\n"

/-- The text before every line of input; nothing ends its own line. -/
def prompt : String := "\nEnter program: "

/-- Words that end a session, in any mixture of cases. -/
def farewells : List String := ["quit", "exit", "q"]

/-- What a session shows of a program. -/
structure Options where
  printTree : Bool := false
  printSymbols : Bool := false

/-- A session saves no file. -/
def Options.processing (options : Options) : MiniPascal.Options :=
  { printTree := options.printTree, printSymbols := options.printSymbols }

/-- The answer to a line, and the way in which it ends the session if it does. -/
structure Reply where
  output : String
  ending : Option Status

/-- A line without a program is passed over; a farewell ends the session, and so does a runtime
error. -/
def reply (bound : Nat) (options : Options) (line : String) : Reply :=
  let text := Text.trim line
  if farewells.contains (Text.lower text) then ⟨"Goodbye!\n", some (.finished 0)⟩
  else if text.isEmpty then ⟨"", none⟩
  else
    let report := process bound options.processing .permissive text
    match report.status with
    | .finished _ => ⟨report.output ++ "\n", none⟩
    | status => ⟨report.output, some status⟩

/-- The whole output of a session and its end. -/
structure Transcript where
  output : String
  status : Status

/-- The answers to the lines of a session, each behind the prompt for its line. A last prompt
meets the end of the input. -/
def answers (bound : Nat) (options : Options) : List String → Transcript
  | [] => ⟨prompt, .finished 0⟩
  | line :: lines =>
      let reply := reply bound options line
      match reply.ending with
      | some status => ⟨prompt ++ reply.output, status⟩
      | none =>
          let others := answers bound options lines
          ⟨prompt ++ reply.output ++ others.output, others.status⟩

/-- The session that a text of input lines leads. -/
def session (bound : Nat) (options : Options) (input : String) : Transcript :=
  let transcript := answers bound options ((Text.linesOf input.toList).map String.ofList)
  { transcript with output := banner ++ transcript.output }

end MiniPascal.Interactive
