/-
This file is the program: it reads files and input, and writes what the answers hold.
-/

import MiniPascal.CommandLine.Answer

namespace MiniPascal.Terminal

open CommandLine

/-- No loop of a program makes more passes than this. -/
def loopBound : Nat := 2 ^ 62

def obstacleOf : IO.Error → Obstacle
  | .permissionDenied _ _ _ => .denied
  | .alreadyExists _ _ _ => .exists
  | .inappropriateType _ code _ => if code = 20 then .notDirectory else .isDirectory
  | .invalidArgument _ code _ => if code = 36 then .nameTooLong else .notFound
  | _ => .notFound

def readBytes (path : String) : IO (Except Refusal (List Nat)) := do
  try
    let bytes ← IO.FS.readBinFile path
    return .ok (bytes.toList.map UInt8.toNat)
  catch error => return .error (.blocked (obstacleOf error) path)

/-- The directory part of a path. -/
def directoryOf (path : String) : String :=
  String.ofList (path.toList.reverse.dropWhile (· ≠ '/')).reverse

/-- A file is written, behind the directories that its purpose needs. -/
def writeFile (file : WrittenFile) : IO (Option (Purpose × Refusal)) := do
  try
    if file.purpose = .drawing && !(directoryOf file.path).isEmpty then
      IO.FS.createDirAll (directoryOf file.path)
    IO.FS.writeFile file.path file.content
    return none
  catch error => return some (file.purpose, .blocked (obstacleOf error) file.path)

/-- The surroundings in which files for the given purposes are refused. -/
def refusing (refusals : List (Purpose × Refusal)) : Surroundings :=
  ⟨fun _ purpose _ => refusals.lookup purpose⟩

def present (answer : Answer) : IO UInt32 := do
  IO.print answer.output
  (← IO.getStdout).flush
  IO.eprint answer.errors
  match answer.exit with
  | .status status => return UInt32.ofNat status.code
  | .unusable refusal =>
      IO.eprintln refusal.message
      return UInt32.ofNat errorStatus
  | .undecodable failure =>
      IO.eprintln failure.message
      return UInt32.ofNat errorStatus

/-- The answer is made again when some of its files cannot be written. -/
def runFile (path : String) (options : Options) : IO UInt32 := do
  let content ← readBytes path
  let first := fileAnswer loopBound (refusing []) path options content
  let refusals ← first.files.filterMapM writeFile
  if refusals.isEmpty then present first
  else present (fileAnswer loopBound (refusing refusals) path options content)

/-- The input is answered line by line. -/
partial def runLines (options : Interactive.Options) : IO UInt32 := do
  IO.print Interactive.prompt
  (← IO.getStdout).flush
  let line ← (← IO.getStdin).getLine
  if line.isEmpty then return 0
  let reply := Interactive.reply loopBound options line
  IO.print reply.output
  match reply.ending with
  | some status => return UInt32.ofNat status.code
  | none => runLines options

def run (arguments : List String) : IO UInt32 := do
  match requestOf arguments with
  | .interactive options =>
      IO.print Interactive.banner
      runLines options
  | .file path options => runFile path options
  | .help => present (.text help)
  | .misuse misuse =>
      present ⟨"", misuseText misuse, .status (.finished misuseStatus), []⟩

end MiniPascal.Terminal

def main (arguments : List String) : IO UInt32 := MiniPascal.Terminal.run arguments
