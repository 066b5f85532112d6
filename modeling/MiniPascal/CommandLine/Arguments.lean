/-
This file reads the arguments of the command line.
-/

import MiniPascal.Text.Digit
import MiniPascal.Text.Quoted

namespace MiniPascal.CommandLine

/-- An option of the command line. -/
inductive Switch where
  | help
  | file
  | interactive
  | printTokens
  | printTree
  | printSymbols
  | noExecute
  | dump
  | graph
  | graphFormat
deriving DecidableEq, Repr

/-- The spellings of an option. -/
def Switch.spellings : Switch → List String
  | .help => ["-h", "--help"]
  | .file => ["--file", "-f"]
  | .interactive => ["--interactive", "-i"]
  | .printTokens => ["--print-tokens"]
  | .printTree => ["--print-ast"]
  | .printSymbols => ["--print-symbols"]
  | .noExecute => ["--no-execute"]
  | .dump => ["--dump-ast"]
  | .graph => ["--viz-ast"]
  | .graphFormat => ["--viz-format"]

def Switch.all : List Switch :=
  [.help, .file, .interactive, .printTokens, .printTree, .printSymbols, .noExecute, .dump,
    .graph, .graphFormat]

/-- An option that names a file or a format has an argument of its own. -/
def Switch.takesArgument : Switch → Bool
  | .file | .dump | .graph | .graphFormat => true
  | _ => false

/-- The options beside which an option cannot stand. -/
def Switch.excludes : Switch → List Switch
  | .file => [.interactive]
  | .interactive => [.file]
  | _ => []

/-- The name of an option in a message. -/
def Switch.title (switch : Switch) : String := "/".intercalate switch.spellings

/-- Every spelling with its option. -/
def catalogue : List (String × Switch) :=
  Switch.all.flatMap fun switch => switch.spellings.map fun spelling => (spelling, switch)

/-- The option with exactly this spelling. -/
def spelled? (spelling : String) : Option Switch := catalogue.lookup spelling

/-- A misuse of the command line. -/
inductive Misuse where
  | ambiguous (argument : String) (candidates : List String)
  | missingArgument (switch : Switch)
  | ignoredArgument (switch : Switch) (argument : String)
  | excluded (switch other : Switch)
  | unrecognized (arguments : List String)
deriving DecidableEq, Repr

def Misuse.message : Misuse → String
  | .ambiguous argument candidates =>
      "ambiguous option: " ++ argument ++ " could match " ++ ", ".intercalate candidates
  | .missingArgument switch => "argument " ++ switch.title ++ ": expected one argument"
  | .ignoredArgument switch argument =>
      "argument " ++ switch.title ++ ": ignored explicit argument " ++ Text.quoted argument
  | .excluded switch other =>
      "argument " ++ switch.title ++ ": not allowed with argument " ++ other.title
  | .unrecognized arguments => "unrecognized arguments: " ++ " ".intercalate arguments

/-- What one argument is, seen on its own. A value stands behind the equals sign of a long option;
letters stand behind a short option, directly or after an equals sign. -/
inductive Reading where
  | plain
  /-- Everything behind a divider is plain. -/
  | divider
  | unknown
  | option (switch : Switch)
  | withValue (switch : Switch) (value : String)
  | withLetters (switch : Switch) (letters : List Char)
deriving DecidableEq, Repr

/-- An argument up to its first equals sign, and what stands behind the sign. -/
def splitAtEquals (argument : String) : String × Option String :=
  let characters := argument.toList
  let before := String.ofList (characters.takeWhile (· ≠ '='))
  match characters.dropWhile (· ≠ '=') with
  | [] => (before, none)
  | _ :: value => (before, some (String.ofList value))

/-- A long option with what stands behind its equals sign. -/
def readingOf (switch : Switch) : Option String → Reading
  | none => .option switch
  | some value => .withValue switch value

/-- The digits of a negative number may have a point with digits behind it; one line end may
follow. -/
def isNegativeNumber (argument : String) : Bool :=
  let isDigit (character : Char) := (Text.digitValue? character).isSome
  let characters :=
    match argument.toList.reverse with
    | '\n' :: rest => rest.reverse
    | _ => argument.toList
  match characters with
  | '-' :: digits =>
      match digits.dropWhile isDigit with
      | [] => !digits.isEmpty
      | '.' :: fraction => !fraction.isEmpty && fraction.all isDigit
      | _ => false
  | _ => false

/-- An argument that is no option is plain when it may be a number or a phrase. -/
def readUnlisted (argument : String) : Reading :=
  if isNegativeNumber argument || argument.toList.contains ' ' then .plain else .unknown

/-- A long option may be cut short as long as it is the only one with that start. -/
def readLong (argument : String) : Except Misuse Reading :=
  let (start, value) := splitAtEquals argument
  match catalogue.filter fun entry => entry.1.startsWith start with
  | [] => .ok (readUnlisted argument)
  | [(_, switch)] => .ok (readingOf switch value)
  | candidates => .error (.ambiguous argument (candidates.map (·.1)))

/-- Letters may follow a short option. -/
def readShort (argument : String) : Reading :=
  match spelled? (String.ofList (argument.toList.take 2)) with
  | some switch => .withLetters switch (argument.toList.drop 2)
  | none => readUnlisted argument

/-- The reading of one argument. -/
def read (argument : String) : Except Misuse Reading :=
  match argument.toList with
  | '-' :: second :: _ =>
      if argument = "--" then .ok .divider
      else
        match spelled? argument with
        | some switch => .ok (.option switch)
        | none =>
            match splitAtEquals argument with
            | (start, some value) =>
                match spelled? start with
                | some switch =>
                    if second = '-' then .ok (.withValue switch value)
                    else .ok (.withLetters switch value.toList)
                | none => if second = '-' then readLong argument else .ok (readShort argument)
            | (_, none) =>
                if second = '-' then readLong argument else .ok (readShort argument)
  | _ => .ok .plain

/-- The readings of all arguments. -/
def readAll : List String → Except Misuse (List (String × Reading))
  | [] => .ok []
  | argument :: arguments => do
      match ← read argument with
      | .divider => return (argument, .divider) :: arguments.map fun other => (other, .plain)
      | reading => return (argument, reading) :: (← readAll arguments)

/-- The options that one argument holds with their values. The last of them may wait for the next
argument. -/
structure Cluster where
  taken : List (Switch × String)
  waiting : Option Switch
deriving DecidableEq, Repr

/-- An option that stands alone. -/
def Cluster.alone (switch : Switch) : Cluster :=
  if switch.takesArgument then ⟨[], some switch⟩ else ⟨[(switch, "")], none⟩

/-- A divider in the place of a value gives an empty one. -/
def valueOf (text : String) : String := if text = "--" then "" else text

/-- An option with a value must take it. -/
def Cluster.ofValue (switch : Switch) (value : String) : Except Misuse Cluster :=
  if switch.takesArgument then .ok ⟨[(switch, valueOf value)], none⟩
  else .error (.ignoredArgument switch value)

def Cluster.cons (switch : Switch) (cluster : Cluster) : Cluster :=
  { cluster with taken := (switch, "") :: cluster.taken }

/-- The letters behind a short option are its argument, or each of them is a short option. -/
def Cluster.ofLetters (switch : Switch) : List Char → Except Misuse Cluster
  | [] => ofValue switch ""
  | letter :: letters =>
      let value := String.ofList (letter :: letters)
      if switch.takesArgument then ofValue switch value
      else
        match spelled? (String.ofList ['-', letter]) with
        | none => .error (.ignoredArgument switch value)
        | some next =>
            if letters.isEmpty then .ok ((alone next).cons switch)
            else (ofLetters next letters).map (cons switch)

/-- What the command line asks for. -/
structure Settings where
  seen : List Switch := []
  file : Option String := none
  interactive : Bool := false
  printTokens : Bool := false
  printTree : Bool := false
  printSymbols : Bool := false
  execute : Bool := true
  dumpPath : Option String := none
  graphPath : Option String := none
deriving DecidableEq, Repr

/-- Reading the arguments ends early at a request for help and at a misuse. -/
inductive Halt where
  | help
  | misuse (misuse : Misuse)
deriving DecidableEq, Repr

/-- An option takes effect unless it is excluded by an earlier one. -/
def Settings.apply (settings : Settings) (switch : Switch) (value : String) :
    Except Halt Settings :=
  let settings := { settings with seen := switch :: settings.seen }
  match switch.excludes.find? settings.seen.contains with
  | some other => .error (.misuse (.excluded switch other))
  | none =>
      match switch with
      | .help => .error .help
      | .file => .ok { settings with file := some value }
      | .interactive => .ok { settings with interactive := true }
      | .printTokens => .ok { settings with printTokens := true }
      | .printTree => .ok { settings with printTree := true }
      | .printSymbols => .ok { settings with printSymbols := true }
      | .noExecute => .ok { settings with execute := false }
      | .dump => .ok { settings with dumpPath := some value }
      | .graph => .ok { settings with graphPath := some value }
      | .graphFormat => .ok settings

def Settings.applyAll (settings : Settings) :
    List (Switch × String) → Except Halt Settings
  | [] => .ok settings
  | (switch, value) :: others => do (← settings.apply switch value).applyAll others

/-- The cluster of an argument; a plain one has none. -/
def clusterOf : Reading → Except Misuse (Option Cluster)
  | .plain | .divider | .unknown => .ok none
  | .option switch => .ok (some (Cluster.alone switch))
  | .withValue switch value => (Cluster.ofValue switch value).map some
  | .withLetters switch letters => (Cluster.ofLetters switch letters).map some

/-- Options before the last one of a cluster, which waits for its argument. -/
structure Waiting where
  taken : List (Switch × String)
  switch : Switch
deriving DecidableEq, Repr

/-- The arguments take effect in order, an option that waits not before its own argument. Those
that are not understood are kept. -/
def interpret (settings : Settings) (unrecognized : List String) :
    Option Waiting → List (String × Reading) → Except Halt (Settings × List String)
  | none, [] => .ok (settings, unrecognized)
  | none, (argument, reading) :: others => do
      match ← (clusterOf reading).mapError .misuse with
      | none => interpret settings (unrecognized ++ [argument]) none others
      | some cluster =>
          match cluster.waiting with
          | none => interpret (← settings.applyAll cluster.taken) unrecognized none others
          | some switch => interpret settings unrecognized (some ⟨cluster.taken, switch⟩) others
  | some waiting, (value, .plain) :: others => do
      let settings ← settings.applyAll (waiting.taken ++ [(waiting.switch, value)])
      interpret settings unrecognized none others
  | some waiting, _ => .error (.misuse (.missingArgument waiting.switch))

/-- The settings that the arguments make together. Every argument is read before any of them
takes effect. -/
def settingsOf (arguments : List String) : Except Halt Settings := do
  let readings ← (readAll arguments).mapError .misuse
  let (settings, unrecognized) ← interpret {} [] none readings
  if unrecognized.isEmpty then return settings
  else throw (.misuse (.unrecognized unrecognized))

end MiniPascal.CommandLine
