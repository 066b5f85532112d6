/-
This file moves a parser over its tokens and lets it report.
-/

import MiniPascal.Diagnostic
import MiniPascal.Scanner
import MiniPascal.Syntax

namespace MiniPascal

/-- A stream stands at one token and has the others before it. -/
structure Stream where
  current : Token
  rest : List Token
  ending : Ending

namespace Stream

/-- The stream of a text stands before its first token. -/
def ofText (text : String) : Stream :=
  let scan := (Scanner.ofText text).scan
  ⟨.endOfText 1, scan.tokens, scan.ending⟩

/-- Behind the last token the stream stays at the end of the text, or meets the fault that ends
it. -/
def next (stream : Stream) : Except Fault Stream :=
  match stream.rest with
  | token :: rest => .ok { stream with current := token, rest }
  | [] =>
      match stream.ending with
      | .endOfText line => .ok { stream with current := .endOfText line }
      | .fault fault => .error fault

/-- No more tokens than this can be read before the end of the text. -/
def size (stream : Stream) : Nat := stream.rest.length + 1

end Stream

/-- A parser has the tokens before it, the diagnostics behind it, and the names that are
declared. -/
structure ParseState where
  stream : Stream
  diagnostics : List Diagnostic
  table : SymbolTable

/-- A mistake unwinds to the statement that holds it, a fault to the caller of the parser. -/
inductive Unwinding where
  | mistake (mistake : Mistake)
  | fault (fault : Fault)
deriving DecidableEq, Repr

/-- The text that reports why a parser unwinds. -/
def Unwinding.message : Unwinding → String
  | .mistake found => found.message
  | .fault found => found.message

abbrev Parse (α : Type) := ExceptT Unwinding (StateM ParseState) α

/-- What a parser leaves: its result or the reason why there is none, and its last state. -/
structure Parsed (α : Type) where
  result : Except Unwinding α
  state : ParseState

/-- Every diagnostic counts as one error. -/
def Parsed.errors {α : Type} (parsed : Parsed α) : Nat := parsed.state.diagnostics.length

/-- The diagnostics as they are written. -/
def Parsed.report {α : Type} (parsed : Parsed α) : String :=
  String.join (parsed.state.diagnostics.map Diagnostic.render)

namespace Parse

/-- What a parser leaves behind a given state. -/
def on {α : Type} (parse : Parse α) (state : ParseState) : Parsed α :=
  let (result, state) := parse.run.run state
  ⟨result, state⟩

@[simp] theorem on_pure {α : Type} (value : α) (state : ParseState) :
    (pure value : Parse α).on state = ⟨.ok value, state⟩ := rfl

/-- The second parser starts where the first one stops. -/
theorem on_bind {α β : Type} (first : Parse α) (next : α → Parse β) (state : ParseState) :
    (first >>= next).on state =
      match (first.on state).result with
      | .ok value => (next value).on (first.on state).state
      | .error unwinding => ⟨.error unwinding, (first.on state).state⟩ := by
  simp only [on, bind, ExceptT.bind, ExceptT.mk, ExceptT.run, StateT.bind, StateT.run]
  rcases first state with ⟨⟨unwinding⟩ | ⟨value⟩, after⟩ <;> rfl

@[simp] theorem on_throw {α : Type} (unwinding : Unwinding) (state : ParseState) :
    (throw unwinding : Parse α).on state = ⟨.error unwinding, state⟩ := rfl

@[simp] theorem on_get (state : ParseState) :
    (get : Parse ParseState).on state = ⟨.ok state, state⟩ := rfl

@[simp] theorem on_set (state after : ParseState) :
    (set after : Parse Unit).on state = ⟨.ok (), after⟩ := rfl

@[simp] theorem on_modify (change : ParseState → ParseState) (state : ParseState) :
    (modify change : Parse Unit).on state = ⟨.ok (), change state⟩ := rfl

theorem on_tryCatch {α : Type} (parse : Parse α) (handle : Unwinding → Parse α)
    (state : ParseState) :
    (tryCatch parse handle).on state =
      match (parse.on state).result with
      | .ok value => ⟨.ok value, (parse.on state).state⟩
      | .error unwinding => (handle unwinding).on (parse.on state).state := by
  simp only [on, tryCatch, tryCatchThe, MonadExceptOf.tryCatch, ExceptT.tryCatch, ExceptT.mk,
    ExceptT.run, StateT.bind, StateT.run, bind]
  rcases parse state with ⟨⟨unwinding⟩ | ⟨value⟩, after⟩ <;> rfl

def current : Parse Token := do return (← get).stream.current

@[simp] theorem on_current (state : ParseState) :
    current.on state = ⟨.ok state.stream.current, state⟩ := rfl

/-- The parser goes on to the next token; a fault leaves it where it is. -/
def advance : Parse Unit := do
  let state ← get
  match state.stream.next with
  | .ok stream => set { state with stream }
  | .error fault => throw (.fault fault)

theorem on_advance (state : ParseState) :
    advance.on state =
      match state.stream.next with
      | .ok stream => ⟨.ok (), { state with stream }⟩
      | .error fault => ⟨.error (.fault fault), state⟩ := by
  rw [advance, on_bind]
  cases next : state.stream.next <;> simp [next]

/-- The parser passes the current token when it is of the wanted kind. -/
def accept (wanted : Kind → Bool) : Parse Bool := do
  if wanted (← current).kind then
    advance
    return true
  else return false

theorem on_accept (wanted : Kind → Bool) (state : ParseState) :
    (accept wanted).on state =
      if wanted state.stream.current.kind then
        ⟨(advance.on state).result.map fun _ => true, (advance.on state).state⟩
      else ⟨.ok false, state⟩ := by
  simp only [accept, on_bind, on_current]
  split
  · simp only [on_bind]
    cases (advance.on state).result <;> rfl
  · rfl

def report (complaint : Complaint) : Parse Unit := do
  let token ← current
  modify fun state =>
    { state with diagnostics := state.diagnostics ++ [⟨complaint, token.line, token.text⟩] }

@[simp] theorem on_report (complaint : Complaint) (state : ParseState) :
    (report complaint).on state =
      ⟨.ok (), { state with diagnostics := state.diagnostics ++
        [⟨complaint, state.stream.current.line, state.stream.current.text⟩] }⟩ := rfl

/-- The parser passes at most `count` tokens of the given kinds. -/
def skipWhile (skipped : Kind → Bool) : Nat → Parse Unit
  | 0 => pure ()
  | count + 1 => do
      if (← accept skipped) then skipWhile skipped count

/-- The parser passes all tokens of the given kinds. -/
def skipAll (skipped : Kind → Bool) : Parse Unit := do
  skipWhile skipped (← get).stream.size

/-- A statement ends before one of these. -/
def endsStatement (kind : Kind) : Bool :=
  kind.isSymbol .semicolon || kind.isKeyword .endWord || kind.isKeyword .untilWord ||
    kind.isEndOfText

/-- The parser reports a mistake and passes the rest of the statement. -/
def recover (mistake : Mistake) : Parse Unit := do
  report (.mistake mistake)
  skipAll fun kind => !endsStatement kind

/-- The parser gives the statement up. -/
def fail {α : Type} (mistake : Mistake) : Parse α := do
  recover mistake
  throw (.mistake mistake)

/-- The parser passes a token that the grammar asks for. -/
def require (wanted : Kind → Bool) (mistake : Mistake) : Parse Unit := do
  unless (← accept wanted) do fail mistake

/-- The parser passes a token that a program can do without. -/
def expect (wanted : Kind → Bool) (mistake : Mistake) : Parse Unit := do
  unless (← accept wanted) do recover mistake

/-- The parser passes the current token and keeps its spelling and line. -/
def mark : Parse Mark := do
  let token ← current
  advance
  return ⟨token.text, token.line⟩

/-- The name of the current token is entered into the table. -/
def declare : Parse Variable := do
  let token ← current
  let table := (← get).table
  modify fun state => { state with table := table.enter token.text }
  return ⟨⟨token.text, token.line⟩, (table.entered token.text).binding⟩

/-- The value of a variable is read: a name that the table lacks is reported and has a cell of
its own. -/
def variableRead : Parse Variable := do
  let token ← current
  let binding ←
    match (← get).table.lookup? token.text with
    | some cell => pure cell.binding
    | none => do
        report .undeclared
        pure (.detached token.text)
  advance
  return ⟨⟨token.text, token.line⟩, binding⟩

end Parse

end MiniPascal
