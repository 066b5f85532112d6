/-
This file says when two readings of a program are alike: their tokens have the same kinds, and their
spellings, lines, tables and bindings may differ in a way that the rules of a likeness allow.
-/

import MiniPascal.Lowering
import MiniPascal.Parse.Program
import Mathlib.Data.List.Forall2

namespace MiniPascal

/-- What alike readings may differ in. Alike names that are entered into alike tables, or looked up in
them, have alike bindings. -/
structure Likeness where
  spelling : Kind → String → String → Prop
  line : Nat → Nat → Prop
  table : SymbolTable → SymbolTable → Prop
  binding : Binding → Binding → Prop
  endOfText : spelling .endOfText "" ""
  firstLine : line 1 1
  enter {name other : String} {names others : SymbolTable} :
    spelling .identifier name other → table names others →
      table (names.enter name) (others.enter other)
  entered {name other : String} {names others : SymbolTable} :
    spelling .identifier name other → table names others →
      binding (names.entered name).binding (others.entered other).binding
  lookup? {name other : String} {names others : SymbolTable} :
    spelling .identifier name other → table names others →
      Option.Rel (fun cell copy => binding cell.binding copy.binding) (names.lookup? name)
        (others.lookup? other)
  detached {name other : String} :
    spelling .identifier name other → binding (.detached name) (.detached other)

namespace Likeness

variable (alike : Likeness)

/-- The texts of alike tokens of some kind. -/
def Texts (text other : String) : Prop := ∃ kind, alike.spelling kind text other

structure Tokens (token other : Token) : Prop where
  kind : other.kind = token.kind
  spelling : alike.spelling token.kind token.text other.text
  line : alike.line token.line other.line

/-- Alike tokens end alike: with the end of the text, or with the same fault. -/
inductive Endings : Ending → Ending → Prop where
  | endOfText {line other : Nat} (lines : alike.line line other) :
      Endings (.endOfText line) (.endOfText other)
  | fault (fault : Fault) : Endings (.fault fault) (.fault fault)

structure Streams (stream other : Stream) : Prop where
  current : alike.Tokens stream.current other.current
  rest : List.Forall₂ alike.Tokens stream.rest other.rest
  ending : alike.Endings stream.ending other.ending

structure Diagnostics (diagnostic other : Diagnostic) : Prop where
  complaint : other.complaint = diagnostic.complaint
  text : alike.Texts diagnostic.text other.text

structure States (state other : ParseState) : Prop where
  stream : alike.Streams state.stream other.stream
  diagnostics : List.Forall₂ alike.Diagnostics state.diagnostics other.diagnostics
  table : alike.table state.table other.table

structure Marks (mark other : Mark) : Prop where
  text : alike.Texts mark.text other.text
  line : alike.line mark.line other.line

structure Variables (source other : Variable) : Prop where
  mark : alike.Marks source.mark other.mark
  binding : alike.binding source.binding other.binding

/-- Alike nodes have the same kind and value. -/
structure Labels (label other : Label) : Prop where
  kind : other.kind = label.kind
  line : alike.line label.line other.line
  text : Option.Rel alike.Texts label.text other.text
  value : other.value = label.value
  binding : Option.Rel alike.binding label.binding other.binding

/-- Alike trees have the same shape and alike nodes. -/
inductive Trees : Tree → Tree → Prop where
  | node {label other : Label} {children others : List Tree} (labels : alike.Labels label other)
      (parts : List.Forall₂ Trees children others) :
      Trees (.node label children) (.node other others)

/-- Both readings find something alike, or both unwind for the same reason. -/
inductive Results {α β : Type} (related : α → β → Prop) :
    Except Unwinding α → Except Unwinding β → Prop where
  | ok {value : α} {other : β} (found : related value other) : Results related (.ok value) (.ok other)
  | error (unwinding : Unwinding) : Results related (.error unwinding) (.error unwinding)

structure Outcomes {α β : Type} (related : α → β → Prop) (parsed : Parsed α) (other : Parsed β) :
    Prop where
  result : Results related parsed.result other.result
  state : alike.States parsed.state other.state

/-- Two parsers go alike from alike states at a token of the given kind. The kind matters to those that
enter or look up the text of their token: texts are alike as names at an identifier only. -/
def ReadsAt {α β : Type} (kind : Kind) (related : α → β → Prop) (first : Parse α)
    (second : Parse β) : Prop :=
  ∀ state other, alike.States state other → state.stream.current.kind = kind →
    alike.Outcomes related (first.on state) (second.on other)

/-- Two parsers go alike from all alike states. -/
def Reads {α β : Type} (related : α → β → Prop) (first : Parse α) (second : Parse β) : Prop :=
  ∀ kind, alike.ReadsAt kind related first second

variable {alike : Likeness} {α β γ δ : Type} {kind : Kind}

/-- Related members have the same image, or both are absent. -/
theorem map_eq_of_rel {related : α → β → Prop} {change : α → γ} {changeCopy : β → γ}
    {member : Option α} {copy : Option β} (rel : Option.Rel related member copy)
    (same : ∀ found other, related found other → changeCopy other = change found) :
    copy.map changeCopy = member.map change := by
  cases rel with
  | none => rfl
  | some found => exact congrArg some (same _ _ found)

theorem eq_of_rel {related : α → α → Prop} {member copy : Option α}
    (rel : Option.Rel related member copy)
    (same : ∀ found other, related found other → other = found) : copy = member := by
  rw [← Option.map_id_apply (x := copy), ← Option.map_id_apply (x := member)]
  exact map_eq_of_rel rel same

/-- What passes from alike children to alike nodes holds of all alike trees. -/
@[elab_as_elim] theorem Trees.inductionOn {motive : Tree → Tree → Prop} {tree other : Tree}
    (trees : alike.Trees tree other)
    (node : ∀ label copy children others, alike.Labels label copy →
      List.Forall₂ motive children others → motive (.node label children) (.node copy others)) :
    motive tree other := by
  induction tree using Tree.inductionOn generalizing other with
  | node label children inductionHypothesis =>
      cases trees with
      | node labels parts =>
          refine node label _ children _ labels ?_
          clear labels
          induction parts with
          | nil => exact .nil
          | cons part _ inner =>
              obtain ⟨first, rest⟩ := List.forall_mem_cons.mp inductionHypothesis
              exact .cons (first part) (inner rest)

section Rules

variable {related : α → β → Prop} {first : Parse α} {second : Parse β}

theorem ReadsAt.pure {value : α} {other : β} (found : related value other) :
    alike.ReadsAt kind related (pure value) (pure other) :=
  fun _ _ states _ => ⟨.ok found, states⟩

theorem ReadsAt.throw (unwinding : Unwinding) :
    alike.ReadsAt kind related (throw unwinding) (throw unwinding) :=
  fun _ _ states _ => ⟨.error unwinding, states⟩

/-- The second parsers start where the first ones stop. -/
theorem ReadsAt.bind {goal : γ → δ → Prop} {next : α → Parse γ} {copy : β → Parse δ}
    (reads : alike.ReadsAt kind related first second)
    (goesOn : ∀ value other, related value other → alike.Reads goal (next value) (copy other)) :
    alike.ReadsAt kind goal (first >>= next) (second >>= copy) := by
  intro state other states same
  rw [Parse.on_bind, Parse.on_bind]
  obtain ⟨results, after⟩ := reads state other states same
  -- Both outcomes become variables, so that the results can be told apart together.
  generalize first.on state = parsed at results after
  generalize second.on other = parsedCopy at results after
  obtain ⟨result, parsed⟩ := parsed
  obtain ⟨resultCopy, parsedCopy⟩ := parsedCopy
  cases results with
  | ok found => exact goesOn _ _ found _ _ _ after rfl
  | error unwinding => exact ⟨.error unwinding, after⟩

theorem Reads.bind {goal : γ → δ → Prop} {next : α → Parse γ} {copy : β → Parse δ}
    (reads : alike.Reads related first second)
    (goesOn : ∀ value other, related value other → alike.Reads goal (next value) (copy other)) :
    alike.Reads goal (first >>= next) (second >>= copy) :=
  fun kind => (reads kind).bind goesOn

theorem Reads.pure {value : α} {other : β} (found : related value other) :
    alike.Reads related (Pure.pure value) (Pure.pure other) := fun _ => .pure found

/-- A parser that looks at its token goes on from a token of that kind. -/
theorem Reads.byCurrent {next : Token → Parse α} {copy : Token → Parse β}
    (goesOn : ∀ token other, alike.Tokens token other →
      alike.ReadsAt token.kind related (next token) (copy other)) :
    alike.Reads related (Parse.current >>= next) (Parse.current >>= copy) :=
  fun _ state other states _ =>
    goesOn _ _ states.stream.current state other states rfl

end Rules

section Primitives

open Parse

theorem Streams.next {stream other : Stream} (streams : alike.Streams stream other) :
    (∃ fault, stream.next = .error fault ∧ other.next = .error fault) ∨
      ∃ after copy, stream.next = .ok after ∧ other.next = .ok copy ∧ alike.Streams after copy := by
  obtain ⟨current, rest, ending⟩ := stream
  obtain ⟨currentCopy, restCopy, endingCopy⟩ := other
  obtain ⟨_, others, endings⟩ := streams
  cases others with
  | cons token others => exact .inr ⟨_, _, rfl, rfl, token, others, endings⟩
  | nil =>
      cases endings with
      | fault fault => exact .inl ⟨fault, rfl, rfl⟩
      | endOfText lines =>
          exact .inr ⟨_, _, rfl, rfl, ⟨rfl, alike.endOfText, lines⟩, .nil, .endOfText lines⟩

theorem Streams.size {stream other : Stream} (streams : alike.Streams stream other) :
    other.size = stream.size := by
  rw [Stream.size, Stream.size, streams.rest.length_eq]

theorem Reads.advance : alike.Reads Eq advance advance := by
  intro _ state other states _
  rw [on_advance, on_advance]
  obtain ⟨fault, step, stepCopy⟩ | ⟨_, _, step, stepCopy, streams⟩ := states.stream.next
  · rw [step, stepCopy]
    exact ⟨.error _, states⟩
  · rw [step, stepCopy]
    exact ⟨.ok rfl, streams, states.diagnostics, states.table⟩

theorem Reads.size : alike.Reads Eq size size :=
  fun _ _ _ states _ => ⟨.ok states.stream.size.symm, states⟩

theorem Reads.report (complaint : Complaint) :
    alike.Reads Eq (report complaint) (report complaint) :=
  fun _ _ _ states _ => ⟨.ok rfl, states.stream,
    List.rel_append states.diagnostics (.cons ⟨rfl, _, states.stream.current.spelling⟩ .nil), states.table⟩

theorem Reads.accept (wanted : Kind → Bool) : alike.Reads Eq (accept wanted) (accept wanted) := by
  refine .byCurrent fun token other tokens => ?_
  rw [tokens.kind]
  split
  · exact (Reads.advance _).bind fun _ _ _ => .pure rfl
  · exact .pure rfl

theorem Reads.skipWhile (skipped : Kind → Bool) (count : Nat) :
    alike.Reads Eq (skipWhile skipped count) (skipWhile skipped count) := by
  induction count with
  | zero => exact .pure rfl
  | succ count inductionHypothesis =>
      refine (Reads.accept skipped).bind fun found _ same => ?_
      subst same
      cases found with
      | true => exact inductionHypothesis
      | false => exact .pure rfl

theorem Reads.skipAll (skipped : Kind → Bool) : alike.Reads Eq (skipAll skipped) (skipAll skipped) :=
  Reads.size.bind fun count _ same => same ▸ Reads.skipWhile skipped count

theorem Reads.recover (mistake : Mistake) : alike.Reads Eq (recover mistake) (recover mistake) :=
  (Reads.report _).bind fun _ _ _ => .skipAll _

theorem Reads.fail {related : α → β → Prop} (mistake : Mistake) :
    alike.Reads related (fail mistake) (fail mistake) :=
  (Reads.recover mistake).bind fun _ _ _ _ => .throw _

theorem Reads.expect (wanted : Kind → Bool) (mistake : Mistake) :
    alike.Reads Eq (expect wanted mistake) (expect wanted mistake) := by
  refine (Reads.accept wanted).bind fun found _ same => ?_
  subst same
  cases found with
  | true => exact .pure rfl
  | false => exact .recover mistake

theorem Reads.require (wanted : Kind → Bool) (mistake : Mistake) :
    alike.Reads Eq (require wanted mistake) (require wanted mistake) := by
  refine (Reads.accept wanted).bind fun found _ same => ?_
  subst same
  cases found with
  | true => exact .pure rfl
  | false => exact .fail mistake

theorem Reads.check (wanted : Kind → Bool) (mistake : Mistake) :
    alike.Reads Eq (check wanted mistake) (check wanted mistake) := by
  refine .byCurrent fun token other tokens => ?_
  rw [tokens.kind]
  split
  · exact .pure rfl
  · exact Reads.fail mistake _

theorem Reads.mark : alike.Reads alike.Marks mark mark :=
  .byCurrent fun _ _ tokens => (Reads.advance _).bind fun _ _ _ => .pure ⟨⟨_, tokens.spelling⟩, tokens.line⟩

theorem ReadsAt.declare : alike.ReadsAt .identifier alike.Variables declare declare := by
  intro state other states same
  have token := states.stream.current
  have spelling := token.spelling
  rw [same] at spelling
  exact ⟨.ok ⟨⟨⟨_, spelling⟩, token.line⟩, alike.entered spelling states.table⟩, states.stream, states.diagnostics,
    alike.enter spelling states.table⟩

/-- The token is passed when its name has been looked up. -/
theorem on_variableRead (state : ParseState) :
    variableRead.on state =
      match state.table.lookup? state.stream.current.text with
      | some cell =>
          (do
            advance
            return ⟨⟨state.stream.current.text, state.stream.current.line⟩, cell.binding⟩ :
              Parse Variable).on state
      | none =>
          (do
            report .undeclared
            advance
            return ⟨⟨state.stream.current.text, state.stream.current.line⟩,
              .detached state.stream.current.text⟩ : Parse Variable).on state := by
  rw [variableRead, on_bind, on_current]
  dsimp only
  rw [on_bind, on_bind, on_get]
  dsimp only
  cases state.table.lookup? state.stream.current.text with
  | some cell => rfl
  | none => rfl

theorem ReadsAt.variableRead :
    alike.ReadsAt .identifier alike.Variables variableRead variableRead := by
  intro state other states same
  have token := states.stream.current
  have spelling := token.spelling
  rw [same] at spelling
  have looked := alike.lookup? spelling states.table
  rw [on_variableRead, on_variableRead]
  generalize state.table.lookup? state.stream.current.text = found at looked
  generalize other.table.lookup? other.stream.current.text = foundCopy at looked
  cases looked with
  | some binding =>
      refine (Reads.advance _).bind (fun _ _ _ => .pure ?_) state other states rfl
      exact ⟨⟨⟨_, spelling⟩, token.line⟩, binding⟩
  | none =>
      refine (Reads.report _ _).bind (fun _ _ _ => Reads.advance.bind fun _ _ _ => .pure ?_) state
        other states rfl
      exact ⟨⟨⟨_, spelling⟩, token.line⟩, alike.detached spelling⟩

end Primitives

end Likeness

end MiniPascal
