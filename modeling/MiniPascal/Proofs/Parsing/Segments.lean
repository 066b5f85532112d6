/-
This file runs two parsers side by side in front of the same segment of tokens. What comes behind the
segment may differ behind its first token, and the parsers may know different names.
-/

import MiniPascal.Proofs.Parsing.Bounds
import MiniPascal.Proofs.Parsing.Likeness
import MiniPascal.Proofs.Parsing.Standing

namespace MiniPascal

open Parse

/-- A token inside a segment neither ends a statement nor opens a list of statements. -/
def Kind.isInner (kind : Kind) : Bool :=
  !endsStatement kind && !kind.isKeyword .beginWord && !kind.isKeyword .repeatWord

theorem Kind.endsStatement_of_isInner {kind : Kind} (inner : kind.isInner = true) :
    endsStatement kind = false := by
  simp only [isInner, Bool.and_eq_true, Bool.not_eq_true'] at inner
  exact inner.1.1

def Complaint.isMistake : Complaint → Bool
  | .mistake _ => true
  | .undeclared => false

/-- The syntax errors among the diagnostics. -/
def ParseState.mistakes (state : ParseState) : List Diagnostic :=
  state.diagnostics.filter (·.complaint.isMistake)

/-- What comes behind a segment: a token at which a statement ends, or the end of the text. -/
structure Border where
  ending : Ending
  rest : List Token
  ends : endsStatement (nextKind rest) = true
  clean : rest = [] → ending = .endOfText ending.line

namespace Parse

variable {state : ParseState} {stream : Stream}

/-- A variable is read and passed, and a report of its name is no syntax error. -/
theorem variableRead_passes (next : state.stream.next = .ok stream) :
    ∃ binding after, variableRead.on state =
        ⟨.ok ⟨⟨state.stream.current.text, state.stream.current.line⟩, binding⟩, after⟩ ∧
      after.stream = stream ∧ after.mistakes = state.mistakes := by
  rw [Likeness.on_variableRead]
  cases state.table.lookup? state.stream.current.text with
  | some cell =>
      refine ⟨cell.binding, { state with stream }, ?_, rfl, rfl⟩
      simp only [on_bind, on_advance, next]
      rfl
  | none =>
      let undeclared : Diagnostic :=
        ⟨.undeclared, state.stream.current.line, state.stream.current.text⟩
      refine ⟨.detached state.stream.current.text,
        { state with stream, diagnostics := state.diagnostics ++ [undeclared] }, ?_, rfl, ?_⟩
      · simp only [on_bind, on_report, on_advance, next]
        rfl
      · simp [ParseState.mistakes, Complaint.isMistake, undeclared]

theorem declare_passes (next : state.stream.next = .ok stream) :
    (do
      let target ← declare
      advance
      return target : Parse Variable).on state =
      ⟨.ok ⟨⟨state.stream.current.text, state.stream.current.line⟩,
          (state.table.entered state.stream.current.text).binding⟩,
        { state with stream, table := state.table.enter state.stream.current.text }⟩ := by
  rw [on_bind, show declare.on state = ⟨.ok _, _⟩ from rfl]
  simp only [on_bind, on_advance, next]
  rfl

end Parse

namespace Border

/-- The stream that stands before the tokens in front of the border. -/
def front (border : Border) (tokens : List Token) : Stream :=
  .before border.ending (tokens ++ border.rest)

theorem next (border : Border) (token : Token) (tokens : List Token) :
    (border.front (token :: tokens)).next = .ok (border.front tokens) := by
  refine @Frame.before_next_cons ⟨border.ending, []⟩ .empty token _ fun empty => ?_
  exact border.clean (List.append_eq_nil_iff.mp empty).2

theorem current_ends (border : Border) :
    endsStatement (border.front []).current.kind = true := by
  have kind : (border.front []).current.kind = nextKind border.rest := by
    rw [front, List.nil_append]
    cases border.rest <;> rfl
  rw [kind, border.ends]

/-- A parser that passes the rest of the statement stops at the border. -/
theorem on_skipAll (border : Border) {tokens : List Token}
    (inner : ∀ token ∈ tokens, token.kind.isInner = true) {state : ParseState}
    (stands : state.stream = border.front tokens) :
    (skipAll fun kind => !endsStatement kind).on state =
      ⟨.ok (), { state with stream := border.front [] }⟩ := by
  let frame : Frame := ⟨border.ending, state.diagnostics⟩
  have placed : state = frame.before state.table (tokens ++ border.rest) := by
    rw [Frame.before]
    exact congrArg (ParseState.mk · state.diagnostics state.table) stands
  have dropped : ((tokens ++ border.rest).dropWhile fun token => !endsStatement token.kind) =
      border.rest := by
    rw [List.dropWhile_append_of_pos fun token inside => by
      rw [Kind.endsStatement_of_isInner (inner token inside)]
      rfl]
    cases same : border.rest with
    | nil => rfl
    | cons token rest =>
        have ends := border.ends
        rw [same] at ends
        exact List.dropWhile_cons_of_neg (by simpa [nextKind] using ends)
  have skipped := @skipAll_run frame state.table (fun kind => !endsStatement kind)
    (tokens ++ border.rest) rfl (by rw [dropped]; exact border.clean)
  rw [dropped, ← placed] at skipped
  exact skipped

/-- The state at the border behind a reported mistake. -/
def recovered (border : Border) (mistake : Mistake) (state : ParseState) : ParseState :=
  { state with
    stream := border.front []
    diagnostics := state.diagnostics ++
      [⟨.mistake mistake, state.stream.current.line, state.stream.current.text⟩] }

theorem mistakes_recovered (border : Border) (mistake : Mistake) (state : ParseState) :
    (border.recovered mistake state).mistakes = state.mistakes ++
      [⟨.mistake mistake, state.stream.current.line, state.stream.current.text⟩] := by
  rw [ParseState.mistakes, recovered, List.filter_append]
  rfl

/-- A parser that reports a mistake goes to the border. -/
theorem on_recover (border : Border) {tokens : List Token}
    (inner : ∀ token ∈ tokens, token.kind.isInner = true) {state : ParseState}
    (stands : state.stream = border.front tokens) (mistake : Mistake) :
    (recover mistake).on state = ⟨.ok (), border.recovered mistake state⟩ := by
  rw [recover, on_bind, on_report]
  exact border.on_skipAll inner stands

end Border

/-- Two borders with the same token. -/
structure Borders where
  one : Border
  other : Border
  same : (one.front []).current = (other.front []).current

namespace Borders

variable {borders : Borders} {tokens left : List Token} {state copy middle middleCopy after
  afterCopy : ParseState} {errors more : List Diagnostic}

/-- Two parsers stand before the same tokens in front of the borders. -/
structure Beside (borders : Borders) (tokens : List Token) (state copy : ParseState) : Prop where
  inner : ∀ token ∈ tokens, token.kind.isInner = true
  stands : state.stream = borders.one.front tokens
  standsCopy : copy.stream = borders.other.front tokens

theorem Beside.current (beside : borders.Beside tokens state copy) :
    copy.stream.current = state.stream.current := by
  rw [beside.stands, beside.standsCopy]
  cases tokens with
  | nil => exact borders.same.symm
  | cons token tokens => rfl

/-- Before a token that does not end a statement there is a token left. -/
theorem Beside.exists_cons (beside : borders.Beside tokens state copy)
    (inside : endsStatement state.stream.current.kind = false) :
    ∃ token left, tokens = token :: left ∧ state.stream.current = token := by
  rw [beside.stands] at inside ⊢
  cases tokens with
  | nil => simp [borders.one.current_ends] at inside
  | cons token left => exact ⟨token, left, rfl, rfl⟩

/-- From two states the parsers go on to others, over the same tokens and with the same errors. -/
structure Leaves (borders : Borders) (tokens left : List Token) (errors : List Diagnostic)
    (state copy after afterCopy : ParseState) : Prop where
  suffix : left <:+ tokens
  beside : borders.Beside left after afterCopy
  added : after.mistakes = state.mistakes ++ errors
  addedCopy : afterCopy.mistakes = copy.mistakes ++ errors

theorem Leaves.refl (beside : borders.Beside tokens state copy) :
    borders.Leaves tokens tokens [] state copy state copy :=
  ⟨List.suffix_refl _, beside, (List.append_nil _).symm, (List.append_nil _).symm⟩

theorem Leaves.trans {last : List Token}
    (leaves : borders.Leaves tokens left errors state copy middle middleCopy)
    (others : borders.Leaves left last more middle middleCopy after afterCopy) :
    borders.Leaves tokens last (errors ++ more) state copy after afterCopy where
  suffix := others.suffix.trans leaves.suffix
  beside := others.beside
  added := by rw [others.added, leaves.added, List.append_assoc]
  addedCopy := by rw [others.addedCopy, leaves.addedCopy, List.append_assoc]

/-- Both parsers pass the next token without a syntax error. -/
theorem Leaves.pass {token : Token} (beside : borders.Beside (token :: tokens) state copy)
    (stands : after.stream = borders.one.front tokens)
    (standsCopy : afterCopy.stream = borders.other.front tokens)
    (kept : after.mistakes = state.mistakes) (keptCopy : afterCopy.mistakes = copy.mistakes) :
    borders.Leaves (token :: tokens) tokens [] state copy after afterCopy where
  suffix := List.suffix_cons _ _
  beside := ⟨fun token inside => beside.inner token (List.mem_cons_of_mem _ inside), stands,
    standsCopy⟩
  added := by rw [kept, List.append_nil]
  addedCopy := by rw [keptCopy, List.append_nil]

/-- Both parsers report a mistake and go to the borders. -/
theorem Leaves.atBorder (beside : borders.Beside tokens state copy) (mistake : Mistake) :
    borders.Leaves tokens []
      [⟨.mistake mistake, state.stream.current.line, state.stream.current.text⟩] state copy
      (borders.one.recovered mistake state) (borders.other.recovered mistake copy) where
  suffix := List.nil_suffix
  beside := ⟨nofun, rfl, rfl⟩
  added := borders.one.mistakes_recovered mistake state
  addedCopy := by rw [← beside.current, borders.other.mistakes_recovered]

/-- How two runs end: without a syntax error, with the same one behind which they stand at the
borders, or with a result although there is such an error inside. -/
inductive Outcome {α : Type} (borders : Borders) (swallows : Prop) (same : α → α → Prop)
    (tokens : List Token) (state copy : ParseState) : Parsed α → Parsed α → Prop where
  | quiet {value twin : α} {left : List Token} {after afterCopy : ParseState}
      (leaves : borders.Leaves tokens left [] state copy after afterCopy)
      (related : same value twin) :
      Outcome borders swallows same tokens state copy ⟨.ok value, after⟩ ⟨.ok twin, afterCopy⟩
  | failed {mistake : Mistake} {error : Diagnostic} {after afterCopy : ParseState}
      (leaves : borders.Leaves tokens [] [error] state copy after afterCopy) :
      Outcome borders swallows same tokens state copy ⟨.error (.mistake mistake), after⟩
        ⟨.error (.mistake mistake), afterCopy⟩
  | recovered {value twin : α} {error : Diagnostic} {after afterCopy : ParseState}
      (allowed : swallows) (leaves : borders.Leaves tokens [] [error] state copy after afterCopy)
      (related : same value twin) :
      Outcome borders swallows same tokens state copy ⟨.ok value, after⟩ ⟨.ok twin, afterCopy⟩

theorem Outcome.behind {α : Type} {swallows : Prop} {same : α → α → Prop}
    {found copied : Parsed α}
    (outcome : borders.Outcome swallows same left middle middleCopy found copied)
    (leaves : borders.Leaves tokens left [] state copy middle middleCopy) :
    borders.Outcome swallows same tokens state copy found copied := by
  cases outcome with
  | quiet others related => exact .quiet (leaves.trans others) related
  | failed others => exact .failed (leaves.trans others)
  | recovered allowed others related => exact .recovered allowed (leaves.trans others) related

/-- Two parsers run side by side from two states. -/
def Runs {α : Type} (borders : Borders) (swallows : Prop) (same : α → α → Prop)
    (tokens : List Token) (first second : Parse α) (state copy : ParseState) : Prop :=
  borders.Outcome swallows same tokens state copy (first.on state) (second.on copy)

namespace Runs

variable {α β : Type} {swallows : Prop} {same : α → α → Prop} {sameNext : β → β → Prop}

theorem pure {value twin : α} (beside : borders.Beside tokens state copy)
    (related : same value twin) :
    borders.Runs swallows same tokens (Pure.pure value) (Pure.pure twin) state copy :=
  .quiet (.refl beside) related

/-- Nothing goes on behind a mistake that is not swallowed. -/
theorem bind {first second : Parse α} {next other : α → Parse β}
    (runs : borders.Runs False same tokens first second state copy)
    (goesOn : ∀ value twin left after afterCopy, borders.Beside left after afterCopy →
      same value twin →
        borders.Runs swallows sameNext left (next value) (other twin) after afterCopy) :
    borders.Runs swallows sameNext tokens (first >>= next) (second >>= other) state copy := by
  unfold Runs at runs ⊢
  rw [on_bind, on_bind]
  generalize first.on state = found at runs ⊢
  generalize second.on copy = copied at runs ⊢
  cases runs with
  | quiet leaves related => exact (goesOn _ _ _ _ _ leaves.beside related).behind leaves
  | failed leaves => exact .failed leaves
  | recovered allowed => exact allowed.elim

/-- Behind a swallowed mistake the second parser only gives a result at the border. -/
theorem bindCalm {first second : Parse α} {next other : α → Parse β}
    (runs : borders.Runs True same tokens first second state copy)
    (goesOn : ∀ value twin left after afterCopy, borders.Beside left after afterCopy →
      same value twin →
        borders.Runs True sameNext left (next value) (other twin) after afterCopy)
    (calm : ∀ value twin after afterCopy, borders.Beside [] after afterCopy → same value twin →
      ∃ result copied, (next value).on after = ⟨.ok result, after⟩ ∧
        (other twin).on afterCopy = ⟨.ok copied, afterCopy⟩ ∧ sameNext result copied) :
    borders.Runs True sameNext tokens (first >>= next) (second >>= other) state copy := by
  unfold Runs at runs ⊢
  rw [on_bind, on_bind]
  generalize first.on state = found at runs ⊢
  generalize second.on copy = copied at runs ⊢
  cases runs with
  | quiet leaves related => exact (goesOn _ _ _ _ _ leaves.beside related).behind leaves
  | failed leaves => exact .failed leaves
  | recovered allowed leaves related =>
      obtain ⟨result, copied, one, other, relatedNext⟩ := calm _ _ _ _ leaves.beside related
      simp only [one, other]
      exact .recovered trivial leaves relatedNext

theorem current {next other : Token → Parse β} (beside : borders.Beside tokens state copy)
    (goesOn : borders.Runs swallows sameNext tokens (next state.stream.current)
      (other state.stream.current) state copy) :
    borders.Runs swallows sameNext tokens (Parse.current >>= next) (Parse.current >>= other) state
      copy := by
  unfold Runs at goesOn ⊢
  rw [on_current_bind, on_current_bind, beside.current]
  exact goesOn

theorem advance (beside : borders.Beside tokens state copy)
    (inside : endsStatement state.stream.current.kind = false) :
    borders.Runs swallows Eq tokens Parse.advance Parse.advance state copy := by
  obtain ⟨token, left, rfl, _⟩ := beside.exists_cons inside
  unfold Runs
  rw [on_advance, on_advance, beside.stands, beside.standsCopy, Border.next, Border.next]
  exact .quiet (.pass beside rfl rfl rfl rfl) rfl

theorem mark (beside : borders.Beside tokens state copy)
    (inside : endsStatement state.stream.current.kind = false) :
    borders.Runs False Eq tokens Parse.mark Parse.mark state copy := by
  refine .current beside (.bind (.advance beside inside) ?_)
  intro _ _ left after afterCopy beside _
  exact .pure beside rfl

theorem accept {wanted : Kind → Bool}
    (inside : ∀ kind, wanted kind = true → endsStatement kind = false)
    (beside : borders.Beside tokens state copy) :
    borders.Runs False Eq tokens (Parse.accept wanted) (Parse.accept wanted) state copy := by
  refine .current beside ?_
  split
  case isTrue found =>
    refine .bind (.advance beside (inside _ found)) ?_
    intro _ _ left after afterCopy beside _
    exact .pure beside rfl
  case isFalse => exact .pure beside rfl

theorem fail (beside : borders.Beside tokens state copy) (mistake : Mistake) :
    borders.Runs swallows same tokens (Parse.fail mistake) (Parse.fail mistake) state copy := by
  unfold Runs
  rw [Parse.fail, on_bind, on_bind, borders.one.on_recover beside.inner beside.stands,
    borders.other.on_recover beside.inner beside.standsCopy]
  exact .failed (.atBorder beside mistake)

/-- Both parsers pass a token that the grammar asks for, or give the statement up. -/
theorem require {wanted : Kind → Bool} (mistake : Mistake)
    (inside : ∀ kind, wanted kind = true → endsStatement kind = false)
    (beside : borders.Beside tokens state copy) :
    borders.Runs False Eq tokens (Parse.require wanted mistake) (Parse.require wanted mistake) state
      copy := by
  refine .bind (.accept inside beside) ?_
  rintro found _ left after afterCopy beside rfl
  cases found with
  | true => exact .pure beside rfl
  | false => exact .fail beside mistake

theorem check {wanted : Kind → Bool} {mistake : Mistake} {next other : Unit → Parse β}
    (beside : borders.Beside tokens state copy)
    (goesOn : wanted state.stream.current.kind = true →
      borders.Runs False sameNext tokens (next ()) (other ()) state copy) :
    borders.Runs False sameNext tokens (Parse.check wanted mistake >>= next)
      (Parse.check wanted mistake >>= other) state copy := by
  rw [Parse.check, bind_assoc, bind_assoc]
  refine .current beside ?_
  split
  case isTrue found => exact goesOn found
  case isFalse =>
    have gives : borders.Runs False (fun _ _ : Unit => False) tokens (Parse.fail mistake)
      (Parse.fail mistake) state copy := .fail beside mistake
    exact .bind gives fun _ _ _ _ _ _ impossible => impossible.elim

/-- The name that is read may be known to one parser only. -/
theorem variableRead (beside : borders.Beside tokens state copy)
    (inside : endsStatement state.stream.current.kind = false) :
    borders.Runs False (fun source twin => twin.mark = source.mark) tokens Parse.variableRead
      Parse.variableRead state copy := by
  obtain ⟨token, left, rfl, _⟩ := beside.exists_cons inside
  obtain ⟨binding, after, read, stands, kept⟩ :=
    variableRead_passes (beside.stands ▸ borders.one.next token left)
  obtain ⟨bindingCopy, afterCopy, readCopy, standsCopy, keptCopy⟩ :=
    variableRead_passes (beside.standsCopy ▸ borders.other.next token left)
  unfold Runs
  rw [read, readCopy, beside.current]
  exact .quiet (.pass beside stands standsCopy kept keptCopy) rfl

/-- The target of an assignment is entered and passed. -/
theorem target (beside : borders.Beside tokens state copy)
    (inside : endsStatement state.stream.current.kind = false) :
    borders.Runs False (fun source twin => twin.mark = source.mark) tokens
      (do
        let target ← declare
        Parse.advance
        return target)
      (do
        let target ← declare
        Parse.advance
        return target) state copy := by
  obtain ⟨token, left, rfl, _⟩ := beside.exists_cons inside
  unfold Runs
  rw [declare_passes (beside.stands ▸ borders.one.next token left),
    declare_passes (beside.standsCopy ▸ borders.other.next token left), beside.current]
  exact .quiet (.pass beside rfl rfl rfl rfl) rfl

/-- A dropped mistake is a swallowed one. -/
theorem dropMistake {first second : Parse (Option Statement)}
    {same : Option Statement → Option Statement → Prop} (none : same none none)
    (runs : borders.Runs True same tokens first second state copy) :
    borders.Runs True same tokens (Parse.dropMistake first) (Parse.dropMistake second) state
      copy := by
  unfold Runs at runs ⊢
  rw [Parse.dropMistake, Parse.dropMistake, on_tryCatch, on_tryCatch]
  generalize first.on state = found at runs ⊢
  generalize second.on copy = copied at runs ⊢
  cases runs with
  | quiet leaves related => exact .quiet leaves related
  | failed leaves => exact .recovered trivial leaves none
  | recovered allowed leaves related => exact .recovered allowed leaves related

end Runs

end Borders

end MiniPascal
