/-
This file says how a parser of the grammar goes from one state to another, past all mistakes, and what
it finds on the way. Every rule looks at the current token, as the parser does.
-/

import MiniPascal.Parse.Program
import MiniPascal.Proofs.Parsing.Reading
import MiniPascal.Proofs.Parsing.Steps

namespace MiniPascal

namespace ParseState

/-- A token that a program can do without is passed, or is reported when it is missing. -/
inductive Expects (wanted : Kind → Bool) (state : ParseState) : ParseState → Prop where
  | present {stream : Stream} (found : wanted state.stream.current.kind = true)
      (next : state.stream.next = .ok stream) : Expects wanted state { state with stream }
  | absent {after : ParseState} (recovers : state.Recovers after) : Expects wanted state after

/-- A token that is not passed stands at the parser, or is reported when it is missing. -/
inductive Meets (wanted : Kind → Bool) (state : ParseState) : ParseState → Prop where
  | present (found : wanted state.stream.current.kind = true) : Meets wanted state state
  | absent {after : ParseState} (recovers : state.Recovers after) : Meets wanted state after

/-- The first word of a compound statement is passed where it stands. -/
inductive Opens (state : ParseState) : ParseState → Prop where
  | present {stream : Stream} (found : state.stream.current.kind = .keyword .beginWord)
      (next : state.stream.next = .ok stream) : Opens state { state with stream }
  | absent (missed : state.stream.current.kind ≠ .keyword .beginWord) : Opens state state

/-- Semicolons are passed behind a statement, and one that is missing between two is reported. -/
inductive Separates (state : ParseState) : ParseState → Prop where
  | semicolons {after : ParseState} (found : state.stream.current.kind = .symbol .semicolon)
      (skips : state.Skips (·.isSymbol .semicolon) after) : Separates state after
  | missing {after : ParseState}
      (starts : Parse.startsStatement state.stream.current.kind = true)
      (recovers : state.Recovers after) : Separates state after
  | none (missed : state.stream.current.kind ≠ .symbol .semicolon)
      (noStart : Parse.startsStatement state.stream.current.kind = false) : Separates state state

end ParseState

open ParseState

/-- A variable is read at the current token; a name that the table lacks is reported. -/
inductive VariableTrace (state : ParseState) : Variable → ParseState → Prop where
  | known {cell : Cell} {stream : Stream}
      (found : state.table.lookup? state.stream.current.text = some cell)
      (next : state.stream.next = .ok stream) :
      VariableTrace state ⟨state.stream.current.mark, cell.binding⟩ { state with stream }
  | unknown {stream : Stream} (missing : state.table.lookup? state.stream.current.text = none)
      (next : state.stream.next = .ok stream) :
      VariableTrace state ⟨state.stream.current.mark, .detached state.stream.current.text⟩
        ⟨stream, state.diagnostics ++
          [⟨.undeclared, state.stream.current.line, state.stream.current.text⟩], state.table⟩

/-- The parser of a level finds an expression between two states. Chains go on as far as they can. -/
inductive ExpressionTrace : Level → ParseState → Expression → ParseState → Prop where
  | reference {state after : ParseState} {source : Variable}
      (kind : state.stream.current.kind = .identifier) (read : VariableTrace state source after) :
      ExpressionTrace .factor state (.reference source) after
  | integer {state : ParseState} {stream : Stream} {number : Nat}
      (kind : state.stream.current.kind = .integer number) (next : state.stream.next = .ok stream) :
      ExpressionTrace .factor state (.integer state.stream.current.mark number)
        { state with stream }
  | real {state : ParseState} {stream : Stream} {number : Float}
      (kind : state.stream.current.kind = .real number) (next : state.stream.next = .ok stream) :
      ExpressionTrace .factor state (.real state.stream.current.mark number) { state with stream }
  | group {state middle : ParseState} {stream last : Stream} {found : Expression}
      (opens : state.stream.current.kind = .symbol .leftParenthesis)
      (next : state.stream.next = .ok stream)
      (inside : ExpressionTrace .whole { state with stream } found middle)
      (closes : middle.stream.current.kind = .symbol .rightParenthesis)
      (behind : middle.stream.next = .ok last) :
      ExpressionTrace .factor state found { middle with stream := last }
  | negation {state after : ParseState} {stream : Stream} {operand : Expression}
      (kind : state.stream.current.kind = .keyword .notWord) (next : state.stream.next = .ok stream)
      (inside : ExpressionTrace .whole { state with stream } operand after) :
      ExpressionTrace .factor state (.unary .negation state.stream.current.mark operand) after
  | chainEnd {rank : Rank} {left : Expression} {state : ParseState}
      (stops : rank.operator? state.stream.current.kind = none) :
      ExpressionTrace (.chain rank left) state left state
  | chainNext {rank : Rank} {operator : BinaryOperator} {left right found : Expression}
      {state middle after : ParseState} {stream : Stream}
      (goesOn : rank.operator? state.stream.current.kind = some operator)
      (next : state.stream.next = .ok stream)
      (operand : ExpressionTrace rank.operand { state with stream } right middle)
      (others : ExpressionTrace
        (.chain rank (.binary operator state.stream.current.mark left right)) middle found after) :
      ExpressionTrace (.chain rank left) state found after
  | term {first found : Expression} {state middle after : ParseState}
      (factor : ExpressionTrace .factor state first middle)
      (others : ExpressionTrace (.chain .multiplying first) middle found after) :
      ExpressionTrace .term state found after
  | unsigned {first found : Expression} {state middle after : ParseState}
      (noSign : Parse.sign? state.stream.current.kind = none)
      (term : ExpressionTrace .term state first middle)
      (others : ExpressionTrace (.chain .adding first) middle found after) :
      ExpressionTrace .simple state found after
  | signed {operator : UnaryOperator} {operand found : Expression}
      {state middle after : ParseState} {stream : Stream}
      (kind : Parse.sign? state.stream.current.kind = some operator)
      (next : state.stream.next = .ok stream)
      (term : ExpressionTrace .term { state with stream } operand middle)
      (others : ExpressionTrace
        (.chain .adding (.unary operator state.stream.current.mark operand)) middle found after) :
      ExpressionTrace .simple state found after
  | alone {found : Expression} {state after : ParseState}
      (simple : ExpressionTrace .simple state found after)
      (stops : Parse.relational? after.stream.current.kind = none) :
      ExpressionTrace .whole state found after
  | compared {operator : BinaryOperator} {left right : Expression}
      {state middle after : ParseState} {stream : Stream}
      (first : ExpressionTrace .simple state left middle)
      (kind : Parse.relational? middle.stream.current.kind = some operator)
      (next : middle.stream.next = .ok stream)
      (second : ExpressionTrace .simple { middle with stream } right after) :
      ExpressionTrace .whole state (.binary operator middle.stream.current.mark left right) after

/-- What is written is a variable or a string. -/
inductive ItemTrace (state : ParseState) : Item → ParseState → Prop where
  | reference {source : Variable} {after : ParseState}
      (kind : state.stream.current.kind = .identifier) (read : VariableTrace state source after) :
      ItemTrace state (.reference source) after
  | string {stream : Stream} {content : String}
      (kind : state.stream.current.kind = .string content)
      (next : state.stream.next = .ok stream) :
      ItemTrace state (.string state.stream.current.mark content) { state with stream }
  | character {stream : Stream} {content : Char}
      (kind : state.stream.current.kind = .character content)
      (next : state.stream.next = .ok stream) :
      ItemTrace state (.string state.stream.current.mark (String.singleton content))
        { state with stream }

inductive WidthTrace (state : ParseState) : Width → ParseState → Prop where
  | integer {stream : Stream} {number : Nat} (kind : state.stream.current.kind = .integer number)
      (next : state.stream.next = .ok stream) :
      WidthTrace state ⟨state.stream.current.mark, number⟩ { state with stream }

/-- A colon stands before a width, another one before a count of places. -/
inductive FormatTrace (state : ParseState) : Format → ParseState → Prop where
  | plain (stops : state.stream.current.kind.isSymbol .colon = false) :
      FormatTrace state .plain state
  | field {stream : Stream} {width : Width} {after : ParseState}
      (colon : state.stream.current.kind = .symbol .colon) (next : state.stream.next = .ok stream)
      (widthTrace : WidthTrace { state with stream } width after)
      (stops : after.stream.current.kind.isSymbol .colon = false) :
      FormatTrace state (.field width) after
  | fixed {stream second : Stream} {width places : Width} {middle after : ParseState}
      (colon : state.stream.current.kind = .symbol .colon) (next : state.stream.next = .ok stream)
      (widthTrace : WidthTrace { state with stream } width middle)
      (secondColon : middle.stream.current.kind = .symbol .colon)
      (secondNext : middle.stream.next = .ok second)
      (placesTrace : WidthTrace { middle with stream := second } places after) :
      FormatTrace state (.fixed width places) after

/-- The argument of a writing statement, from its opening parenthesis to behind its closing one. -/
inductive ArgumentTrace (state : ParseState) : Argument → ParseState → Prop where
  | argument {stream last : Stream} {item : Item} {format : Format} {middle behind : ParseState}
      (next : state.stream.next = .ok stream)
      (itemTrace : ItemTrace { state with stream } item middle)
      (formatTrace : FormatTrace middle format behind)
      (closes : behind.stream.current.kind = .symbol .rightParenthesis)
      (closeNext : behind.stream.next = .ok last) :
      ArgumentTrace state ⟨item, format⟩ { behind with stream := last }

/-- The parser of a construct finds statements between two states. A statement with a mistake is
dropped where it ends. -/
inductive StatementTrace : Construct → ParseState → List Statement → ParseState → Prop where
  | assign {state after : ParseState} {stream behind : Stream} {value : Expression}
      (kind : state.stream.current.kind = .identifier) (next : state.stream.next = .ok stream)
      (sign : stream.current.kind = .symbol .colonEquals) (signNext : stream.next = .ok behind)
      (valueTrace : ExpressionTrace .whole
        ⟨behind, state.diagnostics, state.table.enter state.stream.current.text⟩ value after) :
      StatementTrace .statement state
        [.assign state.stream.current.line ⟨state.stream.current.mark,
          (state.table.entered state.stream.current.text).binding⟩ value] after
  | compound {state last after : ParseState} {stream : Stream} {body : List Statement}
      (opens : state.stream.current.kind = .keyword .beginWord)
      (next : state.stream.next = .ok stream)
      (bodyTrace : StatementTrace (.list .endWord) { state with stream } body last)
      (closing : last.Expects (·.isKeyword .endWord) after) :
      StatementTrace .statement state [.compound state.stream.current.line body] after
  | repeatUntil {state middle after : ParseState} {stream behind : Stream}
      {body : List Statement} {condition : Expression}
      (opens : state.stream.current.kind = .keyword .repeatWord)
      (next : state.stream.next = .ok stream)
      (bodyTrace : StatementTrace (.list .untilWord) { state with stream } body middle)
      (testKind : middle.stream.current.kind = .keyword .untilWord)
      (testNext : middle.stream.next = .ok behind)
      (conditionTrace : ExpressionTrace .whole { middle with stream := behind } condition after) :
      StatementTrace .statement state
        [.repeatUntil state.stream.current.line body middle.stream.current.mark condition] after
  | whileDo {state middle last after : ParseState} {stream doStream bodyStream : Stream}
      {condition : Expression} {body : List Statement}
      (opens : state.stream.current.kind = .keyword .whileWord)
      (next : state.stream.next = .ok stream)
      (conditionTrace : ExpressionTrace .whole { state with stream } condition middle)
      (doKind : middle.stream.current.kind = .keyword .doWord)
      (doNext : middle.stream.next = .ok doStream)
      (begins : doStream.current.kind = .keyword .beginWord)
      (beginNext : doStream.next = .ok bodyStream)
      (bodyTrace : StatementTrace (.list .endWord) { middle with stream := bodyStream } body last)
      (closing : last.Expects (·.isKeyword .endWord) after) :
      StatementTrace .statement state
        [.whileDo state.stream.current.line ⟨state.stream.current.text, stream.current.line⟩
          condition doStream.current.line body] after
  | ifThen {state middle after : ParseState} {stream thenStream : Stream} {condition : Expression}
      {branch : Statement} (opens : state.stream.current.kind = .keyword .ifWord)
      (next : state.stream.next = .ok stream)
      (conditionTrace : ExpressionTrace .whole { state with stream } condition middle)
      (thenKind : middle.stream.current.kind = .keyword .thenWord)
      (thenNext : middle.stream.next = .ok thenStream)
      (branchTrace : StatementTrace .branch { middle with stream := thenStream } [branch] after)
      (noElse : after.stream.current.kind.isKeyword .elseWord = false) :
      StatementTrace .statement state
        [.ifThen state.stream.current.line ⟨state.stream.current.text, stream.current.line⟩
          condition branch] after
  | ifElse {state middle between after : ParseState} {stream thenStream elseStream : Stream}
      {condition : Expression} {branch otherwise : Statement}
      (opens : state.stream.current.kind = .keyword .ifWord)
      (next : state.stream.next = .ok stream)
      (conditionTrace : ExpressionTrace .whole { state with stream } condition middle)
      (thenKind : middle.stream.current.kind = .keyword .thenWord)
      (thenNext : middle.stream.next = .ok thenStream)
      (branchTrace : StatementTrace .branch { middle with stream := thenStream } [branch] between)
      (elseKind : between.stream.current.kind = .keyword .elseWord)
      (elseNext : between.stream.next = .ok elseStream)
      (otherwiseTrace : StatementTrace .branch { between with stream := elseStream } [otherwise]
        after) :
      StatementTrace .statement state
        [.ifElse state.stream.current.line ⟨state.stream.current.text, stream.current.line⟩
          condition branch otherwise] after
  | write {state after : ParseState} {stream : Stream} {argument : Argument}
      (opens : state.stream.current.kind = .keyword .writeWord)
      (next : state.stream.next = .ok stream)
      (begins : stream.current.kind = .symbol .leftParenthesis)
      (argumentTrace : ArgumentTrace { state with stream } argument after) :
      StatementTrace .statement state [.write state.stream.current.line argument] after
  | writeln {state after : ParseState} {stream : Stream} {argument : Argument}
      (opens : state.stream.current.kind = .keyword .writelnWord)
      (next : state.stream.next = .ok stream)
      (begins : stream.current.kind = .symbol .leftParenthesis)
      (argumentTrace : ArgumentTrace { state with stream } argument after) :
      StatementTrace .statement state [.writeln state.stream.current.line (some argument)] after
  | writelnPlain {state : ParseState} {stream : Stream}
      (opens : state.stream.current.kind = .keyword .writelnWord)
      (next : state.stream.next = .ok stream)
      (stops : stream.current.kind.isSymbol .leftParenthesis = false) :
      StatementTrace .statement state [.writeln state.stream.current.line none] { state with stream }
  | gap {state : ParseState} (kind : state.stream.current.kind = .symbol .semicolon) :
      StatementTrace .statement state [] state
  | dropped {state after : ParseState} (recovers : state.Recovers after) :
      StatementTrace .statement state [] after
  | branch {state after : ParseState} {found : Statement}
      (trace : StatementTrace .statement state [found] after) :
      StatementTrace .branch state [found] after
  | emptyBranch {state after : ParseState} (trace : StatementTrace .statement state [] after) :
      StatementTrace .branch state [.empty state.stream.current.line] after
  | listEnd {terminal : Keyword} {state : ParseState}
      (ends : Parse.endsList (·.isKeyword terminal) state.stream.current.kind = true) :
      StatementTrace (.list terminal) state [] state
  | listNext {terminal : Keyword} {state middle between after : ParseState}
      {first others : List Statement}
      (firstTrace : StatementTrace .statement state first middle)
      (gap : middle.Separates between)
      (othersTrace : StatementTrace (.list terminal) between others after) :
      StatementTrace (.list terminal) state (first ++ others) after

/-- The body of a program or of a compound statement with its line, up to the word that closes it. -/
structure BodyTrace (state : ParseState) (line : Nat) (body : List Statement) (after : ParseState) :
    Prop where
  line : line = state.stream.current.line
  parts : ∃ entered last, state.Opens entered ∧ StatementTrace (.list .endWord) entered body last ∧
    last.Expects (·.isKeyword .endWord) after

/-- The name of a program is entered into the table, or is reported when it is missing. -/
inductive NameTrace (state : ParseState) : Option String → ParseState → Prop where
  | named {stream : Stream} (kind : state.stream.current.kind = .identifier)
      (next : state.stream.next = .ok stream) :
      NameTrace state (some state.stream.current.text)
        ⟨stream, state.diagnostics, state.table.enter state.stream.current.text⟩
  | missing {after : ParseState} (recovers : state.Recovers after) : NameTrace state none after

/-- A program is found from its first token on. The parser stops before the token behind its last
word. -/
inductive ProgramTrace (state : ParseState) : Program → ParseState → Prop where
  | program {opened named headed begun closed after : ParseState} {name : Option String}
      {line : Nat} {body : List Statement}
      (opening : state.Expects (·.isKeyword .programWord) opened)
      (nameTrace : NameTrace opened name named)
      (semicolon : named.Expects (·.isSymbol .semicolon) headed)
      (beginning : headed.Meets (·.isKeyword .beginWord) begun)
      (bodyTrace : BodyTrace begun line body closed)
      (period : closed.Meets (·.isSymbol .period) after) :
      ProgramTrace state ⟨state.stream.current.line, name, line, body⟩ after

section Steps

variable {state after : ParseState} {stream : Stream}

theorem ParseState.Expects.steps {wanted : Kind → Bool} (expects : state.Expects wanted after) :
    Steps state after := by
  cases expects with
  | present _ next => exact .pass next
  | absent recovers => exact recovers.steps

theorem ParseState.Meets.steps {wanted : Kind → Bool} (meets : state.Meets wanted after) :
    Steps state after := by
  cases meets with
  | present => exact .refl
  | absent recovers => exact recovers.steps

theorem ParseState.Opens.steps (opens : state.Opens after) : Steps state after := by
  cases opens with
  | present _ next => exact .pass next
  | absent => exact .refl

theorem ParseState.Separates.steps (separates : state.Separates after) : Steps state after := by
  cases separates with
  | semicolons _ skips => exact skips.steps
  | missing _ recovers => exact recovers.steps
  | none => exact .refl

theorem VariableTrace.steps {source : Variable} (trace : VariableTrace state source after) :
    Steps state after := by
  cases trace with
  | known _ next => exact .pass next
  | unknown _ next => exact .head (.report state .undeclared) (.single (.pass next))

theorem ExpressionTrace.steps {level : Level} {found : Expression}
    (trace : ExpressionTrace level state found after) : Steps state after := by
  induction trace with
  | reference _ read => exact read.steps
  | integer _ next | real _ next => exact .pass next
  | group _ next _ _ behind inside => exact ((Steps.pass next).trans inside).tail (.pass behind)
  | negation _ next _ inside => exact (Steps.pass next).trans inside
  | chainEnd => exact .refl
  | chainNext _ next _ _ operand others => exact ((Steps.pass next).trans operand).trans others
  | term _ _ factor others => exact factor.trans others
  | unsigned _ _ _ term others => exact term.trans others
  | signed _ next _ _ term others => exact ((Steps.pass next).trans term).trans others
  | alone _ _ simple => exact simple
  | compared _ _ next _ first second => exact (first.tail (.pass next)).trans second

theorem ItemTrace.steps {item : Item} (trace : ItemTrace state item after) : Steps state after := by
  cases trace with
  | reference _ read => exact read.steps
  | string _ next | character _ next => exact .pass next

theorem WidthTrace.steps {width : Width} (trace : WidthTrace state width after) :
    Steps state after := by
  cases trace with
  | integer _ next => exact .pass next

theorem FormatTrace.steps {format : Format} (trace : FormatTrace state format after) :
    Steps state after := by
  cases trace with
  | plain => exact .refl
  | field _ next width => exact (Steps.pass next).trans width.steps
  | fixed _ next width _ second places =>
      exact (((Steps.pass next).trans width.steps).tail (.pass second)).trans places.steps

theorem ArgumentTrace.steps {argument : Argument} (trace : ArgumentTrace state argument after) :
    Steps state after := by
  cases trace with
  | argument next item format _ behind =>
      exact (((Steps.pass next).trans item.steps).trans format.steps).tail (.pass behind)

/-- A statement that is found has passed its first token. -/
theorem StatementTrace.goesOn {construct : Construct} {found : List Statement}
    (trace : StatementTrace construct state found after) :
    Steps state after ∧ (construct = .statement → found = [] ∨ after.left < state.left) := by
  have opened {before last : ParseState} {stream : Stream} {kind : Kind} {list : List Statement}
      (first : before.stream.current.kind = kind) (inside : kind.isEndOfText = false)
      (next : before.stream.next = .ok stream) (rest : Steps { before with stream } last) :
      Steps before last ∧ (Construct.statement = .statement → list = [] ∨ last.left < before.left) :=
    ⟨rest.head (.pass next), fun _ => .inr <|
      Nat.lt_of_le_of_lt rest.left_le ((Stream.left_next next).2 (first ▸ inside))⟩
  induction trace with
  | @assign before last stream _ _ kind next _ signNext value =>
      have rest : Steps { before with
          stream, table := before.table.enter before.stream.current.text } last :=
        value.steps.head (.pass signNext)
      refine ⟨(rest.head (.pass next)).head (.enter before), fun _ => .inr ?_⟩
      exact Nat.lt_of_le_of_lt rest.left_le ((Stream.left_next next).2 (by rw [kind]; rfl))
  | compound opens next _ closing body => exact opened opens rfl next (body.1.trans closing.steps)
  | repeatUntil opens next _ _ test condition body =>
      exact opened opens rfl next ((body.1.tail (.pass test)).trans condition.steps)
  | whileDo opens next condition _ doNext _ beginNext _ closing body =>
      have entered := (condition.steps.tail (.pass doNext)).tail (.pass beginNext)
      exact opened opens rfl next ((entered.trans body.1).trans closing.steps)
  | ifThen opens next condition _ thenNext _ _ branch =>
      exact opened opens rfl next ((condition.steps.tail (.pass thenNext)).trans branch.1)
  | ifElse opens next condition _ thenNext _ _ elseNext _ branch otherwise =>
      have chosen := (condition.steps.tail (.pass thenNext)).trans branch.1
      exact opened opens rfl next ((chosen.tail (.pass elseNext)).trans otherwise.1)
  | write opens next _ argument | writeln opens next _ argument =>
      exact opened opens rfl next argument.steps
  | writelnPlain opens next => exact opened opens rfl next .refl
  | gap => exact ⟨.refl, fun _ => .inl rfl⟩
  | dropped recovers => exact ⟨recovers.steps, fun _ => .inl rfl⟩
  | branch _ statement | emptyBranch _ statement => exact ⟨statement.1, nofun⟩
  | listEnd => exact ⟨.refl, nofun⟩
  | listNext _ gap _ first others => exact ⟨(first.1.trans gap.steps).trans others.1, nofun⟩

theorem StatementTrace.steps {construct : Construct} {found : List Statement}
    (trace : StatementTrace construct state found after) : Steps state after := trace.goesOn.1

theorem BodyTrace.steps {line : Nat} {body : List Statement}
    (trace : BodyTrace state line body after) : Steps state after := by
  obtain ⟨entered, last, opens, statements, closing⟩ := trace.parts
  exact (opens.steps.trans statements.steps).trans closing.steps

theorem NameTrace.steps {name : Option String} (trace : NameTrace state name after) :
    Steps state after := by
  cases trace with
  | named _ next => exact .head (.enter state) (.single (.pass next))
  | missing recovers => exact recovers.steps

end Steps

end MiniPascal
