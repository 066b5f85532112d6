/-
This file shows that every node that a parser finds, however many mistakes there are, has the spelling
and the line of a token of its text. Only the test of a loop or a conditional that starts with its
condition has the line of the token behind its keyword.
-/

import MiniPascal.Proofs.Parsing.Among
import MiniPascal.Proofs.Parsing.Spelled
import MiniPascal.Proofs.Parsing.Traced

namespace MiniPascal

/-- Every node of an expression has the mark of a token of its kind. -/
inductive Expression.Marked (tokens : List Token) : Expression → Prop where
  | reference {token : Token} {binding : Binding} (inside : token ∈ tokens)
      (kind : token.kind = .identifier) : Marked tokens (.reference ⟨token.mark, binding⟩)
  | integer {token : Token} {number : Nat} (inside : token ∈ tokens)
      (kind : token.kind = .integer number) : Marked tokens (.integer token.mark number)
  | real {token : Token} {number : Float} (inside : token ∈ tokens)
      (kind : token.kind = .real number) : Marked tokens (.real token.mark number)
  | negation {token : Token} {operand : Expression} (inside : token ∈ tokens)
      (kind : token.kind = .keyword .notWord) (operandMarked : operand.Marked tokens) :
      Marked tokens (.unary .negation token.mark operand)
  | sign {token : Token} {operator : UnaryOperator} {operand : Expression}
      (inside : token ∈ tokens) (kind : Parse.sign? token.kind = some operator)
      (operandMarked : operand.Marked tokens) : Marked tokens (.unary operator token.mark operand)
  | binary {token : Token} {operator : BinaryOperator} {left right : Expression}
      (inside : token ∈ tokens) (kind : token.kind.Operates operator)
      (leftMarked : left.Marked tokens) (rightMarked : right.Marked tokens) :
      Marked tokens (.binary operator token.mark left right)

/-- What is written has the mark of a name or of a string. -/
inductive Item.Marked (tokens : List Token) : Item → Prop where
  | reference {token : Token} {binding : Binding} (inside : token ∈ tokens)
      (kind : token.kind = .identifier) : Marked tokens (.reference ⟨token.mark, binding⟩)
  | string {token : Token} {content : String} (inside : token ∈ tokens)
      (value : token.kind.value = .text content) : Marked tokens (.string token.mark content)

def Width.Marked (tokens : List Token) (width : Width) : Prop :=
  ∃ token ∈ tokens, token.kind = .integer width.number ∧ width.mark = token.mark

def Format.Marked (tokens : List Token) (format : Format) : Prop :=
  ∀ width ∈ format.widths, width.Marked tokens

structure Argument.Marked (tokens : List Token) (argument : Argument) : Prop where
  item : argument.item.Marked tokens
  format : argument.format.Marked tokens

/-- A test that comes before what it guards is spelled as its keyword, and has the line of the token
behind it. -/
structure Token.Guards (tokens : List Token) (opening : Token) (word : Keyword) (test : Mark) : Prop
    where
  kind : opening.kind = .keyword word
  behind : ∃ first, [opening, first] <:+: tokens ∧ test = ⟨opening.text, first.line⟩

/-- The nodes of a statement have the marks of their tokens. The target of an assignment stands right
before its sign. -/
inductive Statement.Marked (tokens : List Token) : Statement → Prop where
  | empty {line : Nat} : Marked tokens (.empty line)
  | compound {line : Nat} {body : List Statement} (parts : ∀ part ∈ body, part.Marked tokens) :
      Marked tokens (.compound line body)
  | assign {line : Nat} {target sign : Token} {binding : Binding} {value : Expression}
      (near : [target, sign] <:+: tokens) (targetKind : target.kind = .identifier)
      (signKind : sign.kind = .symbol .colonEquals) (valueMarked : value.Marked tokens) :
      Marked tokens (.assign line ⟨target.mark, binding⟩ value)
  | repeatUntil {line : Nat} {body : List Statement} {test : Token} {condition : Expression}
      (parts : ∀ part ∈ body, part.Marked tokens) (inside : test ∈ tokens)
      (kind : test.kind = .keyword .untilWord) (conditionMarked : condition.Marked tokens) :
      Marked tokens (.repeatUntil line body test.mark condition)
  | whileDo {line bodyLine : Nat} {opening : Token} {test : Mark} {condition : Expression}
      {body : List Statement} (guards : opening.Guards tokens .whileWord test)
      (conditionMarked : condition.Marked tokens) (parts : ∀ part ∈ body, part.Marked tokens) :
      Marked tokens (.whileDo line test condition bodyLine body)
  | ifThen {line : Nat} {opening : Token} {test : Mark} {condition : Expression}
      {branch : Statement} (guards : opening.Guards tokens .ifWord test)
      (conditionMarked : condition.Marked tokens) (branchMarked : branch.Marked tokens) :
      Marked tokens (.ifThen line test condition branch)
  | ifElse {line : Nat} {opening : Token} {test : Mark} {condition : Expression}
      {branch otherwise : Statement} (guards : opening.Guards tokens .ifWord test)
      (conditionMarked : condition.Marked tokens) (branchMarked : branch.Marked tokens)
      (otherwiseMarked : otherwise.Marked tokens) :
      Marked tokens (.ifElse line test condition branch otherwise)
  | write {line : Nat} {argument : Argument} (argumentMarked : argument.Marked tokens) :
      Marked tokens (.write line argument)
  | writelnPlain {line : Nat} : Marked tokens (.writeln line none)
  | writeln {line : Nat} {argument : Argument} (argumentMarked : argument.Marked tokens) :
      Marked tokens (.writeln line (some argument))

/-- All statements of a list are marked. -/
def Statement.AllMarked (tokens : List Token) (body : List Statement) : Prop :=
  ∀ part ∈ body, part.Marked tokens

section Traces

variable {scan : Scan} {state after : ParseState} {stream : Stream}

theorem VariableTrace.mark_eq {source : Variable} (trace : VariableTrace state source after) :
    source.mark = state.stream.current.mark := by
  cases trace <;> rfl

/-- The left side of a chain that goes on is marked. -/
def Level.Marked (tokens : List Token) : Level → Prop
  | .chain _ left => left.Marked tokens
  | _ => True

theorem Rank.marked_operand (rank : Rank) (tokens : List Token) : rank.operand.Marked tokens := by
  cases rank <;> exact trivial

theorem ExpressionTrace.marked {level : Level} {found : Expression}
    (trace : ExpressionTrace level state found after) (among : state.stream.Among scan)
    (left : level.Marked scan.allTokens) : found.Marked scan.allTokens := by
  induction trace with
  | @reference _ _ source kind read =>
      obtain ⟨mark, binding⟩ := source
      obtain rfl := read.mark_eq
      exact .reference among.mem kind
  | integer kind => exact .integer among.mem kind
  | real kind => exact .real among.mem kind
  | group _ next _ _ _ inside => exact inside (among.next next) trivial
  | negation kind next _ inside =>
      exact .negation among.mem kind (inside (among.next next) trivial)
  | chainEnd => exact left
  | @chainNext rank _ _ _ _ _ _ _ _ goesOn next operandTrace _ operand others =>
      have there := among.next next
      have right := operand there (rank.marked_operand _)
      exact others (there.steps operandTrace.steps)
        (.binary among.mem (.chained rank goesOn) left right)
  | term factorTrace _ factor others =>
      exact others (among.steps factorTrace.steps) (factor among trivial)
  | unsigned _ termTrace _ term others =>
      exact others (among.steps termTrace.steps) (term among trivial)
  | signed kind next termTrace _ term others =>
      have there := among.next next
      exact others (there.steps termTrace.steps) (.sign among.mem kind (term there trivial))
  | alone _ _ simple => exact simple among trivial
  | compared firstTrace kind next _ first second =>
      have amid := among.steps firstTrace.steps
      exact .binary amid.mem (.compared kind) (first among trivial) (second (amid.next next) trivial)

theorem ItemTrace.marked {item : Item} (trace : ItemTrace state item after)
    (among : state.stream.Among scan) : item.Marked scan.allTokens := by
  cases trace with
  | @reference source _ kind read =>
      obtain ⟨mark, binding⟩ := source
      obtain rfl := read.mark_eq
      exact .reference among.mem kind
  | string kind | character kind => exact .string among.mem (by rw [kind]; rfl)

theorem WidthTrace.marked {width : Width} (trace : WidthTrace state width after)
    (among : state.stream.Among scan) : width.Marked scan.allTokens := by
  cases trace with
  | integer kind => exact ⟨state.stream.current, among.mem, kind, rfl⟩

theorem FormatTrace.marked {format : Format} (trace : FormatTrace state format after)
    (among : state.stream.Among scan) : format.Marked scan.allTokens := by
  cases trace with
  | plain => exact nofun
  | field _ next width => exact List.forall_mem_singleton.mpr (width.marked (among.next next))
  | fixed _ next width _ secondNext places =>
      have amid := (among.next next).steps width.steps
      exact List.forall_mem_cons.mpr ⟨width.marked (among.next next),
        List.forall_mem_singleton.mpr (places.marked (amid.next secondNext))⟩

theorem ArgumentTrace.marked {argument : Argument} (trace : ArgumentTrace state argument after)
    (among : state.stream.Among scan) : argument.Marked scan.allTokens := by
  cases trace with
  | argument next item format =>
      have there := among.next next
      exact ⟨item.marked there, format.marked (there.steps item.steps)⟩

/-- The keyword in front of a test guards it. -/
theorem guards_of_next {word : Keyword} (among : state.stream.Among scan)
    (kind : state.stream.current.kind = .keyword word) (next : state.stream.next = .ok stream) :
    state.stream.current.Guards scan.allTokens word
      ⟨state.stream.current.text, stream.current.line⟩ where
  kind := kind
  behind := ⟨_, among.neighbours_of_inside next (by rw [kind]; nofun), rfl⟩

/-- A statement that is dropped leaves no node. -/
theorem StatementTrace.marked {construct : Construct} {found : List Statement}
    (trace : StatementTrace construct state found after) (among : state.stream.Among scan) :
    Statement.AllMarked scan.allTokens found := by
  have one {statement : Statement} : Statement.AllMarked scan.allTokens [statement] ↔
      statement.Marked scan.allTokens := List.forall_mem_singleton
  induction trace with
  | assign kind next sign signNext value =>
      have near := among.neighbours_of_inside next (by rw [kind]; nofun)
      have there := (among.next next).next signNext
      exact one.mpr (.assign near kind sign (value.marked there trivial))
  | compound _ next _ _ body => exact one.mpr (.compound (body (among.next next)))
  | repeatUntil _ next bodyTrace testKind testNext condition body =>
      have amid := (among.next next).steps bodyTrace.steps
      exact one.mpr (.repeatUntil (body (among.next next)) amid.mem testKind
        (condition.marked (amid.next testNext) trivial))
  | whileDo opens next condition _ doNext _ beginNext _ _ body =>
      have there := among.next next
      have entered := ((there.steps condition.steps).next doNext).next beginNext
      exact one.mpr (.whileDo (guards_of_next among opens next) (condition.marked there trivial)
        (body entered))
  | ifThen opens next condition _ thenNext _ _ branch =>
      have there := among.next next
      have chosen := (there.steps condition.steps).next thenNext
      exact one.mpr (.ifThen (guards_of_next among opens next) (condition.marked there trivial)
        (one.mp (branch chosen)))
  | ifElse opens next condition _ thenNext branchTrace _ elseNext _ branch otherwise =>
      have there := among.next next
      have chosen := (there.steps condition.steps).next thenNext
      exact one.mpr (.ifElse (guards_of_next among opens next) (condition.marked there trivial)
        (one.mp (branch chosen))
        (one.mp (otherwise ((chosen.steps branchTrace.steps).next elseNext))))
  | write _ next _ argument => exact one.mpr (.write (argument.marked (among.next next)))
  | writeln _ next _ argument => exact one.mpr (.writeln (argument.marked (among.next next)))
  | writelnPlain => exact one.mpr .writelnPlain
  | gap | dropped | listEnd => exact nofun
  | branch _ statement => exact statement among
  | emptyBranch => exact one.mpr .empty
  | listNext firstTrace gap _ first others =>
      have behind := among.steps (firstTrace.steps.trans gap.steps)
      exact List.forall_mem_append.mpr ⟨first among, others behind⟩

theorem ProgramTrace.marked {program : Program} (trace : ProgramTrace state program after)
    (among : state.stream.Among scan) : Statement.AllMarked scan.allTokens program.body := by
  cases trace with
  | program opening name semicolon beginning body =>
      obtain ⟨entered, last, opens, statements, _⟩ := body.parts
      have head := (opening.steps.trans name.steps).trans (semicolon.steps.trans beginning.steps)
      exact statements.marked (among.steps (head.trans opens.steps))

end Traces

/-- Every node of the program that a text is parsed to has its mark, whatever mistakes the text has. -/
theorem parseProgram_marked {text : String} {table : SymbolTable} {program : Program}
    (result : (parseProgram text table).result = .ok program) :
    Statement.AllMarked (tokensOf text) program.body := by
  obtain ⟨fault, same⟩ | ⟨stream, among, same⟩ := parseProgram_cases text table
  · rw [same] at result
    cases result
  · rw [same] at result
    exact ((Parse.programHere_traces _).reached program result).marked among

end MiniPascal
