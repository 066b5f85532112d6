/-
This file shows that every variable that a parser finds refers to a cell of its table, or to a cell
of its own that is reported, whatever mistakes the text has.
-/

import MiniPascal.Proofs.Parsing.Traced

namespace MiniPascal

/-- The variables that stand in an expression. -/
def Expression.variables : Expression → List Variable
  | .reference source => [source]
  | .integer _ _ => []
  | .real _ _ => []
  | .unary _ _ operand => operand.variables
  | .binary _ _ left right => left.variables ++ right.variables

def Item.variables : Item → List Variable
  | .reference source => [source]
  | .string _ _ => []

def Argument.variables (argument : Argument) : List Variable := argument.item.variables

mutual

/-- The variables that a statement reads or assigns. -/
def Statement.variables : Statement → List Variable
  | .empty _ => []
  | .compound _ body => Statement.allVariables body
  | .assign _ target value => target :: value.variables
  | .repeatUntil _ body _ condition => Statement.allVariables body ++ condition.variables
  | .whileDo _ _ condition _ body => condition.variables ++ Statement.allVariables body
  | .ifThen _ _ condition branch => condition.variables ++ branch.variables
  | .ifElse _ _ condition branch otherwise =>
      condition.variables ++ branch.variables ++ otherwise.variables
  | .write _ argument => argument.variables
  | .writeln _ none => []
  | .writeln _ (some argument) => argument.variables

def Statement.allVariables : List Statement → List Variable
  | [] => []
  | statement :: statements => statement.variables ++ Statement.allVariables statements

end

theorem Statement.allVariables_single (statement : Statement) :
    Statement.allVariables [statement] = statement.variables := List.append_nil _

theorem Statement.allVariables_append (first second : List Statement) :
    Statement.allVariables (first ++ second) =
      Statement.allVariables first ++ Statement.allVariables second := by
  induction first with
  | nil => rfl
  | cons statement statements inductionHypothesis =>
      rw [List.cons_append, allVariables, allVariables, inductionHypothesis, List.append_assoc]

/-- A name that is known keeps its cell when others are entered. -/
theorem SymbolTable.lookup?_enter_of_some {table : SymbolTable} {name : String} {cell : Cell}
    (known : table.lookup? name = some cell) (entered : String) :
    (table.enter entered).lookup? name = some cell := by
  unfold enter
  split
  · exact known
  · unfold lookup? find? at known ⊢
    rw [List.find?_append, known]
    rfl

/-- A variable refers to the cell of its spelling, or to a cell of its own, and then its token is
reported. -/
def Variable.Bound (state : ParseState) (source : Variable) : Prop :=
  (∃ cell, state.table.lookup? source.mark.text = some cell ∧
      source.binding = cell.binding) ∨
    (source.binding = .detached source.mark.text ∧
      ⟨.undeclared, source.mark.line, source.mark.text⟩ ∈ state.diagnostics)

/-- What is bound stays bound while the parser goes on. -/
theorem Variable.Bound.steps {source : Variable} {before after : ParseState}
    (bound : source.Bound before) (steps : ParseState.Steps before after) :
    source.Bound after := by
  refine steps.keep (fun state => source.Bound state) ?_ bound
  rintro state _ (_ | _ | _) (⟨cell, known, same⟩ | ⟨same, reported⟩)
  · exact .inl ⟨cell, known, same⟩
  · exact .inr ⟨same, reported⟩
  · exact .inl ⟨cell, known, same⟩
  · exact .inr ⟨same, List.mem_append_left _ reported⟩
  · exact .inl ⟨cell, SymbolTable.lookup?_enter_of_some known _, same⟩
  · exact .inr ⟨same, reported⟩

/-- All variables of a list are bound. -/
def AllBound (state : ParseState) (sources : List Variable) : Prop :=
  ∀ source ∈ sources, source.Bound state

variable {first second : List Variable} {state before after : ParseState}

theorem AllBound.nil : AllBound state [] := by
  intro source inside
  cases inside

theorem AllBound.single {source : Variable} (bound : source.Bound state) :
    AllBound state [source] := by
  intro other inside
  rw [List.mem_singleton.mp inside]
  exact bound

theorem AllBound.append (firstBound : AllBound state first) (secondBound : AllBound state second) :
    AllBound state (first ++ second) := by
  intro source inside
  rcases List.mem_append.mp inside with left | right
  · exact firstBound source left
  · exact secondBound source right

theorem AllBound.steps (bound : AllBound before first) (steps : ParseState.Steps before after) :
    AllBound after first := fun source inside => (bound source inside).steps steps

open ParseState

section Traces

variable {table : SymbolTable}

/-- A name that is entered has a cell. -/
theorem Variable.Bound.of_entered {mark : Mark} (here : state.table = table.enter mark.text) :
    Variable.Bound state ⟨mark, (table.entered mark.text).binding⟩ :=
  .inl ⟨_, here ▸ SymbolTable.lookup?_enter table mark.text, rfl⟩

theorem VariableTrace.bound {source : Variable} (trace : VariableTrace state source after) :
    source.Bound after := by
  cases trace with
  | known found next => exact .inl ⟨_, found, rfl⟩
  | unknown _ next => exact .inr ⟨rfl, List.mem_append_right _ (List.mem_singleton_self _)⟩

/-- The variables on the left of a chain that goes on. -/
def Level.variables : Level → List Variable
  | .chain _ left => left.variables
  | _ => []

theorem Rank.variables_operand (rank : Rank) : rank.operand.variables = [] := by
  cases rank <;> rfl

theorem ExpressionTrace.bound {level : Level} {found : Expression}
    (trace : ExpressionTrace level state found after) (left : AllBound state level.variables) :
    AllBound after found.variables := by
  induction trace with
  | reference _ read => exact .single read.bound
  | integer | real => exact .nil
  | group _ _ _ _ behind inside => exact (inside .nil).steps (.pass behind)
  | negation _ _ _ inside => exact inside .nil
  | chainEnd => exact left
  | @chainNext rank _ _ _ _ _ _ _ _ _ next operandTrace _ operand others =>
      have right := operand (rank.variables_operand ▸ .nil)
      exact others (.append (left.steps (operandTrace.steps.head (.pass next))) right)
  | term _ _ factor others => exact others (factor .nil)
  | unsigned _ _ _ term others | signed _ _ _ _ term others => exact others (term .nil)
  | alone _ _ simple => exact simple .nil
  | compared _ _ next secondTrace first second =>
      exact .append ((first .nil).steps (secondTrace.steps.head (.pass next))) (second .nil)

theorem ArgumentTrace.bound {argument : Argument} (trace : ArgumentTrace state argument after) :
    AllBound after argument.variables := by
  cases trace with
  | argument _ item format _ closeNext =>
      refine AllBound.steps ?_ (format.steps.tail (.pass closeNext))
      cases item with
      | reference _ read => exact .single read.bound
      | string | character => exact .nil

/-- A statement that is dropped leaves no variable. -/
theorem StatementTrace.bound {construct : Construct} {found : List Statement}
    (trace : StatementTrace construct state found after) :
    AllBound after (Statement.allVariables found) := by
  have one {statement : Statement} {place : ParseState} :
      AllBound place (Statement.allVariables [statement]) ↔ AllBound place statement.variables := by
    rw [Statement.allVariables_single]
  induction trace with
  | assign _ _ _ _ value =>
      refine one.mpr (.append (.single (Variable.Bound.steps ?_ value.steps)) (value.bound .nil))
      exact .of_entered rfl
  | compound _ _ _ closing body => exact one.mpr (body.steps closing.steps)
  | repeatUntil _ _ _ _ test condition body =>
      have bodyBound := body.steps (condition.steps.head (.pass test))
      exact one.mpr (.append bodyBound (condition.bound .nil))
  | whileDo _ _ condition _ doNext _ beginNext bodyTrace closing body =>
      have entered := (Steps.pass doNext).tail (.pass beginNext)
      have toEnd := (entered.trans bodyTrace.steps).trans closing.steps
      exact one.mpr (.append ((condition.bound .nil).steps toEnd) (body.steps closing.steps))
  | ifThen _ _ condition _ thenNext branchTrace _ branch =>
      have toEnd := branchTrace.steps.head (.pass thenNext)
      exact one.mpr (.append ((condition.bound .nil).steps toEnd) (one.mp branch))
  | ifElse _ _ condition _ thenNext branchTrace _ elseNext otherwiseTrace branch otherwise =>
      have toEnd := otherwiseTrace.steps.head (.pass elseNext)
      have conditionBound := (condition.bound .nil).steps (branchTrace.steps.head (.pass thenNext))
      exact one.mpr (.append (.append (conditionBound.steps toEnd) ((one.mp branch).steps toEnd))
        (one.mp otherwise))
  | write _ _ _ argument | writeln _ _ _ argument => exact one.mpr argument.bound
  | writelnPlain => exact one.mpr .nil
  | gap | dropped | listEnd => exact .nil
  | branch _ statement => exact statement
  | emptyBranch => exact one.mpr .nil
  | listNext _ gap othersTrace first others =>
      rw [Statement.allVariables_append]
      exact .append (first.steps (gap.steps.trans othersTrace.steps)) others

theorem ProgramTrace.bound {program : Program} (trace : ProgramTrace state program after) :
    AllBound after (Statement.allVariables program.body) := by
  cases trace with
  | program _ _ _ _ body period =>
      obtain ⟨entered, last, _, statements, closing⟩ := body.parts
      exact statements.bound.steps (closing.steps.trans period.steps)

end Traces

/-- From every state the parser finds bound variables only. -/
def Parse.Binds {α : Type} (parse : Parse α) (sources : α → List Variable) : Prop :=
  ∀ state, parse.Leads state fun found after => AllBound after (sources found)

theorem Parse.program_binds : program.Binds fun found => Statement.allVariables found.body :=
  fun state => (program_traces state).weaken fun _ _ _ ⟨_, _, trace⟩ => trace.bound

/-- Every variable of a program is bound when its text is parsed, in spite of all mistakes. -/
theorem parseProgram_bound {text : String} {table : SymbolTable} {program : Program}
    (result : (parseProgram text table).result = .ok program) :
    AllBound (parseProgram text table).state (Statement.allVariables program.body) :=
  (Parse.program_binds _).reached program result

end MiniPascal
