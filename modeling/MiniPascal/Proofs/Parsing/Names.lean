/-
This file shows that a program that is read off tokens names every identifier among them.
-/

import MiniPascal.Proofs.Parsing.Binding
import MiniPascal.Proofs.Parsing.Locality

namespace MiniPascal

/-- The names that a program mentions: its own one and those of its variables. -/
def Program.names (program : Program) : List String :=
  program.name.toList ++ (Statement.allVariables program.body).map (·.mark.text)

/-- Every token up to a rest is allowed. -/
def Passes (allowed : Token → Prop) (tokens rest : List Token) : Prop :=
  ∀ token ∈ tokens, allowed token ∨ token ∈ rest

namespace Passes

variable {allowed : Token → Prop} {token : Token} {tokens middle rest : List Token}

theorem refl : Passes allowed tokens tokens := fun _ inside => .inr inside

theorem trans (before : Passes allowed tokens middle) (behind : Passes allowed middle rest) :
    Passes allowed tokens rest := by
  intro token inside
  obtain found | later := before token inside
  · exact .inl found
  · exact behind token later

theorem single (found : allowed token) : Passes allowed (token :: rest) rest := by
  intro other inside
  rcases List.mem_cons.mp inside with rfl | behind
  · exact .inl found
  · exact .inr behind

end Passes

/-- Every identifier among the tokens up to a rest is the spelling of a variable. -/
def Mentioned (sources : List Variable) : List Token → List Token → Prop :=
  Passes fun token => token.kind = .identifier → ∃ source ∈ sources, source.mark.text = token.text

namespace Mentioned

variable {first second sources : List Variable} {token : Token} {tokens middle rest : List Token}

theorem refl : Mentioned sources tokens tokens := Passes.refl

theorem trans (before : Mentioned sources tokens middle) (behind : Mentioned sources middle rest) :
    Mentioned sources tokens rest := Passes.trans before behind

/-- Only the variables of the tokens before the rest are needed. -/
theorem mono (mentioned : Mentioned first tokens rest) (more : first ⊆ sources) :
    Mentioned sources tokens rest := by
  intro token inside
  refine (mentioned token inside).imp_left fun found kind => ?_
  obtain ⟨source, member, same⟩ := found kind
  exact ⟨source, more member, same⟩

theorem left (mentioned : Mentioned first tokens rest) : Mentioned (first ++ second) tokens rest :=
  mentioned.mono (List.subset_append_left _ _)

theorem right (mentioned : Mentioned second tokens rest) :
    Mentioned (first ++ second) tokens rest := mentioned.mono (List.subset_append_right _ _)

/-- A token that is no identifier mentions nothing. -/
theorem skip {kind : Kind} (same : token.kind = kind) (other : kind.isIdentifier = false) :
    Mentioned sources (token :: rest) rest := by
  refine .single fun named => ?_
  rw [← same, named] at other
  cases other

/-- An operator mentions nothing. -/
theorem operator {α : Type} {operator : α} {operator? : Kind → Option α}
    (found : operator? token.kind = some operator) (none : operator? .identifier = none) :
    Mentioned sources (token :: rest) rest := by
  refine .single fun named => ?_
  rw [named, none] at found
  cases found

/-- An identifier mentions its variable. -/
theorem named {source : Variable} (member : source ∈ sources)
    (same : source.mark.text = token.text) : Mentioned sources (token :: rest) rest :=
  .single fun _ => ⟨source, member, same⟩

end Mentioned

/-- The variables of the operand behind which a chain goes on. -/
def Level.leftVariables : Level → List Variable
  | .chain _ left => left.variables
  | _ => []

theorem Rank.operator?_identifier (rank : Rank) : rank.operator? .identifier = none := by
  cases rank <;> rfl

/-- An expression has the variables that its tokens name, and a chain has those of its left operand
too. -/
theorem ExpressionReading.mentioned {table : SymbolTable} {level : Level}
    {tokens rest : List Token} {found : Expression}
    (reading : ExpressionReading table level tokens found rest) :
    Mentioned found.variables tokens rest ∧ level.leftVariables ⊆ found.variables := by
  induction reading with
  | reference => exact ⟨.named List.mem_cons_self rfl, nofun⟩
  | integer kind | real kind => exact ⟨.skip kind rfl, nofun⟩
  | group opens _ closes inside =>
      exact ⟨.trans (.skip opens rfl) (inside.1.trans (.skip closes rfl)), nofun⟩
  | negation kind _ operand => exact ⟨.trans (.skip kind rfl) operand.1, nofun⟩
  | chainEnd => exact ⟨.refl, List.Subset.refl _⟩
  | @chainNext rank _ left right found _ _ _ _ goesOn _ _ operand others =>
      have both : left.variables ++ right.variables ⊆ found.variables := others.2
      have rights := operand.1.mono (List.Subset.trans (List.subset_append_right _ _) both)
      have behind := rights.trans others.1
      exact ⟨.trans (.operator goesOn rank.operator?_identifier) behind,
        List.Subset.trans (List.subset_append_left _ _) both⟩
  | term _ _ factor others | unsigned _ _ _ factor others =>
      exact ⟨(factor.1.mono others.2).trans others.1, nofun⟩
  | signed kind _ _ term others =>
      exact ⟨.trans (.operator kind rfl) ((term.1.mono others.2).trans others.1), nofun⟩
  | alone _ _ simple => exact ⟨simple.1, nofun⟩
  | compared _ kind _ first second =>
      exact ⟨.trans first.1.left (.trans (.operator kind rfl) second.1.right), nofun⟩

theorem FormatReading.mentioned {tokens rest : List Token} {format : Format}
    (reading : FormatReading tokens format rest) (sources : List Variable) :
    Mentioned sources tokens rest := by
  have field {colon width : Token} {behind : List Token} {number : Nat}
      (colonKind : colon.kind = .symbol .colon) (widthKind : width.kind = .integer number) :
      Mentioned sources (colon :: width :: behind) behind :=
    .trans (.skip colonKind rfl) (.skip widthKind rfl)
  cases reading with
  | plain => exact .refl
  | field colon width => exact field colon width
  | fixed colon width second places => exact (field colon width).trans (field second places)

theorem ArgumentReading.mentioned {table : SymbolTable} {tokens rest : List Token}
    {argument : Argument} (reading : ArgumentReading table tokens argument rest) :
    Mentioned argument.variables tokens rest := by
  cases reading with
  | argument opens itemReading formatReading closes =>
      refine .trans (.skip opens rfl)
        (.trans ?_ ((formatReading.mentioned _).trans (.skip closes rfl)))
      cases itemReading with
      | reference => exact .named List.mem_cons_self rfl
      | string kind | character kind => exact .skip kind rfl

/-- Statements have the variables that their tokens name. -/
theorem StatementReading.mentioned {construct : Construct} {table after : SymbolTable}
    {tokens rest : List Token} {found : List Statement}
    (reading : StatementReading construct table tokens found after rest) :
    Mentioned (Statement.allVariables found) tokens rest := by
  -- A single statement has no variables behind its own ones.
  have one {statement : Statement} {tokens rest : List Token}
      (mentioned : Mentioned statement.variables tokens rest) :
      Mentioned (Statement.allVariables [statement]) tokens rest := mentioned.left
  have alone {statement : Statement} {tokens rest : List Token}
      (mentioned : Mentioned (Statement.allVariables [statement]) tokens rest) :
      Mentioned statement.variables tokens rest := by
    rwa [Statement.allVariables, Statement.allVariables, List.append_nil] at mentioned
  induction reading with
  | assign kind sign value =>
      exact one (.trans (.named List.mem_cons_self rfl)
        (.trans (.skip sign rfl) (value.mentioned.1.mono (List.subset_cons_self _ _))))
  | compound opens _ closes body =>
      exact one (.trans (.skip opens rfl) (body.trans (.skip closes rfl)))
  | repeatUntil opens _ test condition body =>
      exact one (.trans (.skip opens rfl)
        (.trans body.left (.trans (.skip test rfl) condition.mentioned.1.right)))
  | whileDo opens condition doing bodyOpens _ closes body =>
      have inside := body.trans (.skip closes rfl)
      exact one (.trans (.skip opens rfl) (.trans condition.mentioned.1.left
        (.trans (.skip doing rfl) (.trans (.skip bodyOpens rfl) inside.right))))
  | ifThen opens condition thenKind _ _ branch =>
      exact one (.trans (.skip opens rfl)
        (.trans condition.mentioned.1.left (.trans (.skip thenKind rfl) (alone branch).right)))
  | ifElse opens condition thenKind _ elseKind _ branch otherwise =>
      exact one (.trans (.skip opens rfl) (.trans condition.mentioned.1.left.left
        (.trans (.skip thenKind rfl) (.trans (alone branch).right.left
          (.trans (.skip elseKind rfl) (alone otherwise).right)))))
  | write opens argument | writeln opens argument =>
      exact one (.trans (.skip opens rfl) argument.mentioned)
  | writelnPlain opens => exact .skip opens rfl
  | branch _ statement => exact statement
  | emptyBranch | listEnd => exact .refl
  | listGap kind _ others => exact .trans (.skip kind rfl) others
  | listLast _ _ last => exact last
  | listNext _ kind _ first others =>
      rw [Statement.allVariables_append]
      exact .trans first.left (.trans (.skip kind rfl) others.right)

/-- Every identifier of a program is one of its names. -/
theorem ProgramReading.mentioned {table after : SymbolTable} {tokens : List Token}
    {period token : Token} {found : Program}
    (reading : ProgramReading table tokens found after [period]) (inside : token ∈ tokens)
    (kind : token.kind = .identifier) : token.text ∈ found.names := by
  cases reading with
  | @program _ opening name semicolon bodyOpening closing _ body tokens _ opens nameKind
      semicolonKind bodyOpens bodyReading closes periodKind =>
      -- The name of the program is mentioned as a variable is.
      have whole : Mentioned (⟨name.mark, .detached name.text⟩ :: Statement.allVariables body)
          (opening :: name :: semicolon :: bodyOpening :: tokens) [period] :=
        .trans (.skip opens rfl) (.trans (.named List.mem_cons_self rfl)
          (.trans (.skip semicolonKind rfl) (.trans (.skip bodyOpens rfl)
            ((bodyReading.mentioned.mono (List.subset_cons_self _ _)).trans (.skip closes rfl)))))
      obtain found | last := whole token inside
      · obtain ⟨source, member, same⟩ := found kind
        rw [← same]
        exact List.mem_map_of_mem (f := fun source : Variable => source.mark.text) member
      · rw [List.mem_singleton.mp last, periodKind] at kind
        cases kind

end MiniPascal
