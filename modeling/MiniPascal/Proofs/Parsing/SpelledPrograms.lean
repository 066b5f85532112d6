/-
This file shows that every node of the tree of a parsed text is spelled with a token of its kind,
whatever mistakes the text has.
-/

import MiniPascal.Proofs.Parsing.Acceptance
import MiniPascal.Proofs.Parsing.Marked

namespace MiniPascal

open Lexeme (Word)

/-- Every token but the end of the text is read back. -/
theorem readable_of_mem_tokensOf {text : String} {token : Token} (inside : token ∈ tokensOf text)
    (notEnd : token.kind ≠ .endOfText) : token.Readable := by
  rcases List.mem_append.mp inside with found | last
  · exact Scanner.words_of_scan text token found
  · cases ending : (Scanner.ofText text).scan.ending with
    | fault fault =>
        rw [ending] at last
        cases last
    | endOfText line =>
        rw [ending] at last
        exact absurd (congrArg Token.kind (List.mem_singleton.mp last)) notEnd

variable {text : String}

/-- A token of the text has the spelling of its kind. -/
theorem word_of_mem_tokensOf {token : Token} {kind : Kind} (inside : token ∈ tokensOf text)
    (same : token.kind = kind) (notEnd : kind ≠ .endOfText) : Word kind token.text.toList :=
  same ▸ readable_of_mem_tokensOf inside (same ▸ notEnd)

theorem Kind.Operates.ne_endOfText {kind : Kind} {operator : BinaryOperator}
    (operates : kind.Operates operator) : kind ≠ .endOfText := by
  rintro rfl
  cases operates with
  | chained rank found => cases rank <;> cases found
  | compared found => cases found

theorem Expression.Marked.spelled {source : Expression} (marked : source.Marked (tokensOf text)) :
    source.toTree.AllSpelled := by
  induction marked with
  | reference inside kind => exact .leaf (.reference (word_of_mem_tokensOf inside kind nofun))
  | integer inside kind => exact .leaf (.integer (word_of_mem_tokensOf inside kind nofun))
  | real inside kind => exact .leaf (.real (word_of_mem_tokensOf inside kind nofun))
  | negation _ _ _ operand => exact .single (.other rfl) operand
  | sign inside kind _ operand =>
      have word := readable_of_mem_tokensOf inside fun ended => by
        rw [ended] at kind
        cases kind
      exact .single (.sign word kind) operand
  | binary inside kind _ _ left right =>
      exact .pair (.binary (readable_of_mem_tokensOf inside kind.ne_endOfText) kind) left right

theorem Item.Marked.spelled {item : Item} (marked : item.Marked (tokensOf text)) :
    item.toTree.AllSpelled := by
  cases marked with
  | reference inside kind => exact .leaf (.reference (word_of_mem_tokensOf inside kind nofun))
  | string inside value =>
      have word := readable_of_mem_tokensOf inside fun ended => by
        rw [ended] at value
        cases value
      exact .leaf (.string word value)

theorem Argument.Marked.spelled {argument : Argument} (marked : argument.Marked (tokensOf text)) :
    ∀ tree ∈ argument.toTrees, tree.AllSpelled := by
  refine List.forall_mem_cons.mpr ⟨marked.item.spelled, ?_⟩
  rw [Format.toTrees_eq_map]
  refine List.forall_mem_map.mpr fun width listed => ?_
  obtain ⟨token, inside, kind, same⟩ := marked.format width listed
  obtain ⟨mark, number⟩ := width
  obtain rfl : mark = token.mark := same
  exact .leaf (.integer (word_of_mem_tokensOf inside kind nofun))

/-- The test of a condition has no spelling of its own kind. -/
theorem testTree_spelled {mark : Mark} {condition : Tree} (spelled : condition.AllSpelled) :
    (testTree mark condition).AllSpelled := .single (.other rfl) spelled

theorem Statement.spelled_toTrees {body : List Statement}
    (spelled : ∀ part ∈ body, part.toTree.AllSpelled) :
    ∀ tree ∈ Statement.toTrees body, tree.AllSpelled := by
  rw [Statement.toTrees_eq_map]
  exact List.forall_mem_map.mpr spelled

theorem Statement.Marked.spelled {statement : Statement}
    (marked : statement.Marked (tokensOf text)) : statement.toTree.AllSpelled := by
  induction marked with
  | empty | writelnPlain => exact .leaf (.other rfl)
  | compound _ body => exact .node (.other rfl) (Statement.spelled_toTrees body)
  | assign near kind _ value =>
      have word := word_of_mem_tokensOf (near.subset List.mem_cons_self) kind nofun
      exact .pair (.other rfl) (.leaf (.reference word)) value.spelled
  | repeatUntil _ _ _ condition body =>
      exact .node (.other rfl) (List.forall_mem_append.mpr ⟨Statement.spelled_toTrees body,
        List.forall_mem_singleton.mpr (testTree_spelled condition.spelled)⟩)
  | whileDo _ condition _ body =>
      exact .pair (.other rfl) (testTree_spelled (.single (.other rfl) condition.spelled))
        (.node (.other rfl) (Statement.spelled_toTrees body))
  | ifThen _ condition _ branch =>
      exact .pair (.other rfl) (testTree_spelled condition.spelled) branch
  | ifElse _ condition _ _ branch otherwise =>
      exact .node (.other rfl) (List.forall_mem_cons.mpr ⟨testTree_spelled condition.spelled,
        List.forall_mem_cons.mpr ⟨branch, List.forall_mem_singleton.mpr otherwise⟩⟩)
  | write argument | writeln argument => exact .node (.other rfl) argument.spelled

/-- The tree of a parsed text is spelled with the tokens of the text. -/
theorem parseProgram_spelled {table : SymbolTable} {program : Program}
    (result : (parseProgram text table).result = .ok program) : program.toTree.AllSpelled :=
  .single (.other rfl) (.node (.other rfl) (Statement.spelled_toTrees fun part inside =>
    (parseProgram_marked result part inside).spelled))

theorem Parses.spelled {table after : SymbolTable} {program : Program}
    (parses : Parses text table program after) : program.toTree.AllSpelled :=
  parseProgram_spelled parses.result

end MiniPascal
