/-
This file shows that the text of a string constant is read back as its value, and that the constant
built from a token of a text has the spelling of this token as its text.
-/

import MiniPascal.Proofs.Parsing.SpelledPrograms
import MiniPascal.Proofs.Trees.Printed

namespace MiniPascal

open Lexeme

/-- A string literal that is closed. -/
def Kind.isText : Kind → Bool
  | .string _ | .character _ => true
  | _ => false

theorem Kind.exists_value {kind : Kind} (isText : kind.isText = true) :
    ∃ content, kind.value = .text content := by
  cases kind with
  | string content => exact ⟨content, rfl⟩
  | character content => exact ⟨_, rfl⟩
  | _ => cases isText

theorem Kind.text_cases {kind : Kind} {content : String} (value : kind.value = .text content) :
    kind = .string content ∨
      ∃ character, kind = .character character ∧ content = String.singleton character := by
  cases kind with
  | string found =>
      cases value
      exact .inl rfl
  | character found =>
      cases value
      exact .inr ⟨found, rfl, rfl⟩
  | _ => cases value

section Written

variable {content : String}

/-- A literal of one character, and no other one, is a character. -/
theorem literalKind_name (content : String) :
    (literalKind content.toList).name = if content.length = 1 then "CHARACTER" else "STRING" := by
  rw [← String.length_toList]
  match content.toList with
  | [] => rfl
  | [_] => rfl
  | _ :: _ :: behind => exact (if_neg (by simp)).symm

theorem literalKind_value (content : String) :
    (literalKind content.toList).value = .text content := by
  have same : String.ofList content.toList = content := String.ofList_toList
  conv => rhs; rw [← same]
  match content.toList with
  | [] => rfl
  | [_] => rfl
  | _ :: _ :: _ => rfl

/-- The text of a literal without a line end is its own word. -/
theorem wordBefore_of_stringLiteral (oneLine : '\n' ∉ content.toList) :
    WordBefore (literalKind content.toList) (stringLiteral content).toList [] := by
  have spelling := toList_stringLiteral content
  have lexes : Lexes (stringLiteral content).toList ('\'' :: (doubled content.toList ++ ['\'']))
      (.ok (literalKind content.toList)) := .string oneLine spelling nofun
  refine ⟨⟨?_, ?_⟩, ?_, ?_⟩
  · rw [spelling]
    rfl
  · rw [spelling]
    rfl
  · rw [spelling]
    exact List.cons_ne_nil _ _
  · rw [List.append_nil, lexes.piece.2, spelling]

/-- A text that is one word is scanned to one token. -/
theorem tokenize_of_wordBefore {text : String} {kind : Kind}
    (word : WordBefore kind text.toList []) :
    tokenize text = .ok [⟨kind, text, 1⟩, .endOfText 1] := by
  have reads : (Scanner.ofText text).Reads [] kind text.toList [] :=
    ⟨word, .nil, (List.append_nil _).symm⟩
  obtain ⟨after, step, rest, line⟩ := reads.next
  have inside := reads.word.inside
  have final : FinalGap after.rest := by
    rw [rest]
    exact .closed .nil
  have some : (Scanner.ofText text).rest.length ≠ 0 :=
    mt List.length_eq_zero_iff.mp reads.nonempty
  have ended : after.skipGap.line = 1 := by
    rw [(Scanner.skipGap_final final).2, rest, line]
    rfl
  rw [tokenize, Scanner.tokenize, Scanner.scan, Scanner.scanTokens, step]
  simp only [inside, Bool.false_eq_true, if_false, Scanner.scanTokens_of_final final some, ended,
    String.ofList_toList]
  rfl

theorem Tree.surface_string {label : Label} {children : List Tree}
    (kind : label.kind = .stringConstant) :
    (Tree.node label children).surface = stringLiteral label.value.plain := by
  rw [surface, surface?, toSurface, surfaceText, kind]
  rfl

end Written

namespace Parse

/-- The item that a parser builds from the token at which it stands. -/
theorem on_item {content : String} {state : ParseState} {stream : Stream}
    (value : state.stream.current.kind.value = .text content)
    (next : state.stream.next = .ok stream) :
    item.on state =
      ⟨.ok (.string state.stream.current.mark content), { state with stream }⟩ := by
  have marked : mark.on state = ⟨.ok state.stream.current.mark, { state with stream }⟩ := by
    rw [mark, on_bind, on_current]
    simp only [on_bind, on_advance, next, on_pure, Token.mark]
  obtain kind | ⟨character, kind, rfl⟩ := Kind.text_cases value <;>
  · rw [item, on_bind, on_current]
    simp only [kind, on_bind, marked, on_pure]

end Parse

/-- The text of a string constant without a line end is scanned to one token, of a character when there
is one in the content, with the content as its value. The constant that a parser builds where it stands
at a string literal of a text has the spelling of the literal as its text. -/
theorem string_literals_inverse :
    (∀ content : String, '\n' ∉ content.toList → ∀ label children,
      label.kind = .stringConstant → label.value = .text content →
        ∃ token, tokenize (Tree.node label children).surface = .ok [token, .endOfText 1] ∧
          token.kind.name = (if content.length = 1 then "CHARACTER" else "STRING") ∧
          token.kind.value = .text content) ∧
    ∀ text token, token ∈ tokensOf text → token.kind.isText = true →
      ∃ built : Item, built.toTree = Tree.constant .stringConstant token ∧
        built.toTree.surface = token.text ∧
        ∀ state : ParseState, state.stream.current = token →
          ∀ stream, state.stream.next = .ok stream →
            Parse.item.on state = ⟨.ok built, { state with stream }⟩ := by
  constructor
  · intro content oneLine label children kind value
    have literal : (Tree.node label children).surface = stringLiteral content := by
      rw [Tree.surface_string kind, value]
      rfl
    rw [literal]
    exact ⟨_, tokenize_of_wordBefore (wordBefore_of_stringLiteral oneLine),
      literalKind_name content, literalKind_value content⟩
  · intro text token inside isText
    obtain ⟨content, value⟩ := token.kind.exists_value isText
    have word : Word token.kind token.text.toList := by
      refine readable_of_mem_tokensOf inside ?_
      intro ended
      rw [ended] at isText
      cases isText
    refine ⟨.string token.mark content, ?_, ?_, ?_⟩
    · rw [Tree.constant, value]
      rfl
    · rw [text_of_word word value]
      rfl
    · rintro state rfl stream next
      exact Parse.on_item value next

/-- A constant of one quote, and a literal of the start of a comment and a quote. -/
theorem string_literals_inverse_quotes :
    (∃ token, tokenize (Tree.node ⟨.stringConstant, 1, none, .text "'", none⟩ []).surface =
        .ok [token, .endOfText 1] ∧
      token.kind.name = "CHARACTER" ∧ token.kind.value = .text "'") ∧
    ⟨.string "(*'", "'(*'''", 2⟩ ∈ tokensOf "write(\n'(*''')" ∧
      ∃ built : Item, built.toTree.surface = "'(*'''" ∧
        ∀ state : ParseState, state.stream.current = ⟨.string "(*'", "'(*'''", 2⟩ →
          ∀ stream, state.stream.next = .ok stream →
            Parse.item.on state = ⟨.ok built, { state with stream }⟩ := by
  have tokens : tokensOf "write(\n'(*''')" = [⟨.keyword .writeWord, "write", 1⟩,
      ⟨.symbol .leftParenthesis, "(", 1⟩, ⟨.string "(*'", "'(*'''", 2⟩,
      ⟨.symbol .rightParenthesis, ")", 2⟩, .endOfText 2] := by rfl
  have inside : ⟨.string "(*'", "'(*'''", 2⟩ ∈ tokensOf "write(\n'(*''')" := by simp [tokens]
  obtain ⟨written, read⟩ := string_literals_inverse
  obtain ⟨built, _, same, builds⟩ := read _ _ inside rfl
  exact ⟨written "'" (by decide) _ _ rfl rfl, inside, built, same, builds⟩

end MiniPascal
