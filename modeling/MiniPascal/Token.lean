/-
This file holds the tokens of a program text.
-/

import MiniPascal.Text.Quoted
import MiniPascal.Value

namespace MiniPascal

/-- Operators and punctuation. -/
inductive Symbol where
  | plus
  | minus
  | star
  | slash
  | colonEquals
  | period
  | comma
  | semicolon
  | colon
  | leftParenthesis
  | rightParenthesis
  | equals
  | notEquals
  | lessThan
  | lessEquals
  | greaterThan
  | greaterEquals
deriving DecidableEq, Repr

def Symbol.spelling : Symbol → String
  | .plus => "+"
  | .minus => "-"
  | .star => "*"
  | .slash => "/"
  | .colonEquals => ":="
  | .period => "."
  | .comma => ","
  | .semicolon => ";"
  | .colon => ":"
  | .leftParenthesis => "("
  | .rightParenthesis => ")"
  | .equals => "="
  | .notEquals => "<>"
  | .lessThan => "<"
  | .lessEquals => "<="
  | .greaterThan => ">"
  | .greaterEquals => ">="

def Symbol.name : Symbol → String
  | .plus => "PLUS"
  | .minus => "MINUS"
  | .star => "STAR"
  | .slash => "SLASH"
  | .colonEquals => "COLON_EQUALS"
  | .period => "PERIOD"
  | .comma => "COMMA"
  | .semicolon => "SEMICOLON"
  | .colon => "COLON"
  | .leftParenthesis => "LPAREN"
  | .rightParenthesis => "RPAREN"
  | .equals => "EQUALS"
  | .notEquals => "NOT_EQUALS"
  | .lessThan => "LESS_THAN"
  | .lessEquals => "LESS_EQUALS"
  | .greaterThan => "GREATER_THAN"
  | .greaterEquals => "GREATER_EQUALS"

/-- Reserved words, in any mixture of cases. -/
inductive Keyword where
  | programWord
  | beginWord
  | endWord
  | repeatWord
  | untilWord
  | whileWord
  | doWord
  | ifWord
  | thenWord
  | elseWord
  | writeWord
  | writelnWord
  | divWord
  | modWord
  | andWord
  | orWord
  | notWord
deriving DecidableEq, Repr

def Keyword.spelling : Keyword → String
  | .programWord => "program"
  | .beginWord => "begin"
  | .endWord => "end"
  | .repeatWord => "repeat"
  | .untilWord => "until"
  | .whileWord => "while"
  | .doWord => "do"
  | .ifWord => "if"
  | .thenWord => "then"
  | .elseWord => "else"
  | .writeWord => "write"
  | .writelnWord => "writeln"
  | .divWord => "div"
  | .modWord => "mod"
  | .andWord => "and"
  | .orWord => "or"
  | .notWord => "not"

def Keyword.name : Keyword → String
  | .programWord => "PROGRAM"
  | .beginWord => "BEGIN"
  | .endWord => "END"
  | .repeatWord => "REPEAT"
  | .untilWord => "UNTIL"
  | .whileWord => "WHILE"
  | .doWord => "DO"
  | .ifWord => "IF"
  | .thenWord => "THEN"
  | .elseWord => "ELSE"
  | .writeWord => "WRITE"
  | .writelnWord => "WRITELN"
  | .divWord => "DIV"
  | .modWord => "MOD"
  | .andWord => "AND"
  | .orWord => "OR"
  | .notWord => "NOT"

def Keyword.all : List Keyword :=
  [.programWord, .beginWord, .endWord, .repeatWord, .untilWord, .whileWord, .doWord, .ifWord,
    .thenWord, .elseWord, .writeWord, .writelnWord, .divWord, .modWord, .andWord, .orWord,
    .notWord]

/-- The reserved word with the given spelling in lower case. -/
def Keyword.ofSpelling? (spelling : String) : Option Keyword :=
  Keyword.all.find? (·.spelling = spelling)

theorem Keyword.mem_all (word : Keyword) : word ∈ Keyword.all := by
  cases word <;> decide

theorem Keyword.spelling_injective {first second : Keyword}
    (same : first.spelling = second.spelling) : first = second := by
  revert same
  cases first <;> cases second <;> decide

theorem Keyword.ofSpelling?_eq_some_iff {spelling : String} {word : Keyword} :
    Keyword.ofSpelling? spelling = some word ↔ spelling = word.spelling := by
  constructor
  · intro found
    have same := List.find?_some found
    simpa [eq_comm] using same
  · rintro rfl
    cases word <;> decide

/-- The kind of a token and, for a literal, its value. -/
inductive Kind where
  | identifier
  | integer (number : Nat)
  | real (number : Float)
  | string (content : String)
  /-- A string literal of one character. -/
  | character (content : Char)
  | symbol (mark : Symbol)
  | keyword (word : Keyword)
  /-- A character that starts no token, or a string literal that does not end. -/
  | error
  | endOfText
deriving Inhabited

def Kind.name : Kind → String
  | .identifier => "IDENTIFIER"
  | .integer _ => "INTEGER"
  | .real _ => "REAL"
  | .string _ => "STRING"
  | .character _ => "CHARACTER"
  | .symbol mark => mark.name
  | .keyword word => word.name
  | .error => "ERROR"
  | .endOfText => "EOF"

/-- The value of a literal; other tokens have none. -/
def Kind.value : Kind → Value
  | .integer number => .integer number
  | .real number => .real number
  | .string content => .text content
  | .character content => .text (String.singleton content)
  | _ => .nothing

def Kind.isSymbol (kind : Kind) (mark : Symbol) : Bool :=
  match kind with
  | .symbol found => found == mark
  | _ => false

def Kind.isKeyword (kind : Kind) (word : Keyword) : Bool :=
  match kind with
  | .keyword found => found == word
  | _ => false

def Kind.isIdentifier : Kind → Bool
  | .identifier => true
  | _ => false

def Kind.isEndOfText : Kind → Bool
  | .endOfText => true
  | _ => false

theorem Kind.isSymbol_iff {kind : Kind} {mark : Symbol} :
    kind.isSymbol mark = true ↔ kind = .symbol mark := by
  cases kind <;> simp [Kind.isSymbol]

theorem Kind.isKeyword_iff {kind : Kind} {word : Keyword} :
    kind.isKeyword word = true ↔ kind = .keyword word := by
  cases kind <;> simp [Kind.isKeyword]

theorem Kind.isIdentifier_iff {kind : Kind} : kind.isIdentifier = true ↔ kind = .identifier := by
  cases kind <;> simp [Kind.isIdentifier]

theorem Kind.isEndOfText_iff {kind : Kind} : kind.isEndOfText = true ↔ kind = .endOfText := by
  cases kind <;> simp [Kind.isEndOfText]

/-- A token has its spelling in the text and the line on which it starts. -/
structure Token where
  kind : Kind
  text : String
  line : Nat
deriving Inhabited

/-- The token behind the last one of a text. -/
def Token.endOfText (line : Nat) : Token := ⟨.endOfText, "", line⟩

/-- The listing form of a token. -/
def Token.description (token : Token) : String :=
  "Token(" ++ token.kind.name ++ ", " ++ Text.quoted token.text ++ ", line=" ++
    toString token.line ++ ")"

end MiniPascal
