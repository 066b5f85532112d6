/-
This file cuts a program text into tokens, one step at a time.
-/

import MiniPascal.Lexeme

namespace MiniPascal

/-- A scanner stands before the rest of its text. Its position keeps growing when it is moved
beyond the end. -/
structure Scanner where
  rest : List Char
  position : Nat
  line : Nat
deriving DecidableEq, Repr

namespace Scanner

def ofText (text : String) : Scanner := ⟨text.toList, 0, 1⟩

/-- The character before which the scanner stands. -/
def current? (scanner : Scanner) : Option Char := scanner.rest.head?

/-- The character behind the current one. -/
def peek? (scanner : Scanner) : Option Char := (scanner.rest.drop 1).head?

/-- Every line end that the scanner passes starts a new line. -/
def skip (scanner : Scanner) (count : Nat) : Scanner where
  rest := scanner.rest.drop count
  position := scanner.position + count
  line := scanner.line + (scanner.rest.take count).count '\n'

@[simp] theorem skip_zero (scanner : Scanner) : scanner.skip 0 = scanner := by
  simp [skip]

/-- Characters may be passed in two steps. -/
theorem skip_skip (scanner : Scanner) (first second : Nat) :
    (scanner.skip first).skip second = scanner.skip (first + second) := by
  simp [skip, List.take_add, List.count_append, Nat.add_assoc]

def advance (scanner : Scanner) : Scanner := scanner.skip 1

def skipBlanks (scanner : Scanner) : Scanner :=
  scanner.skip (Lexeme.blankLength scanner.rest)

def skipComment (scanner : Scanner) : Scanner :=
  scanner.skip (Lexeme.commentLength scanner.rest)

/-- The scanner passes at most `count` runs of blanks and comments. -/
def skipGaps : Nat → Scanner → Scanner
  | 0, scanner => scanner
  | count + 1, scanner =>
      if scanner.current?.any Text.isBlank then skipGaps count scanner.skipBlanks
      else if Lexeme.startsComment scanner.rest then skipGaps count scanner.skipComment
      else scanner

/-- The scanner passes all blanks and comments before the next token; each of them has a
character. -/
def skipGap (scanner : Scanner) : Scanner := scanner.skipGaps scanner.rest.length

/-- A piece of the text becomes a token, and the scanner passes it even when it is faulty. -/
def take (scanner : Scanner) (length : Nat) (kind : Except Fault Kind) :
    Except Fault Token × Scanner :=
  (kind.map fun kind => ⟨kind, String.ofList (scanner.rest.take length), scanner.line⟩,
    scanner.skip length)

/-- The number at the scanner. -/
def number (scanner : Scanner) : Except Fault Token × Scanner :=
  let numeral := Lexeme.Numeral.scan scanner.rest
  scanner.take numeral.length numeral.kind

/-- The name at the scanner. -/
def name (scanner : Scanner) : Except Fault Token × Scanner :=
  let length := Lexeme.nameLength scanner.rest
  scanner.take length (.ok (Lexeme.nameKind (String.ofList (scanner.rest.take length))))

/-- The string literal at the scanner; the current character is taken as its opening quote. -/
def string (scanner : Scanner) : Except Fault Token × Scanner :=
  let body := Lexeme.StringBody.scan (scanner.rest.drop 1)
  scanner.take (body.length + 1) (.ok body.kind)

/-- The token at the scanner, which stands before a token or at the end. -/
def token (scanner : Scanner) : Except Fault Token × Scanner :=
  match scanner.rest with
  | [] => (.ok (.endOfText scanner.line), scanner)
  | character :: _ =>
      match Lexeme.symbol? scanner.rest with
      | some mark => scanner.take mark.spelling.length (.ok (.symbol mark))
      | none =>
          if character = '\'' then scanner.string
          else if Text.isDigit character then scanner.number
          else if Text.isLetter character then scanner.name
          else scanner.take 1 (.ok .error)

/-- The next token; at the end of the text it is the end of the text again and again. -/
def next (scanner : Scanner) : Except Fault Token × Scanner := scanner.skipGap.token

end Scanner

/-- The tokens of a text end with the end of the text or with a faulty literal. -/
inductive Ending where
  | endOfText (line : Nat)
  | fault (fault : Fault)
deriving DecidableEq, Repr

/-- What a scanner finds in the rest of its text. -/
structure Scan where
  tokens : List Token
  ending : Ending
  scanner : Scanner

namespace Scanner

/-- The scanner takes at most `count` tokens and then stands at the end. -/
def scanTokens : Nat → Scanner → Scan
  | 0, scanner => ⟨[], .endOfText scanner.line, scanner⟩
  | count + 1, scanner =>
      match scanner.next with
      | (.error fault, after) => ⟨[], .fault fault, after⟩
      | (.ok token, after) =>
          if token.kind.isEndOfText then ⟨[], .endOfText token.line, after⟩
          else
            let scan := scanTokens count after
            { scan with tokens := token :: scan.tokens }

/-- All tokens of the rest of the text; each of them has a character. -/
def scan (scanner : Scanner) : Scan := scanner.scanTokens (scanner.rest.length + 1)

/-- The tokens of the rest of the text up to its end. -/
def tokenize (scanner : Scanner) : Except Fault (List Token) × Scanner :=
  let scan := scanner.scan
  match scan.ending with
  | .endOfText line => (.ok (scan.tokens ++ [.endOfText line]), scan.scanner)
  | .fault fault => (.error fault, scan.scanner)

end Scanner

/-- The tokens of a text up to its end. -/
def tokenize (text : String) : Except Fault (List Token) := (Scanner.ofText text).tokenize.1

end MiniPascal
