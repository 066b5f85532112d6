/-
This file holds the reports that a parser makes about a program text.
-/

namespace MiniPascal

/-- A syntax error reports one mistake. -/
inductive Mistake where
  | expectingProgram
  | expectingProgramName
  | missingSemicolon
  | expectingBegin
  | expectingPeriod
  | expectingEnd
  | unexpectedToken
  | missingAssignment
  | expectingUntil
  | expectingDo
  | expectingThen
  | missingLeftParenthesis
  | missingRightParenthesis
  | invalidWrite
  | invalidWidth
  | invalidPlaces
  | expectingClosing
deriving DecidableEq, Repr

def Mistake.message : Mistake → String
  | .expectingProgram => "Expecting PROGRAM"
  | .expectingProgramName => "Expecting program name"
  | .missingSemicolon => "Missing ;"
  | .expectingBegin => "Expecting BEGIN"
  | .expectingPeriod => "Expecting ."
  | .expectingEnd => "Expecting END"
  | .unexpectedToken => "Unexpected token"
  | .missingAssignment => "Missing :="
  | .expectingUntil => "Expecting UNTIL"
  | .expectingDo => "Expecting DO"
  | .expectingThen => "Expecting THEN"
  | .missingLeftParenthesis => "Missing left parenthesis"
  | .missingRightParenthesis => "Missing right parenthesis"
  | .invalidWrite => "Invalid WRITE or WRITELN statement"
  | .invalidWidth => "Invalid field width"
  | .invalidPlaces => "Invalid count of decimal places"
  | .expectingClosing => "Expecting )"

/-- A mistake breaks the grammar; a name that is read before it is assigned does not. -/
inductive Complaint where
  | mistake (mistake : Mistake)
  | undeclared
deriving DecidableEq, Repr

/-- A diagnostic quotes the token at which the complaint arises. -/
structure Diagnostic where
  complaint : Complaint
  line : Nat
  text : String
deriving DecidableEq, Repr

/-- A diagnostic is one line of output. -/
def Diagnostic.render (diagnostic : Diagnostic) : String :=
  let (severity, message) :=
    match diagnostic.complaint with
    | .mistake mistake => ("SYNTAX", mistake.message)
    | .undeclared => ("SEMANTIC", "Undeclared identifier")
  severity ++ " ERROR at line " ++ toString diagnostic.line ++ ": " ++ message ++ " at '" ++
    diagnostic.text ++ "'\n"

end MiniPascal
