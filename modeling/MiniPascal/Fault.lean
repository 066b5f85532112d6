/-
This file lists the faults that end the work on a text without a diagnostic.
-/

import MiniPascal.Text.Quoted

namespace MiniPascal

/-- A fault is raised by a literal, a number or a tree that cannot be worked on. -/
inductive Fault where
  /-- The integer literal has more digits than the limit allows. -/
  | integerTooLong (digits : Nat)
  | integerWithoutDigits
  | unreadableNumber (text : String)
  /-- The dividend of a remainder is infinite. -/
  | remainderDomain
  | infinityToInteger
  | notANumberToInteger
  /-- A number to print is outside the range of doubles. -/
  | integerToReal
  | widthTooLarge
  | tooManyDecimals
  | unhandledExpression (description : String)
  | unhandledStatement (description : String)
  /-- A node has fewer children than its kind asks for. -/
  | missingChild
  /-- An assignment does not have exactly two children. -/
  | assignmentShape (children : Nat)
  /-- A variable node has no binding. -/
  | unbound
  /-- An integer constant has no value to read as a number. -/
  | absentNumber
  /-- Neither a missing value nor a string is laid out as a number. -/
  | nothingToLayOut
  | textToLayOut
deriving DecidableEq, Repr

/-- An integer literal may have this many digits, zeros in front included. -/
def integerDigitLimit : Nat := 4300

/-- The text that reports the fault. -/
def Fault.message : Fault → String
  | .integerTooLong digits =>
      "Exceeds the limit (" ++ toString integerDigitLimit ++
        " digits) for integer string conversion: value has " ++ toString digits ++
        " digits; use sys.set_int_max_str_digits() to increase the limit"
  | .integerWithoutDigits => "invalid literal for int() with base 10: ''"
  | .unreadableNumber text => "could not convert string to float: " ++ Text.quoted text
  | .remainderDomain => "math domain error"
  | .infinityToInteger => "cannot convert float infinity to integer"
  | .notANumberToInteger => "cannot convert float NaN to integer"
  | .integerToReal => "int too large to convert to float"
  | .widthTooLarge => "Python int too large to convert to C ssize_t"
  | .tooManyDecimals => "[<class 'decimal.InvalidOperation'>]"
  | .unhandledExpression description => "Unhandled expression node: " ++ description
  | .unhandledStatement description => "Unhandled statement node: " ++ description
  | .missingChild => "list index out of range"
  | .assignmentShape children =>
      if children < 2 then
        "not enough values to unpack (expected 2, got " ++ toString children ++ ")"
      else "too many values to unpack (expected 2)"
  | .unbound => "'NoneType' object has no attribute 'value'"
  | .absentNumber => "float() argument must be a string or a real number, not 'NoneType'"
  | .nothingToLayOut => "must be real number, not NoneType"
  | .textToLayOut => "must be real number, not str"

end MiniPascal
