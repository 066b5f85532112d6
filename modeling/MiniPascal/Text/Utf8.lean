/-
This file decodes bytes as text.
-/

namespace MiniPascal.Text.Utf8

/-- Why bytes are not text. -/
inductive Defect where
  | invalidStart
  | invalidContinuation
  | unexpectedEnd
deriving DecidableEq, Repr

def Defect.message : Defect → String
  | .invalidStart => "invalid start byte"
  | .invalidContinuation => "invalid continuation byte"
  | .unexpectedEnd => "unexpected end of data"

/-- The first bytes that are not text: their place, their count and the first of them. -/
structure Failure where
  first : Nat
  start : Nat
  count : Nat
  defect : Defect
deriving DecidableEq, Repr

def Failure.message (failure : Failure) : String :=
  let place :=
    if failure.count = 1 then
      "byte 0x" ++ String.ofList (Nat.toDigits 16 failure.first) ++ " in position " ++
        toString failure.start
    else
      "bytes in position " ++ toString failure.start ++ "-" ++
        toString (failure.start + failure.count - 1)
  "'utf-8' codec can't decode " ++ place ++ ": " ++ failure.defect.message

/-- A character of several bytes that is not complete: where it starts, its bits so far, and the
range of its next byte. -/
structure Pending where
  first : Nat
  start : Nat
  taken : Nat
  owed : Nat
  bits : Nat
  low : Nat
  high : Nat

/-- A first byte beyond ASCII. The second byte of some of them is restricted, so that no
character has two forms, and none is a surrogate or beyond the last code point. -/
def Pending.ofFirst? (first start : Nat) : Option Pending :=
  if 0xc2 ≤ first && first ≤ 0xdf then some ⟨first, start, 1, 1, first - 0xc0, 0x80, 0xbf⟩
  else if 0xe0 ≤ first && first ≤ 0xef then
    some ⟨first, start, 1, 2, first - 0xe0, if first = 0xe0 then 0xa0 else 0x80,
      if first = 0xed then 0x9f else 0xbf⟩
  else if 0xf0 ≤ first && first ≤ 0xf4 then
    some ⟨first, start, 1, 3, first - 0xf0, if first = 0xf0 then 0x90 else 0x80,
      if first = 0xf4 then 0x8f else 0xbf⟩
  else none

/-- A byte within the range goes into the character. -/
def Pending.push (pending : Pending) (byte : Nat) : Pending :=
  { pending with
    taken := pending.taken + 1, owed := pending.owed - 1
    bits := pending.bits * 64 + (byte - 0x80), low := 0x80, high := 0xbf }

def Pending.failure (pending : Pending) (defect : Defect) : Failure :=
  ⟨pending.first, pending.start, pending.taken, defect⟩

/-- The characters of the bytes from a position on, behind a character that may be incomplete. -/
def decodeFrom (position : Nat) : Option Pending → List Nat → Except Failure (List Char)
  | none, [] => .ok []
  | some pending, [] => .error (pending.failure .unexpectedEnd)
  | none, byte :: rest =>
      if byte < 0x80 then (Char.ofNat byte :: ·) <$> decodeFrom (position + 1) none rest
      else
        match Pending.ofFirst? byte position with
        | some pending => decodeFrom (position + 1) (some pending) rest
        | none => .error ⟨byte, position, 1, .invalidStart⟩
  | some pending, byte :: rest =>
      if pending.low ≤ byte && byte ≤ pending.high then
        let next := pending.push byte
        if next.owed = 0 then
          (Char.ofNat next.bits :: ·) <$> decodeFrom (position + 1) none rest
        else decodeFrom (position + 1) (some next) rest
      else .error (pending.failure .invalidContinuation)

/-- The text of the bytes. -/
def decode (bytes : List Nat) : Except Failure (List Char) := decodeFrom 0 none bytes

end MiniPascal.Text.Utf8
