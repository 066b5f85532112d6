/-
This file looks code points up in tables of closed ranges.
-/

namespace MiniPascal.Text

/-- A code point is in a table when one of its closed ranges holds it. -/
def inRanges (ranges : List (Nat × Nat)) (code : Nat) : Bool :=
  ranges.any fun range => range.1 ≤ code && code ≤ range.2

end MiniPascal.Text
