/-
This file shows trees as structured values.
-/

import MiniPascal.Json
import MiniPascal.Tree

namespace MiniPascal

/-- A value as a structured one; nothing is shown as null. -/
def Value.toJson : Value → Json
  | .nothing => .null
  | .integer number => .integer number
  | .real number => .real number
  | .text characters => .text characters
  | .truth flag => .truth flag

def Value.isNothing : Value → Bool
  | .nothing => true
  | _ => false

/-- The members that show a label; what a label lacks is left out. -/
def Label.toMembers (label : Label) : List (String × Json) :=
  [("node_type", Json.text label.kind.name), ("line", Json.integer label.line)] ++
    (label.text.map fun text => ("text", Json.text text)).toList ++
    (if label.value.isNothing then [] else [("value", label.value.toJson)]) ++
    (label.binding.map fun binding => ("entry", Json.text binding.name)).toList

namespace Tree

mutual

/-- A node without children has no member for them. -/
def toJson : Tree → Json
  | node label children =>
      .object (label.toMembers ++
        if children.isEmpty then [] else [("children", .array (toJsons children))])

def toJsons : List Tree → List Json
  | [] => []
  | tree :: trees => toJson tree :: toJsons trees

end

theorem toJsons_eq_map (trees : List Tree) : toJsons trees = trees.map toJson := by
  induction trees with
  | nil => rfl
  | cons tree trees inductionHypothesis => simp [toJsons, inductionHypothesis]

end Tree

end MiniPascal
