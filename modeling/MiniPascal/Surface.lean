/-
This file writes a node as one line of program text.
-/

import MiniPascal.Tree

namespace MiniPascal

def UnaryOperator.spelling : UnaryOperator → String
  | .negation => "not "
  | .minus => "-"
  | .plus => "+"

def BinaryOperator.spelling : BinaryOperator → String
  | .add => "+"
  | .subtract => "-"
  | .multiply => "*"
  | .divide => "/"
  | .modulus => "mod"
  | .conjunction => "and"
  | .disjunction => "or"
  | .equal => "="
  | .less => "<"
  | .lessEqual => "<="
  | .greaterEqual => ">="
  | .greater => ">"
  | .notEqual => "<>"

/-- A string literal writes every quote of its content twice. -/
def stringLiteral (content : String) : String :=
  String.ofList
    ('\'' :: content.toList.flatMap (fun character =>
      if character = '\'' then ['\'', '\''] else [character]) ++ ['\''])

/-- The text of a node together with the texts of its children. A variable without a name has no
text of its own. -/
structure Surface where
  text : Option String
  parts : List (Option String)

/-- The text of a node inside another one. -/
def shown (text : Option String) : String := text.getD Value.nothing.plain

/-- The text of the part at an index. -/
def partText (parts : List Surface) (index : Nat) : String :=
  match parts[index]? with
  | some part => shown part.text
  | none => ""

/-- The text of a node from those of its parts. The body of a compound statement, of a loop and of
a conditional is left out. -/
def surfaceText (label : Label) (parts : List Surface) : Option String :=
  match label.kind with
  | .program => some ("program " ++ shown label.text)
  | .compound => some "begin ... end"
  | .assign => some (partText parts 0 ++ " := " ++ partText parts 1)
  | .loop => some "loop"
  | .test => some ("exit when " ++ partText parts 0)
  | .conditional =>
      let guard := (parts[0]?.bind (·.parts[0]?)).map shown
      some ("if " ++ guard.getD "")
  | .write | .writeln =>
      let word := if label.kind = .write then "write" else "writeln"
      if parts.isEmpty then some word
      else some (word ++ "(" ++ ":".intercalate (parts.map (shown ·.text)) ++ ")")
  | .reference => label.text
  | .integerConstant | .realConstant => some (label.text.getD label.value.plain)
  | .stringConstant => some (stringLiteral label.value.plain)
  | .unary operator => some (operator.spelling ++ partText parts 0)
  | .binary operator =>
      some ("(" ++ partText parts 0 ++ " " ++ label.text.getD operator.spelling ++ " " ++
        partText parts 1 ++ ")")

namespace Tree

mutual

def toSurface : Tree → Surface
  | node label children =>
      let parts := toSurfaces children
      ⟨surfaceText label parts, parts.map (·.text)⟩

def toSurfaces : List Tree → List Surface
  | [] => []
  | tree :: trees => toSurface tree :: toSurfaces trees

end

theorem toSurfaces_eq_map (trees : List Tree) : toSurfaces trees = trees.map toSurface := by
  induction trees with
  | nil => rfl
  | cons tree trees inductionHypothesis => simp [toSurfaces, inductionHypothesis]

/-- The text of a tree, if it has one. -/
def surface? (tree : Tree) : Option String := tree.toSurface.text

/-- The text of a tree as other texts show it. -/
def surface (tree : Tree) : String := shown tree.surface?

end Tree

end MiniPascal
