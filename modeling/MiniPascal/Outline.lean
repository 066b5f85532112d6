/-
This file shows a tree as an outline with one line for each node.
-/

import MiniPascal.Tree

namespace MiniPascal

/-- The words of a name, which are set apart by underscores, start with capitals and are joined. -/
def titleFrom (startsWord : Bool) : List Char → List Char
  | [] => []
  | character :: rest =>
      if character = '_' then titleFrom true rest
      else (if startsWord then character else character.toLower) :: titleFrom false rest

def NodeKind.title (kind : NodeKind) : String := String.ofList (titleFrom true kind.name.toList)

/-- What the line of a node shows behind its title. -/
def Label.detail (label : Label) : Option String :=
  match label.kind with
  | .program | .reference | .binary _ => some (label.text.getD Value.nothing.plain)
  | .integerConstant | .realConstant => some label.value.plain
  | .stringConstant => some label.value.quoted
  | _ => none

def Label.caption (label : Label) : String :=
  label.kind.title ++
    match label.detail with
    | some detail => "(" ++ detail ++ ")"
    | none => ""

/-- The role of a child whose meaning depends on its place. -/
def NodeKind.role (kind : NodeKind) (index : Nat) : String :=
  match kind with
  | .assign => ["target: ", "value: "].getD index ""
  | .conditional => ["test: ", "then: ", "else: "].getD index ""
  | .write | .writeln => ["value: ", "width: ", "decimals: "].getD index ""
  | .compound | .loop => "stmt[" ++ toString index ++ "]: "
  | .binary _ => ["left: ", "right: "].getD index ""
  | _ => ""

namespace Tree

mutual

/-- The lines of a tree; children stand two columns to the right of their parent. A line with a
negative indentation starts at the margin. -/
def outlineLines (indent : Int) (role : String) : Tree → List String
  | node label children =>
      (String.ofList (List.replicate indent.toNat ' ') ++ role ++ label.caption) ::
        outlineAll (indent + 2) label.kind 0 children

def outlineAll (indent : Int) (parent : NodeKind) (index : Nat) : List Tree → List String
  | [] => []
  | tree :: trees =>
      outlineLines indent (parent.role index) tree ++ outlineAll indent parent (index + 1) trees

end

/-- The outline of a tree, whose first line starts with the given role. -/
def outline (tree : Tree) (indent : Int) (role : String) : String :=
  "\n".intercalate (tree.outlineLines indent role)

end Tree

end MiniPascal
