/-
This file draws a tree as a graph in the dot language.
-/

import MiniPascal.Surface
import MiniPascal.Text.Blank
import MiniPascal.Text.LowerCase
import MiniPascal.Text.Markup

namespace MiniPascal

namespace Graph

/-- One final line end may stand behind a text that is matched to its end. -/
def withoutFinalLineEnd (text : List Char) : List Char :=
  match text.reverse with
  | '\n' :: rest => rest.reverse
  | _ => text

/-- A name has ASCII letters, digits and underscores and does not start with a digit. -/
def isName : List Char → Bool
  | [] => false
  | first :: rest =>
      (first.isAlpha || first == '_') &&
        rest.all fun character => character.isAlphanum || character == '_'

/-- A number may have a minus sign, and digits on either side of its point. -/
def isNumber (text : List Char) : Bool :=
  let magnitude :=
    match text with
    | '-' :: rest => rest
    | rest => rest
  match magnitude.takeWhile Char.isDigit, magnitude.dropWhile Char.isDigit with
  | [], '.' :: fraction => !fraction.isEmpty && fraction.all Char.isDigit
  | [], _ => false
  | _, [] => true
  | _, '.' :: fraction => fraction.all Char.isDigit
  | _, _ => false

/-- A text between angle brackets is markup. -/
def isMarkup (text : List Char) : Bool :=
  2 ≤ text.length && text.head? == some '<' && text.getLast? == some '>'

/-- Words that the graph language reserves. -/
def reserved : List String := ["node", "edge", "graph", "digraph", "subgraph", "strict"]

/-- A plain identifier of the graph language needs no quotes. -/
def isPlain (text : String) : Bool :=
  let characters := withoutFinalLineEnd text.toList
  (isMarkup characters || isName characters || isNumber characters) &&
    !reserved.contains (Text.lower text)

/-- A quote behind an even count of backslashes gets another one. -/
def escapeQuotes (escaped : Bool) : List Char → List Char
  | [] => []
  | '"' :: rest => (if escaped then ['"'] else ['\\', '"']) ++ escapeQuotes false rest
  | '\\' :: rest => '\\' :: escapeQuotes (!escaped) rest
  | character :: rest => character :: escapeQuotes false rest

/-- An identifier of the graph language. -/
def identifier (text : String) : String :=
  if isPlain text then text
  else String.ofList ('"' :: escapeQuotes false text.toList ++ ['"'])

/-- The markup of a node: its kind above its text and its line. A test stands out by its
colour and a statement by its round corners. -/
def markup (label : Label) (body : String) : String :=
  let colour := if label.kind = .test then " BGCOLOR=\"#ffefef\"" else ""
  let style := if label.kind.isStatement then " STYLE=\"ROUNDED\"" else ""
  let text := if body.toList.all Text.isBlank then "&nbsp;" else Text.escapeMarkup body
  "<<TABLE BORDER=\"0\" CELLBORDER=\"1\" CELLSPACING=\"0\"" ++ style ++ "><TR><TD" ++ colour ++
    "><B>" ++ Text.escapeMarkup label.kind.name ++
    "</B></TD></TR><TR><TD><FONT POINT-SIZE=\"10\">" ++ text ++
    "</FONT><BR/><FONT POINT-SIZE=\"8\">line " ++ toString label.line ++
    "</FONT></TD></TR></TABLE>>"

/-- A vertex has a number and, but for the root, the number of its parent. -/
structure Vertex where
  number : Nat
  parent : Option Nat
  label : Label
  body : String

/-- A tree that still has to be drawn, and the number of its parent. -/
structure Waiting where
  parent : Option Nat
  tree : Tree

def Waiting.size (waiting : Waiting) : Nat := waiting.tree.preorder.length

/-- The children of a vertex are put on the stack from the last one to the first one. -/
def push (number : Nat) (children : List Tree) (stack : List Waiting) : List Waiting :=
  children.reverse.foldl (fun stack child => ⟨some number, child⟩ :: stack) stack

/-- The first child comes to the top of the stack, before its brothers. -/
theorem push_eq_append (number : Nat) (children : List Tree) (stack : List Waiting) :
    push number children stack = children.map (Waiting.mk (some number)) ++ stack := by
  rw [push, List.foldl_reverse]
  induction children with
  | nil => rfl
  | cons child children inductionHypothesis =>
      rw [List.foldr_cons, inductionHypothesis]
      rfl

/-- The count of all nodes that still have to be drawn. -/
def Waiting.total : List Waiting → Nat
  | [] => 0
  | waiting :: stack => waiting.size + total stack

/-- The nodes of trees are those of all their trees together. -/
theorem Waiting.total_push (parent : Option Nat) (trees : List Tree) (stack : List Waiting) :
    total (trees.map (Waiting.mk parent) ++ stack) =
      (Tree.preorderAll trees).length + total stack := by
  induction trees with
  | nil => exact (Nat.zero_add _).symm
  | cons tree trees inductionHypothesis =>
      rw [List.map_cons, List.cons_append, total, inductionHypothesis, Tree.preorderAll,
        List.length_append, Nat.add_assoc]
      rfl

/-- The tree on the top of the stack is drawn next, and its children take its place. -/
def walk (number : Nat) : List Waiting → List Vertex
  | [] => []
  | ⟨parent, .node label children⟩ :: stack =>
      ⟨number, parent, label, (Tree.node label children).surface⟩ ::
        walk (number + 1) (push number children stack)
termination_by stack => Waiting.total stack
decreasing_by
  rw [push_eq_append, Waiting.total_push, Waiting.total, Waiting.size, Tree.preorder,
    List.length_cons]
  omega

/-- The vertices of a tree, numbered in the order in which they are drawn. -/
def vertices (tree : Tree) : List Vertex := walk 0 [⟨none, tree⟩]

/-- A vertex is one line, and the edge from its parent another one. -/
def Vertex.lines (vertex : Vertex) : List String :=
  ("\tn" ++ toString vertex.number ++ " [label=" ++ markup vertex.label vertex.body ++
      " shape=plaintext]") ::
    (vertex.parent.map fun parent =>
      "\tn" ++ toString parent ++ " -> n" ++ toString vertex.number).toList

/-- The caption of a graph is its title, or the text of its root; an empty one counts as none. -/
def caption? (title : Option String) (tree : Tree) : Option String :=
  (title.filter (!·.isEmpty)).or (tree.label.text.filter (!·.isEmpty))

/-- The lines of the drawing of a tree. -/
def lines (tree : Tree) (title : Option String) : List String :=
  ["digraph \x7b", "\tgraph [rankdir=TB]"] ++
    ((caption? title tree).map fun caption =>
      "\tgraph [label=" ++ identifier caption ++ " labelloc=t]").toList ++
    (vertices tree).flatMap Vertex.lines ++ ["\x7d"]

end Graph

/-- The drawing of a tree, every line of which is ended. -/
def Tree.toGraph (tree : Tree) (title : Option String) : String :=
  String.join ((Graph.lines tree title).map (· ++ "\n"))

end MiniPascal
