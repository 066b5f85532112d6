/-
This file writes texts as the content of a markup element.
-/

namespace MiniPascal.Text

/-- Five characters are written as entities. -/
def entity (character : Char) : List Char :=
  match character with
  | '&' => "&amp;".toList
  | '<' => "&lt;".toList
  | '>' => "&gt;".toList
  | '"' => "&quot;".toList
  | '\'' => "&#x27;".toList
  | other => [other]

/-- The text with its markup characters replaced by entities. -/
def escapeMarkup (text : String) : String := String.ofList (text.toList.flatMap entity)

end MiniPascal.Text
