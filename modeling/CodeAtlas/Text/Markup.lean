/-
CodeAtlas.Text.Markup — texts inside markup.

`escape` makes a text safe between tags and inside quoted attributes.
`scriptSafe` makes JSON text safe inside a script element: the three characters
that could end the element or start a reference are written as escapes of JSON.
-/
namespace CodeAtlas.Text

/-- One character of a text in markup. -/
def escapeChar : Char → List Char
  | '&' => "&amp;".toList
  | '<' => "&lt;".toList
  | '>' => "&gt;".toList
  | '"' => "&quot;".toList
  | '\'' => "&#x27;".toList
  | c => [c]

/-- A text in markup. -/
def escape (cs : List Char) : List Char := cs.flatMap escapeChar

/-- One character of JSON text in a script. -/
def scriptChar : Char → List Char
  | '>' => "\\u003E".toList
  | '<' => "\\u003C".toList
  | '&' => "\\u0026".toList
  | c => [c]

/-- JSON text in a script. -/
def scriptSafe (cs : List Char) : List Char := cs.flatMap scriptChar

end CodeAtlas.Text
