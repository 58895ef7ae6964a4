/-
CodeAtlas.Graph.Edge — one edge of a slice.

An edge goes from one node to another, both given by their identifiers, which
need not belong to nodes of the same slice. Its tag is whatever the document
says; which relation it names is decided when the edge is drawn.

In the program an edge is an `EdgeDto`.
-/
import CodeAtlas.Value.Display

namespace CodeAtlas.Graph

/-- An edge of a code graph. -/
structure Edge where
  id : Value
  source : Value
  target : Value
  tag : Value
  weight : Value := .int 0
  deriving DecidableEq

/-- An edge as a document. -/
def Edge.document (e : Edge) : Value :=
  .dict
    [("id", e.id), ("sourceId", e.source), ("targetId", e.target),
     ("type", e.tag), ("weight", e.weight)]

/-- An edge in one line, unless an integer in it is too long. -/
def Edge.text? (e : Edge) : Option String := do
  let id ← e.id.text?
  let source ← e.source.text?
  let target ← e.target.text?
  let tag ← e.tag.text?
  return "EdgeDto(" ++ id ++ ": " ++ source ++ " -> " ++ target ++ ", " ++ tag ++ ")"

end CodeAtlas.Graph
