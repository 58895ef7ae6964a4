/-
CodeAtlas.Graph.Node — one node of a slice.

A node carries what its document says, so its fields are values; only its
identifier matters for its identity. `Node.document` is the node as it is sent
by the graph service. It is defined for every node, but the level has a form in
a document only if it is null or a member of a vocabulary: `levelFault?` finds
one that has none.

In the program a node is a `NodeDto`.
-/
import CodeAtlas.Value.Display

namespace CodeAtlas.Graph

/-- A node of a code graph. -/
structure Node where
  id : Value
  level : Value
  displayName : Value
  cost : Value
  complexity : Value := .int 0
  hotspot : Value := .bool false
  packageName : Value := .null
  className : Value := .null
  methodName : Value := .null
  signature : Value := .null
  deriving DecidableEq

/-- What a member stands for in a document: its word, or code and colour of a
severity. -/
def Member.content : Member → Value
  | .severity s => .tuple [.int s.code, .str s.color]
  | m => .str m.label

/-- A level as it stands in a document. -/
def levelContent : Value → Value
  | .member m => m.content
  | v => v

/-- The kind of a level that has no form in a document. -/
def levelFault? : Value → Option String
  | .null => none
  | .member _ => none
  | v => some v.kind

/-- The fields of a node in a document. -/
def Node.fields (n : Node) : Table String Value :=
  [("id", n.id), ("level", levelContent n.level),
   ("displayName", n.displayName), ("packageName", n.packageName),
   ("className", n.className), ("methodName", n.methodName),
   ("signature", n.signature), ("cost", n.cost),
   ("complexity", n.complexity), ("hotspot", n.hotspot)]

/-- A node as a document. -/
def Node.document (n : Node) : Value := .dict n.fields

/-- A node with all its fields, for messages. -/
def Node.shown : Node → List (String × Value)
  | n =>
      [("id", n.id), ("level", n.level), ("display_name", n.displayName),
       ("cost", n.cost), ("complexity", n.complexity), ("hotspot", n.hotspot),
       ("package_name", n.packageName), ("class_name", n.className),
       ("method_name", n.methodName), ("signature", n.signature)]

end CodeAtlas.Graph
