/-
CodeAtlas.Graph.Slice — slices of a code graph, and their documents.

A slice is the unit of transfer: nodes and edges in order, with nothing that
ties the one to the other. `Slice.ofDocument` reads a slice from a value. It is
lenient: keys that it does not know are ignored, missing keys count as null, a
section that is no sequence counts as empty, and so does an entry that is no
object. Identifiers become texts; nothing else is changed but the level, which
is read as a word of its vocabulary.

`Slice.document` is the way back. It may leave out the optional fields of a
node that are null.

In the program these are `GraphSlice`, and `deserialize` and `serialize` of
`SliceSerializer`.
-/
import CodeAtlas.Graph.Node
import CodeAtlas.Graph.Edge
import CodeAtlas.Graph.Tag

namespace CodeAtlas.Graph

/-- Nodes and edges of one delivery, in order. -/
structure Slice where
  nodes : List Node
  edges : List Edge
  deriving DecidableEq

namespace Slice

/-- A slice without nodes and edges. -/
def empty : Slice := ⟨[], []⟩

/-- The identifiers of the nodes. -/
def nodeIds (s : Slice) : List Value := s.nodes.map (·.id)

/-- The identifiers of the edges. -/
def edgeIds (s : Slice) : List Value := s.edges.map (·.id)

def isEmpty (s : Slice) : Bool := s.nodes.isEmpty && s.edges.isEmpty

/-- Two slices hold records with the same identifiers in the same order. -/
def sameIds (s t : Slice) : Bool :=
  s.nodeIds == t.nodeIds && s.edgeIds == t.edgeIds

/-- A slice in one line. -/
def text (s : Slice) : String :=
  "GraphSlice(nodes=" ++ toString s.nodes.length ++ ", edges="
    ++ toString s.edges.length ++ ")"

end Slice

/-! ## Reading -/

/-- Why a value is no slice. -/
inductive SliceError where
  | notAnObject (kind : String)
  | idTooLong

def SliceError.message : SliceError → String
  | .notAnObject kind => "Slice body must be a JSON object, got " ++ kind
  | .idTooLong => Number.tooLongToWrite

/-- The objects in a section; what is no sequence holds none. -/
def entries : Value → List (Table String Value)
  | .list items | .tuple items =>
      items.filterMap fun
        | .dict fields => some fields
        | _ => none
  | _ => []

/-- An identifier as text; null stays null. -/
def idOf? : Value → Option Value
  | .null => some .null
  | v => v.text?.map .str

/-- The level that a value names, or null. -/
def levelOf (v : Value) : Value :=
  match Level.ofValue? v with
  | some l => .member (.level l)
  | none => .null

/-- A node from the fields of an object; none if its identifier is too long. -/
def Node.ofFields? (fields : Table String Value) : Option Node :=
  (idOf? (Value.field fields "id")).map fun id =>
    { id := id
      level := levelOf (Value.field fields "level")
      displayName := Value.field fields "displayName"
      cost := Value.field fields "cost"
      complexity := Value.field fields "complexity"
      hotspot := Value.field fields "hotspot"
      packageName := Value.field fields "packageName"
      className := Value.field fields "className"
      methodName := Value.field fields "methodName"
      signature := Value.field fields "signature" }

/-- An edge from the fields of an object; none if an identifier is too long. -/
def Edge.ofFields? (fields : Table String Value) : Option Edge := do
  let id ← idOf? (Value.field fields "id")
  let source ← idOf? (Value.field fields "sourceId")
  let target ← idOf? (Value.field fields "targetId")
  return ⟨id, source, target, Value.field fields "type", Value.field fields "weight"⟩

/-- Read a slice from a document. -/
def Slice.ofDocument : Value → Except SliceError Slice
  | .dict fields =>
      match (entries (Value.field fields "nodes")).mapM Node.ofFields?,
          (entries (Value.field fields "edges")).mapM Edge.ofFields? with
      | some nodes, some edges => .ok ⟨nodes, edges⟩
      | _, _ => .error .idTooLong
  | v => .error (.notAnObject v.kind)

/-! ## Writing -/

/-- The fields of a node that may be left out. -/
def optionalFields : List String :=
  ["packageName", "className", "methodName", "signature"]

/-- The fields without the optional ones that are null. -/
def withoutNulls (fields : Table String Value) : Table String Value :=
  fields.filter fun f => !(optionalFields.contains f.1 && f.2 == .null)

/-- A node as a document, its null fields left out or not. -/
def Node.documentWith (omitNulls : Bool) (n : Node) : Value :=
  if omitNulls then .dict (withoutNulls n.fields) else n.document

/-- A slice as a document, null fields of its nodes left out or not. -/
def Slice.documentWith (omitNulls : Bool) (s : Slice) : Value :=
  .dict
    [("nodes", .list (s.nodes.map (Node.documentWith omitNulls))),
     ("edges", .list (s.edges.map Edge.document))]

/-- A slice as a document with all its fields. -/
def Slice.document (s : Slice) : Value := s.documentWith false

end CodeAtlas.Graph
