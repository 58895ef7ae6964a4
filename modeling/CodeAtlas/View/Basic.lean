/-
CodeAtlas.View.Basic — the graph that is being shown.

A view keeps its nodes and edges in tables, by their identifiers, in the order
in which they came. Adding a node that is present changes how it looks and not
its place. An edge can only be added while both of its ends are present, so a
view never holds a dangling edge.

A plain view takes every node. Its users may put a view of their own in its place, one
that passes nodes on to a renderer and fails when the renderer is gone. `addNodeWithin`
stands for such a view, which fails once it holds some number of nodes: the number is
nothing that views know of, but says at which node the failure comes.

In the program a view is a `RenderableGraph`, and it holds a `NodeDisplay` or an
`EdgeDisplay` for each identifier.
-/
import CodeAtlas.Graph.Record

namespace CodeAtlas

/-- How a node looks. -/
structure NodeMark where
  label : Value
  color : Value
  size : Value
  severity : Value := .null
  deriving DecidableEq

/-- Where an edge goes, and how it is drawn: the relation it stands for, or
null. -/
structure EdgeMark where
  id : Value
  source : Value
  target : Value
  relation : Value := .null
  deriving DecidableEq

/-- The fields of a node's mark in a document. -/
def NodeMark.fields (m : NodeMark) : List (String × Value) :=
  [("label", m.label), ("color", m.color), ("size", m.size),
   ("severity", m.severity)]

def NodeMark.document (m : NodeMark) : Value := .dict m.fields

/-- A node's mark with its named fields, unless an integer in it is too long. -/
def NodeMark.text? (m : NodeMark) : Option String :=
  Graph.recordText? "NodeDisplay" m.fields

def EdgeMark.document (e : EdgeMark) : Value :=
  .dict
    [("id", e.id), ("source", e.source), ("target", e.target),
     ("type", e.relation)]

/-- An edge's mark with its named fields, unless an integer in it is too
long. -/
def EdgeMark.text? (e : EdgeMark) : Option String :=
  Graph.recordText? "EdgeDisplay"
    [("edge_id", e.id), ("source_id", e.source), ("target_id", e.target),
     ("edge_type", e.relation)]

/-- Nodes and edges that are shown, by identifier. -/
structure View where
  id : Value
  nodes : Table Value NodeMark
  edges : Table Value EdgeMark
  deriving DecidableEq

/-- Why a view refuses a node or an edge. -/
inductive ViewError where
  | sourceMissing (id : Value)
  | targetMissing (id : Value)
  /-- A view of its user's own broke off. -/
  | noRoom

def ViewError.message : ViewError → String
  | .sourceMissing id => "Source node " ++ String.ofList id.text ++ " not in view"
  | .targetMissing id => "Target node " ++ String.ofList id.text ++ " not in view"
  | .noRoom => "renderer gone"

namespace View

/-- A view that shows nothing. -/
def empty (id : Value) : View := ⟨id, [], []⟩

def hasNode (v : View) (id : Value) : Bool := v.nodes.contains id

def hasEdge (v : View) (id : Value) : Bool := v.edges.contains id

def getNode? (v : View) (id : Value) : Option NodeMark := v.nodes.get? id

def getEdge? (v : View) (id : Value) : Option EdgeMark := v.edges.get? id

/-- Add a node, or change how it looks. -/
def addNode (v : View) (id : Value) (mark : NodeMark) : View :=
  { v with nodes := v.nodes.insert id mark }

/-- The view takes one more node: a plain view (`none`) does, and a view that is to break
off after some nodes does as long as it has fewer. -/
def hasRoom (room : Option Nat) (v : View) : Bool :=
  match room with
  | none => true
  | some n => v.nodes.length < n

/-- Add a node to a view that may break off. -/
def addNodeWithin (room : Option Nat) (v : View) (id : Value) (mark : NodeMark) :
    Except ViewError View :=
  if v.hasRoom room then .ok (v.addNode id mark) else .error .noRoom

/-- Put an edge in, under its identifier, whatever its ends are. -/
def putEdge (v : View) (edge : EdgeMark) : View :=
  { v with edges := v.edges.insert edge.id edge }

/-- Add an edge whose ends are both present. -/
def addEdge (v : View) (edge : EdgeMark) : Except ViewError View :=
  if !v.hasNode edge.source then .error (.sourceMissing edge.source)
  else if !v.hasNode edge.target then .error (.targetMissing edge.target)
  else .ok (v.putEdge edge)

/-- Remove everything. -/
def clear (v : View) : View := { v with nodes := [], edges := [] }

/-- Texts in the order of their code points, after null. -/
def idLe : Value → Value → Bool
  | .str a, .str b => decide (a ≤ b)
  | .str _, _ => false
  | _, _ => true

/-- The identifiers of the edges, sorted. -/
def sortedEdgeIds (v : View) : List Value := v.edges.keys.mergeSort idLe

/-- A view in one line, unless an integer in its name is too long. -/
def text? (v : View) : Option String :=
  v.id.text?.map fun id =>
    "RenderableGraph(" ++ id ++ ", nodes=" ++ toString v.nodes.length ++ ", edges="
      ++ toString v.edges.length ++ ")"

/-- A view as a document. -/
def document (v : View) : Value :=
  .dict
    [("id", v.id),
     ("nodes", .list (v.nodes.map fun (id, m) => .dict (("id", id) :: m.fields))),
     ("edges", .list (v.edges.map fun (_, e) => e.document))]

end View

end CodeAtlas
