/-
CodeAtlas.View.Sync — bringing a slice into a view.

Nodes come first, then edges, each in the order of the slice. Every node is
added or overwritten. An edge goes in only if both of its ends are in the view
by then; otherwise it is reported as skipped and nothing else happens.

`sync` is the whole effect on a plain view. `syncWithin` is the effect on a view that may
break off (`View.addNodeWithin`): it stops at the first node that fails and keeps what was
added before.

In the program this is `sync` of `ViewSynchronizer`, with its `SyncReport`.
-/
import CodeAtlas.View.Basic
import CodeAtlas.Graph.Slice

namespace CodeAtlas

open CodeAtlas.Graph (Node Edge Slice Relation Severity)

/-- What became of the nodes and edges of a slice, by identifier. -/
structure SyncReport where
  nodesSynced : List Value
  edgesAdded : List Value
  skippedEdges : List Value
  deriving DecidableEq

/-- How a node is shown: its name, and the colour and label of its cost. -/
def nodeMark (size : Value) (n : Node) : NodeMark :=
  { label := n.displayName
    color := .str (Severity.ofCost n.cost).color
    size := size
    severity := .str (Severity.ofCost n.cost).label }

/-- How an edge is shown: its ends, and the relation that its tag names. -/
def edgeMark (e : Edge) : EdgeMark :=
  { id := e.id
    source := e.source
    target := e.target
    relation :=
      match Relation.ofValue? e.tag with
      | some r => .str r.label
      | none => .null }

namespace View

/-- Both ends of an edge are in the view. -/
def hasEnds (v : View) (e : Edge) : Bool := v.hasNode e.source && v.hasNode e.target

/-- Add the nodes of a slice. -/
def syncNodes (size : Value) (v : View) (nodes : List Node) : View :=
  nodes.foldl (fun v n => v.addNode n.id (nodeMark size n)) v

/-- Add edges, each if its ends are present. -/
def syncEdges (v : View) (edges : List Edge) : View :=
  edges.foldl (fun v e => if v.hasEnds e then v.putEdge (edgeMark e) else v) v

/-- What is reported of a slice whose nodes have been added to the view. -/
def reportOf (v : View) (s : Slice) : SyncReport :=
  { nodesSynced := s.nodeIds
    edgesAdded := (s.edges.filter v.hasEnds).map (·.id)
    skippedEdges := (s.edges.filter fun e => !v.hasEnds e).map (·.id) }

/-- Bring a slice into a view. -/
def sync (size : Value) (v : View) (s : Slice) : View × SyncReport :=
  let v := v.syncNodes size s.nodes
  (v.syncEdges s.edges, v.reportOf s)

/-- Add nodes, up to the first at which the view breaks off. -/
def syncNodesWithin (room : Option Nat) (size : Value) :
    View → List Node → View × Option ViewError
  | v, [] => (v, none)
  | v, n :: ns =>
      match v.addNodeWithin room n.id (nodeMark size n) with
      | .ok v => syncNodesWithin room size v ns
      | .error e => (v, some e)

/-- Bring a slice into a view that may break off. -/
def syncWithin (room : Option Nat) (size : Value) (v : View) (s : Slice) :
    View × Except ViewError SyncReport :=
  match v.syncNodesWithin room size s.nodes with
  | (v, some e) => (v, .error e)
  | (v, none) => (v.syncEdges s.edges, .ok (v.reportOf s))

end View

end CodeAtlas
