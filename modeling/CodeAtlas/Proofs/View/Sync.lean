/-
CodeAtlas.Proofs.View.Sync — what a sync does to the tables of a view.

A sync is two runs of insertions. The nodes of the slice are inserted into the
table of nodes, all of them (`nodes_sync`); of its edges those are inserted whose
ends are in the view by then, and whether they are does not change while edges go
in (`edges_sync`). Which ends are in the view by then is a matter of identifiers
alone: those of the view and those of the slice (`hasEnds_syncNodes_iff`).
-/
import CodeAtlas.Proofs.View.Invariant

namespace CodeAtlas.View

open CodeAtlas.Graph (Node Edge Slice)

/-- The nodes go into the table one after the other. -/
theorem nodes_syncNodes (size : Value) (v : View) (nodes : List Node) :
    (v.syncNodes size nodes).nodes
      = nodes.foldl (fun t n => t.insert n.id (nodeMark size n)) v.nodes := by
  induction nodes generalizing v with
  | nil => rfl
  | cons n nodes ih => exact ih (v.addNode n.id (nodeMark size n))

theorem edges_syncNodes (size : Value) (v : View) (nodes : List Node) :
    (v.syncNodes size nodes).edges = v.edges := by
  induction nodes generalizing v with
  | nil => rfl
  | cons n nodes ih => exact ih (v.addNode n.id (nodeMark size n))

/-- A node of the view was there or came with the slice. -/
theorem mem_keys_syncNodes (size : Value) (v : View) (nodes : List Node) (id : Value) :
    id ∈ (v.syncNodes size nodes).nodes.keys
      ↔ id ∈ v.nodes.keys ∨ id ∈ nodes.map (·.id) := by
  induction nodes generalizing v with
  | nil => simp [syncNodes]
  | cons n nodes ih =>
    have hstep := ih (v.addNode n.id (nodeMark size n))
    simp only [addNode, Table.mem_keys_insert] at hstep
    rw [List.map_cons, List.mem_cons, or_left_comm, ← or_assoc]
    exact hstep

/-- Each end of an edge was there or came with the slice. -/
theorem hasEnds_syncNodes_iff (size : Value) (v : View) (nodes : List Node) (e : Edge) :
    (v.syncNodes size nodes).hasEnds e = true ↔
      (e.source ∈ v.nodes.keys ∨ e.source ∈ nodes.map (·.id)) ∧
      (e.target ∈ v.nodes.keys ∨ e.target ∈ nodes.map (·.id)) := by
  rw [hasEnds_iff, mem_keys_syncNodes, mem_keys_syncNodes]

theorem nodes_syncEdges (v : View) (edges : List Edge) :
    (v.syncEdges edges).nodes = v.nodes := by
  induction edges generalizing v with
  | nil => rfl
  | cons e edges ih =>
    rw [syncEdges, List.foldl_cons, ← syncEdges, ih]
    split <;> rfl

/-- An edge that goes in changes no node, so the ends that are looked for stay the
same through all edges of a slice. -/
theorem edges_syncEdges (v : View) (edges : List Edge) :
    (v.syncEdges edges).edges
      = (edges.filter v.hasEnds).foldl (fun t e => t.insert e.id (edgeMark e)) v.edges := by
  induction edges generalizing v with
  | nil => rfl
  | cons e edges ih =>
    rw [syncEdges, List.foldl_cons, ← syncEdges, ih]
    by_cases he : v.hasEnds e = true
    · have hsame : (v.putEdge (edgeMark e)).hasEnds = v.hasEnds := rfl
      rw [if_pos he, List.filter_cons_of_pos he, hsame]
      rfl
    · rw [if_neg he, List.filter_cons_of_neg he]

/-- The nodes of a view after a slice. -/
theorem nodes_sync (size : Value) (v : View) (s : Slice) :
    (v.sync size s).1.nodes
      = s.nodes.foldl (fun t n => t.insert n.id (nodeMark size n)) v.nodes := by
  rw [sync, nodes_syncEdges, nodes_syncNodes]

/-- The edges of a view after a slice: those whose ends are there go in, one after the other. -/
theorem edges_sync (size : Value) (v : View) (s : Slice) :
    (v.sync size s).1.edges
      = (s.edges.filter (v.syncNodes size s.nodes).hasEnds).foldl
          (fun t e => t.insert e.id (edgeMark e)) v.edges := by
  rw [sync, edges_syncEdges, edges_syncNodes]

end CodeAtlas.View
