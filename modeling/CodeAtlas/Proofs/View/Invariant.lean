/-
CodeAtlas.Proofs.View.Invariant — no call leaves a dangling edge in a view.

`View.WellFormed` is what whoever draws a view relies on: every edge is kept
under its own identifier, both of its ends are nodes of the view, and no
identifier occurs twice. It is not part of the type of views, since an edge can
be put in by `putEdge` whatever its ends are; it is an invariant of the calls.

A `View.Call` is anything that can be asked of a view, `View.call` answers it and
`View.run` answers one after the other. A call that is refused is a call like
any other: the run goes on with the view that the refusal left. Adding an edge
leaves it alone, and a sync that breaks off leaves the nodes that were added
before.

Every operation has a preservation lemma of its own; `WellFormed.call` is their
case distinction, and `WellFormed.run` the induction over a run.

The operations are those of `RenderableGraph`, and `sync` of `ViewSynchronizer`.
-/
import CodeAtlas.Proofs.Table
import CodeAtlas.View.Sync

namespace CodeAtlas.View

open CodeAtlas.Graph (Node Edge Slice)

/-! ## Calls -/

/-- What can be asked of a view. -/
inductive Call where
  | addNode (id : Value) (mark : NodeMark)
  | addEdge (edge : EdgeMark)
  | clear
  | sync (size : Value) (slice : Slice)

/-- The view after a call, and why the call was refused, if it was. -/
def call (room : Option Nat) (v : View) : Call → View × Option ViewError
  | .addNode id mark =>
      match v.addNodeWithin room id mark with
      | .ok w => (w, none)
      | .error e => (v, some e)
  | .addEdge edge =>
      match v.addEdge edge with
      | .ok w => (w, none)
      | .error e => (v, some e)
  | .clear => (v.clear, none)
  | .sync size slice =>
      match v.syncWithin room size slice with
      | (w, .ok _) => (w, none)
      | (w, .error e) => (w, some e)

def run (room : Option Nat) (v : View) (calls : List Call) : View :=
  calls.foldl (fun v c => (v.call room c).1) v

/-! ## The invariant -/

/-- Every edge is kept under its own identifier and has both of its ends in the
view, and no identifier occurs twice. -/
structure WellFormed (v : View) : Prop where
  edge_key : ∀ p ∈ v.edges, p.1 = p.2.id
  source_mem : ∀ p ∈ v.edges, p.2.source ∈ v.nodes.keys
  target_mem : ∀ p ∈ v.edges, p.2.target ∈ v.nodes.keys
  nodes_nodup : v.nodes.keys.Nodup
  edges_nodup : v.edges.keys.Nodup

theorem hasNode_iff (v : View) (id : Value) : v.hasNode id = true ↔ id ∈ v.nodes.keys :=
  Table.contains_iff_mem_keys v.nodes id

/-- Both ends of an edge are in the view. -/
theorem hasEnds_iff (v : View) (e : Edge) :
    v.hasEnds e = true ↔ e.source ∈ v.nodes.keys ∧ e.target ∈ v.nodes.keys := by
  rw [hasEnds, Bool.and_eq_true, hasNode_iff, hasNode_iff]

namespace WellFormed

/-- An empty view is well formed. -/
theorem empty (id : Value) : (View.empty id).WellFormed where
  edge_key := by simp [View.empty]
  source_mem := by simp [View.empty]
  target_mem := by simp [View.empty]
  nodes_nodup := List.nodup_nil
  edges_nodup := List.nodup_nil

theorem clear (v : View) : v.clear.WellFormed := empty v.id

/-- More nodes do no harm: the ends that were there stay. -/
theorem addNode {v : View} (h : v.WellFormed) (id : Value) (mark : NodeMark) :
    (v.addNode id mark).WellFormed where
  edge_key := h.edge_key
  source_mem p hp := (Table.mem_keys_insert ..).mpr (Or.inr (h.source_mem p hp))
  target_mem p hp := (Table.mem_keys_insert ..).mpr (Or.inr (h.target_mem p hp))
  nodes_nodup := Table.nodup_insert h.nodes_nodup id mark
  edges_nodup := h.edges_nodup

/-- Putting in an edge keeps a view well formed, if its ends are there. -/
theorem putEdge {v : View} (h : v.WellFormed) {edge : EdgeMark}
    (hs : edge.source ∈ v.nodes.keys) (ht : edge.target ∈ v.nodes.keys) :
    (v.putEdge edge).WellFormed where
  edge_key p hp := by
    rcases Table.mem_insert hp with rfl | hp
    · rfl
    · exact h.edge_key p hp
  source_mem p hp := by
    rcases Table.mem_insert hp with rfl | hp
    · exact hs
    · exact h.source_mem p hp
  target_mem p hp := by
    rcases Table.mem_insert hp with rfl | hp
    · exact ht
    · exact h.target_mem p hp
  nodes_nodup := h.nodes_nodup
  edges_nodup := Table.nodup_insert h.edges_nodup edge.id edge

end WellFormed

/-! ## Adding an edge -/

/-- An edge is refused exactly if an end is missing, the source being looked at
first. -/
theorem addEdge_cases (v : View) (edge : EdgeMark) :
    (edge.source ∉ v.nodes.keys ∧ v.addEdge edge = .error (.sourceMissing edge.source)) ∨
    (edge.source ∈ v.nodes.keys ∧ edge.target ∉ v.nodes.keys ∧
      v.addEdge edge = .error (.targetMissing edge.target)) ∨
    (edge.source ∈ v.nodes.keys ∧ edge.target ∈ v.nodes.keys ∧
      v.addEdge edge = .ok (v.putEdge edge)) := by
  by_cases hs : edge.source ∈ v.nodes.keys
  · by_cases ht : edge.target ∈ v.nodes.keys
    · refine Or.inr (Or.inr ⟨hs, ht, ?_⟩)
      rw [← hasNode_iff] at hs ht
      simp [View.addEdge, hs, ht]
    · refine Or.inr (Or.inl ⟨hs, ht, ?_⟩)
      rw [← hasNode_iff] at hs ht
      simp [View.addEdge, hs, ht]
  · refine Or.inl ⟨hs, ?_⟩
    rw [← hasNode_iff] at hs
    simp [View.addEdge, hs]

/-- A refused edge leaves the view as it was. -/
theorem call_addEdge_refused {room : Option Nat} {v : View} {edge : EdgeMark} {e : ViewError}
    (h : (v.call room (.addEdge edge)).2 = some e) :
    (v.call room (.addEdge edge)).1 = v := by
  simp only [call] at h ⊢
  split at h
  · simp at h
  · rfl

/-! ## Preservation -/

namespace WellFormed

/-- Adding a node keeps a view well formed. -/
theorem addNodeWithin {v w : View} (h : v.WellFormed) {room : Option Nat} {id : Value}
    {mark : NodeMark} (hw : v.addNodeWithin room id mark = .ok w) : w.WellFormed := by
  unfold View.addNodeWithin at hw
  split at hw
  · cases hw
    exact h.addNode id mark
  · cases hw

/-- Adding an edge keeps a view well formed, since one without its ends is refused. -/
theorem addEdge {v w : View} (h : v.WellFormed) {edge : EdgeMark}
    (hw : v.addEdge edge = .ok w) : w.WellFormed := by
  obtain ⟨_, he⟩ | ⟨_, _, he⟩ | ⟨hs, ht, he⟩ := addEdge_cases v edge
  · rw [he] at hw; cases hw
  · rw [he] at hw; cases hw
  · rw [he] at hw; cases hw
    exact h.putEdge hs ht

/-- Wherever the view breaks off among the nodes of a slice. -/
theorem syncNodesWithin {v : View} (h : v.WellFormed) (room : Option Nat) (size : Value)
    (nodes : List Node) : (v.syncNodesWithin room size nodes).1.WellFormed := by
  induction nodes generalizing v with
  | nil => exact h
  | cons n nodes ih =>
    rw [View.syncNodesWithin]
    split
    · rename_i w hw
      exact ih (h.addNodeWithin hw)
    · exact h

/-- The edges of a slice keep a view well formed. -/
theorem syncEdges {v : View} (h : v.WellFormed) (edges : List Edge) :
    (v.syncEdges edges).WellFormed := by
  induction edges generalizing v with
  | nil => exact h
  | cons e edges ih =>
    by_cases he : v.hasEnds e = true
    · have hends := (hasEnds_iff v e).mp he
      have hput : (v.putEdge (edgeMark e)).WellFormed := h.putEdge hends.1 hends.2
      simpa [View.syncEdges, he] using ih hput
    · simpa [View.syncEdges, he] using ih h

/-- A slice keeps a view well formed, also where the view breaks off inside it. -/
theorem syncWithin {v : View} (h : v.WellFormed) (room : Option Nat) (size : Value)
    (slice : Slice) : (v.syncWithin room size slice).1.WellFormed := by
  have hn := h.syncNodesWithin room size slice.nodes
  unfold View.syncWithin
  split
  · rename_i w _ hw
    rw [hw] at hn
    exact hn
  · rename_i w hw
    rw [hw] at hn
    exact hn.syncEdges slice.edges

/-- What one call keeps, whether it is refused or not. -/
theorem call {room : Option Nat} {v : View} (h : v.WellFormed) (c : Call) :
    (v.call room c).1.WellFormed := by
  cases c with
  | addNode id mark =>
    simp only [View.call]
    split
    · rename_i w hw
      exact h.addNodeWithin hw
    · exact h
  | addEdge edge =>
    simp only [View.call]
    split
    · rename_i w hw
      exact h.addEdge hw
    · exact h
  | clear => exact WellFormed.clear v
  | sync size slice =>
    have hs := h.syncWithin room size slice
    simp only [View.call]
    split
    · rename_i w _ hw
      rw [hw] at hs
      exact hs
    · rename_i w _ hw
      rw [hw] at hs
      exact hs

theorem run {room : Option Nat} (calls : List Call) {v : View} (h : v.WellFormed) :
    (v.run room calls).WellFormed := by
  induction calls generalizing v with
  | nil => exact h
  | cons c calls ih => exact ih (h.call c)

end WellFormed

/-- **No dangling edge.** However an empty view is used, and whichever of the
calls are refused, it stays well formed. An edge is refused exactly if one of
its ends is no node of the view, for that reason, and the view is then as it
was. -/
theorem wellFormed_run_and_addEdge_refused_iff (room : Option Nat) (id : Value)
    (calls : List Call) :
    ((View.empty id).run room calls).WellFormed ∧
    ∀ (v : View) (edge : EdgeMark),
      ((∃ e, (v.call room (.addEdge edge)).2 = some e) ↔
        edge.source ∉ v.nodes.keys ∨ edge.target ∉ v.nodes.keys) ∧
      (∀ e, (v.call room (.addEdge edge)).2 = some e →
        (e = .sourceMissing edge.source ∨ e = .targetMissing edge.target) ∧
        (v.call room (.addEdge edge)).1 = v) := by
  refine ⟨(WellFormed.empty id).run calls, fun v edge => ⟨?_, fun e he => ?_⟩⟩
  · obtain ⟨hs, he⟩ | ⟨_, ht, he⟩ | ⟨hs, ht, he⟩ := addEdge_cases v edge
    · simp [call, he, hs]
    · simp [call, he, ht]
    · simp [call, he, hs, ht]
  · refine ⟨?_, call_addEdge_refused he⟩
    obtain ⟨_, hc⟩ | ⟨_, _, hc⟩ | ⟨_, _, hc⟩ := addEdge_cases v edge
    · simp only [call, hc, Option.some.injEq] at he
      exact Or.inl he.symm
    · simp only [call, hc, Option.some.injEq] at he
      exact Or.inr he.symm
    · simp [call, hc] at he

end CodeAtlas.View
