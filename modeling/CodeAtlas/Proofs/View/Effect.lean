/-
CodeAtlas.Proofs.View.Effect — all that one sync does.

A sync is said here step by step: each node is added and noted in the report, then each
edge is looked at, added or not, and noted as added or as skipped. A step may fail, since a
view may refuse an edge; none does (`syncStepwise_eq`).

`sync_overwrites_in_place_and_appends` then describes view and report by the view before and
the slice alone. What was there keeps its place; what is new comes behind it, in the order in
which it came first; and everything that the slice names looks as it came last.

A slice that has been brought in can be brought in again: view and report stay the same
(`resync_changes_nothing`).

The operation is `sync` of `ViewSynchronizer`.
-/
import CodeAtlas.Proofs.View.Sync

namespace CodeAtlas.View

open CodeAtlas.Graph (Node Edge Slice)

/-! ## Syncing with room for everything -/

/-- A view that never breaks off takes all nodes. -/
theorem syncNodesWithin_none (size : Value) (v : View) (nodes : List Node) :
    v.syncNodesWithin none size nodes = (v.syncNodes size nodes, none) := by
  induction nodes generalizing v with
  | nil => rfl
  | cons n nodes ih =>
    rw [syncNodesWithin]
    exact ih (v.addNode n.id (nodeMark size n))

/-- And all of a slice. -/
theorem syncWithin_none (size : Value) (v : View) (s : Slice) :
    v.syncWithin none size s = ((v.sync size s).1, .ok (v.sync size s).2) := by
  simp [syncWithin, syncNodesWithin_none, sync]

/-- A view keeps its identifier. -/
theorem id_sync (size : Value) (v : View) (s : Slice) : (v.sync size s).1.id = v.id := by
  have hnodes : ∀ (nodes : List Node) (w : View), (w.syncNodes size nodes).id = w.id := by
    intro nodes
    induction nodes with
    | nil => intro w; rfl
    | cons n nodes ih => intro w; exact ih (w.addNode n.id (nodeMark size n))
  have hedges : ∀ (edges : List Edge) (w : View), (w.syncEdges edges).id = w.id := by
    intro edges
    induction edges with
    | nil => intro w; rfl
    | cons e edges ih =>
      intro w
      rw [syncEdges, List.foldl_cons, ← syncEdges, ih]
      split <;> rfl
  rw [sync, hedges, hnodes]

/-! ## Step by step -/

def takeNode (size : Value) (p : View × SyncReport) (n : Node) : View × SyncReport :=
  (p.1.addNode n.id (nodeMark size n), { p.2 with nodesSynced := p.2.nodesSynced ++ [n.id] })

/-- Add an edge if its ends are there, and note what became of it. -/
def takeEdge (p : View × SyncReport) (e : Edge) : Except ViewError (View × SyncReport) :=
  if p.1.hasEnds e then do
    let w ← p.1.addEdge (edgeMark e)
    return (w, { p.2 with edgesAdded := p.2.edgesAdded ++ [e.id] })
  else return (p.1, { p.2 with skippedEdges := p.2.skippedEdges ++ [e.id] })

/-- Bring a slice into a view, one step after the other. -/
def syncStepwise (size : Value) (v : View) (s : Slice) :
    Except ViewError (View × SyncReport) :=
  s.edges.foldlM takeEdge (s.nodes.foldl (takeNode size) (v, ⟨[], [], []⟩))

/-- Node by node, every node is taken and noted. -/
theorem foldl_takeNode (size : Value) (nodes : List Node) (v : View) (r : SyncReport) :
    nodes.foldl (takeNode size) (v, r)
      = (v.syncNodes size nodes,
          { r with nodesSynced := r.nodesSynced ++ nodes.map (·.id) }) := by
  induction nodes generalizing v r with
  | nil => simp [syncNodes]
  | cons n nodes ih =>
    rw [List.foldl_cons, takeNode, ih]
    simp [syncNodes]

/-- An edge that is looked at is never refused. -/
theorem takeEdge_eq (v : View) (r : SyncReport) (e : Edge) :
    takeEdge (v, r) e
      = .ok (if v.hasEnds e then
          (v.putEdge (edgeMark e), { r with edgesAdded := r.edgesAdded ++ [e.id] })
        else (v, { r with skippedEdges := r.skippedEdges ++ [e.id] })) := by
  unfold takeEdge
  by_cases hends : v.hasEnds e = true
  · obtain ⟨hs, ht⟩ := (hasEnds_iff v e).mp hends
    rw [if_pos hends, if_pos hends]
    obtain ⟨hno, -⟩ | ⟨-, hno, -⟩ | ⟨-, -, hadd⟩ := addEdge_cases v (edgeMark e)
    · exact absurd hs hno
    · exact absurd ht hno
    · rw [hadd]
      rfl
  · rw [if_neg hends, if_neg hends]
    rfl

/-- Adding edges does not change which ends are there, so the report sorts the edges by
the ends that were there before the first of them. -/
theorem foldlM_takeEdge (edges : List Edge) (v : View) (r : SyncReport) :
    edges.foldlM takeEdge (v, r)
      = .ok (v.syncEdges edges,
          { r with
            edgesAdded := r.edgesAdded ++ (edges.filter v.hasEnds).map (·.id)
            skippedEdges :=
              r.skippedEdges ++ (edges.filter fun e => !v.hasEnds e).map (·.id) }) := by
  induction edges generalizing v r with
  | nil => simp [syncEdges, pure, Except.pure]
  | cons e edges ih =>
    rw [List.foldlM_cons, takeEdge_eq]
    show edges.foldlM takeEdge _ = _
    by_cases hends : v.hasEnds e = true
    · have hsame : (v.putEdge (edgeMark e)).hasEnds = v.hasEnds := rfl
      rw [if_pos hends, ih, hsame]
      simp [syncEdges, hends]
    · rw [if_neg hends, ih]
      simp [syncEdges, hends]

/-- Step by step or all at once is the same, and no step fails. -/
theorem syncStepwise_eq (size : Value) (v : View) (s : Slice) :
    v.syncStepwise size s = .ok (v.sync size s) := by
  rw [syncStepwise, foldl_takeNode, foldlM_takeEdge]
  rfl

/-! ## The effect -/

/-- The view or the slice has a node with the identifier. -/
def knows (v : View) (s : Slice) (id : Value) : Bool :=
  v.nodes.keys.contains id || s.nodeIds.contains id

def knowsEnds (v : View) (s : Slice) (e : Edge) : Bool :=
  v.knows s e.source && v.knows s e.target

/-- An edge is taken if the view or the slice has its ends. -/
theorem hasEnds_eq_knowsEnds (size : Value) (v : View) (s : Slice) :
    (v.syncNodes size s.nodes).hasEnds = v.knowsEnds s := by
  funext e
  rw [Bool.eq_iff_iff, hasEnds_syncNodes_iff]
  simp [knowsEnds, knows, Slice.nodeIds]

/-- The keys of a table after items were added: those that were there, and behind them the
new ones, each where it came first. -/
def keysAfter {α : Type} (t : Table Value α) (ids : List Value) : List Value :=
  t.keys ++ (ids.filter (· ∉ t.keys)).eraseDups

/-- **The effect of a sync.** No step of a sync fails. Nodes that were in the view keep
their places, and the new ones of the slice come behind them, each where it came first; a
node of the slice looks as its last occurrence says, and every other node as it did. The same
holds of the edges, of which those count whose ends are nodes of the view or of the slice. The
report has the nodes, the edges that count and the others, in the order of the slice, as
often as they occur there. -/
theorem sync_overwrites_in_place_and_appends (size : Value) (v : View) (s : Slice) :
    let admitted := s.edges.filter (v.knowsEnds s)
    let dangling := s.edges.filter fun e => !v.knowsEnds s e
    ∃ w report,
      v.syncWithin none size s = (w, .ok report) ∧
      v.syncStepwise size s = .ok (w, report) ∧
      w.id = v.id ∧
      w.nodes.keys = keysAfter v.nodes s.nodeIds ∧
      (∀ id, w.getNode? id
        = ((s.nodes.filter fun n => n.id = id).getLast?.map (nodeMark size)).or
            (v.getNode? id)) ∧
      w.edges.keys = keysAfter v.edges (admitted.map (·.id)) ∧
      (∀ id, w.getEdge? id
        = ((admitted.filter fun e => e.id = id).getLast?.map edgeMark).or (v.getEdge? id)) ∧
      report.nodesSynced = s.nodeIds ∧
      report.edgesAdded = admitted.map (·.id) ∧
      report.skippedEdges = dangling.map (·.id) := by
  intro admitted dangling
  have hends := hasEnds_eq_knowsEnds size v s
  have hreport : (v.sync size s).2
      = ⟨s.nodeIds, admitted.map (·.id), dangling.map (·.id)⟩ := by
    show (v.syncNodes size s.nodes).reportOf s = _
    rw [reportOf, hends]
  refine ⟨(v.sync size s).1, (v.sync size s).2, syncWithin_none size v s,
    syncStepwise_eq size v s, id_sync size v s, ?_, ?_, ?_, ?_, ?_, ?_, ?_⟩
  · rw [nodes_sync]
    exact Table.keys_foldl_insert (·.id) (nodeMark size) s.nodes v.nodes
  · intro id
    rw [getNode?, nodes_sync]
    exact Table.get?_foldl_insert (·.id) (nodeMark size) id s.nodes v.nodes
  · rw [edges_sync, hends]
    exact Table.keys_foldl_insert (·.id) edgeMark admitted v.edges
  · intro id
    rw [getEdge?, edges_sync, hends]
    exact Table.get?_foldl_insert (·.id) edgeMark id admitted v.edges
  · rw [hreport]
  · rw [hreport]
  · rw [hreport]

/-! ## Once more -/

/-- A slice adds no node the second time, so the same ends are there for its edges. -/
theorem hasEnds_resync (size : Value) (v : View) (s : Slice) :
    ((v.sync size s).1.syncNodes size s.nodes).hasEnds
      = (v.syncNodes size s.nodes).hasEnds := by
  have hkeys : ∀ id, id ∈ (v.sync size s).1.nodes.keys
      ↔ id ∈ v.nodes.keys ∨ id ∈ s.nodes.map (·.id) := by
    intro id
    rw [nodes_sync, ← nodes_syncNodes, mem_keys_syncNodes]
  funext e
  rw [Bool.eq_iff_iff, hasEnds_syncNodes_iff, hasEnds_syncNodes_iff, hkeys, hkeys, or_assoc,
    or_self, or_assoc, or_self]

/-- The same slice again changes no node. -/
theorem nodes_resync (size : Value) (v : View) (s : Slice) :
    ((v.sync size s).1.sync size s).1.nodes = (v.sync size s).1.nodes := by
  rw [nodes_sync, nodes_sync]
  exact Table.foldl_insert_again (·.id) (nodeMark size) s.nodes v.nodes

/-- The same slice again changes no edge. -/
theorem edges_resync (size : Value) (v : View) (s : Slice) :
    ((v.sync size s).1.sync size s).1.edges = (v.sync size s).1.edges := by
  rw [edges_sync, hasEnds_resync, edges_sync]
  exact Table.foldl_insert_again (·.id) edgeMark _ v.edges

/-- And the same is reported. -/
theorem report_resync (size : Value) (v : View) (s : Slice) :
    ((v.sync size s).1.sync size s).2 = (v.sync size s).2 := by
  show ((v.sync size s).1.syncNodes size s.nodes).reportOf s
    = (v.syncNodes size s.nodes).reportOf s
  rw [reportOf, hasEnds_resync, reportOf]

/-- **Once more.** A slice that is brought into a view a second time leaves the view as it is,
the order of nodes and edges included, and is reported as the first time. No step fails, the
first time or the second. -/
theorem resync_changes_nothing (size : Value) (v : View) (s : Slice) :
    ∃ w report,
      v.syncWithin none size s = (w, .ok report) ∧
      v.syncStepwise size s = .ok (w, report) ∧
      w.syncWithin none size s = (w, .ok report) ∧
      w.syncStepwise size s = .ok (w, report) := by
  have hview : ((v.sync size s).1.sync size s).1 = (v.sync size s).1 := by
    have hid := id_sync size (v.sync size s).1 s
    have hnodes := nodes_resync size v s
    have hedges := edges_resync size v s
    generalize ((v.sync size s).1.sync size s).1 = w at hid hnodes hedges ⊢
    cases w
    rw [View.mk.injEq]
    exact ⟨hid, hnodes, hedges⟩
  have hagain : (v.sync size s).1.sync size s = v.sync size s :=
    Prod.ext hview (report_resync size v s)
  refine ⟨(v.sync size s).1, (v.sync size s).2, syncWithin_none size v s,
    syncStepwise_eq size v s, ?_, ?_⟩
  · rw [syncWithin_none, hagain]
  · rw [syncStepwise_eq, hagain]

end CodeAtlas.View
