/-
CodeAtlas.Proofs.View.History — a synced view, read off the deliveries.

Slices are brought into an empty view one after the other. What the view holds
then is said without following the syncs, by the list of deliveries alone:

* a node looks like the last node with its identifier, in all the deliveries;
* an edge is the last edge with its identifier that was `admitted`, which is to
  say that both of its ends had been delivered when it was, in the same delivery
  or before.

`Reflects history v` says this of a view. The invariant mentions the nodes by
look-up and not by order, since admission asks only which identifiers are known.
One sync extends the history by one delivery (`Reflects.sync`), and the rest is
an induction.

An edge that came too early is gone: the history after it is all that counts
unless it is sent again (`lastAdmitted_append`).

The operation is `sync` of `ViewSynchronizer`, used again and again.
-/
import CodeAtlas.Proofs.View.Sync

namespace CodeAtlas.View

open CodeAtlas.Graph (Node Edge Slice)

/-- Bring slices into a view, one after the other. -/
def syncAll (size : Value) (v : View) (slices : List Slice) : View :=
  slices.foldl (fun v s => (v.sync size s).1) v

/-! ## Deliveries -/

def delivered (history : List Slice) : List Value := history.flatMap Slice.nodeIds

/-- Both ends of an edge have been delivered. -/
def endsDelivered (history : List Slice) (e : Edge) : Bool :=
  decide (e.source ∈ delivered history ∧ e.target ∈ delivered history)

/-- The edges whose ends had been delivered by the time they came, in the order
in which they came. -/
def admitted (history : List Slice) : List Edge :=
  history.zipIdx.flatMap fun p =>
    p.1.edges.filter (endsDelivered (history.take (p.2 + 1)))

/-- The last node with an identifier. -/
def lastNode (history : List Slice) (id : Value) : Option Node :=
  ((history.flatMap (·.nodes)).filter fun n => n.id = id).getLast?

/-- The last edge with an identifier that was admitted. -/
def lastAdmitted (history : List Slice) (id : Value) : Option Edge :=
  ((admitted history).filter fun e => e.id = id).getLast?

/-- A delivered node is in one of the slices. -/
theorem mem_delivered (history : List Slice) (id : Value) :
    id ∈ delivered history ↔ ∃ s ∈ history, id ∈ s.nodeIds := List.mem_flatMap

theorem delivered_concat (history : List Slice) (s : Slice) :
    delivered (history ++ [s]) = delivered history ++ s.nodeIds := by
  simp [delivered]

/-- What was admitted before stays admitted, since admission looks back only. -/
theorem admitted_concat (history : List Slice) (s : Slice) :
    admitted (history ++ [s])
      = admitted history ++ s.edges.filter (endsDelivered (history ++ [s])) := by
  unfold admitted
  rw [List.zipIdx_append, List.flatMap_append]
  congr 1
  · rw [List.flatMap_def, List.flatMap_def]
    congr 1
    refine List.map_congr_left fun p hp => ?_
    have hlt : p.2 < history.length := by
      have := List.mem_zipIdx hp
      omega
    rw [List.take_append_of_le_length (by omega)]
  · have hall : (history ++ [s]).take (history.length + 1) = history ++ [s] :=
      List.take_of_length_le (by simp)
    simp [hall]

/-- An admitted edge is in a slice, and its ends are in that one or those before it. -/
theorem mem_admitted (history : List Slice) (e : Edge) :
    e ∈ admitted history ↔
      ∃ before s after, history = before ++ s :: after ∧ e ∈ s.edges ∧
        endsDelivered (before ++ [s]) e = true := by
  unfold admitted
  simp only [List.mem_flatMap, List.mem_filter, Prod.exists, List.mem_zipIdx_iff_getElem?]
  constructor
  · rintro ⟨s, i, hi, he, hends⟩
    obtain ⟨hlt, rfl⟩ := List.getElem?_eq_some_iff.mp hi
    refine ⟨history.take i, history[i], history.drop (i + 1), ?_, he, ?_⟩
    · rw [List.getElem_cons_drop, List.take_append_drop]
    · rwa [List.take_append_getElem]
  · rintro ⟨before, s, after, rfl, he, hends⟩
    refine ⟨s, before.length, ?_, he, ?_⟩
    · simp
    · have hupto : (before ++ s :: after).take (before.length + 1) = before ++ [s] := by
        rw [List.take_append, List.take_of_length_le (by omega)]
        simp
      rwa [hupto]

/-! ## Last deliveries -/

/-- A later slice has the last word. -/
theorem lastNode_concat (history : List Slice) (s : Slice) (id : Value) :
    lastNode (history ++ [s]) id
      = ((s.nodes.filter fun n => n.id = id).getLast?).or (lastNode history id) := by
  simp [lastNode, List.getLast?_append]

/-- A later slice has the last word about edges, too. -/
theorem lastAdmitted_concat (history : List Slice) (s : Slice) (id : Value) :
    lastAdmitted (history ++ [s]) id
      = ((((s.edges.filter (endsDelivered (history ++ [s]))).filter
            fun e => e.id = id)).getLast?).or (lastAdmitted history id) := by
  rw [lastAdmitted, admitted_concat, List.filter_append, List.getLast?_append]
  rfl

/-- Deliveries that do not bring an edge do not admit it. -/
theorem lastAdmitted_append (history later : List Slice) (id : Value)
    (h : ∀ s ∈ later, id ∉ s.edgeIds) :
    lastAdmitted (history ++ later) id = lastAdmitted history id := by
  induction later generalizing history with
  | nil => rw [List.append_nil]
  | cons s later ih =>
    have hs : ((s.edges.filter (endsDelivered (history ++ [s]))).filter
        fun e => e.id = id) = [] := by
      rw [List.filter_eq_nil_iff]
      intro e he hid
      refine h s List.mem_cons_self ?_
      rw [← of_decide_eq_true hid]
      exact List.mem_map_of_mem (List.mem_filter.mp he).1
    rw [← List.singleton_append, ← List.append_assoc,
      ih (history ++ [s]) fun t ht => h t (List.mem_cons_of_mem s ht),
      lastAdmitted_concat, hs]
    rfl

theorem isSome_getLast?_filter {α : Type u} (p : α → Bool) (l : List α) :
    (l.filter p).getLast?.isSome = true ↔ ∃ a ∈ l, p a = true := by
  rw [List.getLast?_isSome, ne_eq, List.filter_eq_nil_iff]
  simp

/-- There is a last node where there is any. -/
theorem isSome_lastNode (history : List Slice) (id : Value) :
    (lastNode history id).isSome = true ↔ id ∈ delivered history := by
  rw [lastNode, isSome_getLast?_filter]
  simp only [delivered, Slice.nodeIds, List.mem_flatMap, List.mem_map, decide_eq_true_eq]
  constructor
  · rintro ⟨n, ⟨s, hs, hn⟩, hid⟩
    exact ⟨s, hs, n, hn, hid⟩
  · rintro ⟨s, hs, n, hn, hid⟩
    exact ⟨n, ⟨s, hs, hn⟩, hid⟩

/-- There is a last admitted edge where there is any. -/
theorem isSome_lastAdmitted (history : List Slice) (id : Value) :
    (lastAdmitted history id).isSome = true ↔ ∃ e ∈ admitted history, e.id = id := by
  rw [lastAdmitted, isSome_getLast?_filter]
  simp only [decide_eq_true_eq]

theorem of_lastNode {history : List Slice} {id : Value} {n : Node}
    (h : lastNode history id = some n) : (∃ s ∈ history, n ∈ s.nodes) ∧ n.id = id := by
  obtain ⟨hmem, hid⟩ := List.mem_filter.mp (List.mem_of_getLast? h)
  exact ⟨List.mem_flatMap.mp hmem, of_decide_eq_true hid⟩

theorem of_lastAdmitted {history : List Slice} {id : Value} {e : Edge}
    (h : lastAdmitted history id = some e) : e ∈ admitted history ∧ e.id = id := by
  obtain ⟨hmem, hid⟩ := List.mem_filter.mp (List.mem_of_getLast? h)
  exact ⟨hmem, of_decide_eq_true hid⟩

/-! ## The invariant -/

/-- A view holds what a history of deliveries says. -/
structure Reflects (size : Value) (history : List Slice) (v : View) : Prop where
  node : ∀ id, v.getNode? id = (lastNode history id).map (nodeMark size)
  edge : ∀ id, v.getEdge? id = (lastAdmitted history id).map edgeMark

namespace Reflects

/-- An empty view holds what no deliveries say. -/
theorem empty (size id : Value) : Reflects size [] (View.empty id) where
  node _ := rfl
  edge _ := rfl

/-- A view has the nodes that were delivered. -/
theorem mem_keys_iff {size : Value} {history : List Slice} {v : View}
    (h : Reflects size history v) (id : Value) :
    id ∈ v.nodes.keys ↔ id ∈ delivered history := by
  rw [← hasNode_iff, hasNode, Table.contains, ← getNode?, h.node id, Option.isSome_map,
    isSome_lastNode]

/-- By the time its edges go in, a slice has made its own nodes known. -/
theorem hasEnds_eq {size : Value} {history : List Slice} {v : View}
    (h : Reflects size history v) (s : Slice) :
    (v.syncNodes size s.nodes).hasEnds = endsDelivered (history ++ [s]) := by
  funext e
  rw [Bool.eq_iff_iff, hasEnds_syncNodes_iff, endsDelivered, decide_eq_true_iff,
    delivered_concat, List.mem_append, List.mem_append, h.mem_keys_iff, h.mem_keys_iff]
  rfl

/-- One sync adds one delivery to the history. -/
theorem sync {size : Value} {history : List Slice} {v : View}
    (h : Reflects size history v) (s : Slice) :
    Reflects size (history ++ [s]) (v.sync size s).1 where
  node id := by
    rw [getNode?, nodes_sync, Table.get?_foldl_insert, ← getNode?, h.node id,
      lastNode_concat, Option.map_or]
  edge id := by
    rw [getEdge?, edges_sync, Table.get?_foldl_insert, ← getEdge?, h.edge id,
      lastAdmitted_concat, h.hasEnds_eq, Option.map_or]

/-- Deliveries keep a view to its history. -/
theorem syncAll {size : Value} (slices : List Slice) {history : List Slice} {v : View}
    (h : Reflects size history v) :
    Reflects size (history ++ slices) (v.syncAll size slices) := by
  induction slices generalizing history v with
  | nil => rwa [List.append_nil]
  | cons s slices ih =>
    have hrest := ih (h.sync s)
    rwa [List.append_assoc, List.singleton_append] at hrest

end Reflects

/-- **A synced view is its history.** The nodes are those that were delivered,
each as it was delivered last. The edges are those that came when their ends had
been delivered, each as it last came so. An edge that later deliveries do not
bring is what it was before them: one that was skipped stays out. -/
theorem syncAll_empty_eq_history (size viewId : Value) (slices : List Slice) :
    (∀ id,
      (((View.empty viewId).syncAll size slices).hasNode id = true ↔
        ∃ s ∈ slices, id ∈ s.nodeIds) ∧
      ((View.empty viewId).syncAll size slices).getNode? id
        = (lastNode slices id).map (nodeMark size)) ∧
    (∀ id,
      (((View.empty viewId).syncAll size slices).hasEdge id = true ↔
        ∃ before s after, slices = before ++ s :: after ∧
          ∃ e ∈ s.edges, e.id = id ∧
            (∃ t ∈ before ++ [s], e.source ∈ t.nodeIds) ∧
            (∃ t ∈ before ++ [s], e.target ∈ t.nodeIds)) ∧
      ((View.empty viewId).syncAll size slices).getEdge? id
        = (lastAdmitted slices id).map edgeMark) ∧
    (∀ before after id, slices = before ++ after → (∀ s ∈ after, id ∉ s.edgeIds) →
      ((View.empty viewId).syncAll size slices).getEdge? id
        = ((View.empty viewId).syncAll size before).getEdge? id) := by
  have hall : ∀ history, Reflects size history ((View.empty viewId).syncAll size history) :=
    fun history => (Reflects.empty size viewId).syncAll history
  refine ⟨fun id => ⟨?_, (hall slices).node id⟩, fun id => ⟨?_, (hall slices).edge id⟩, ?_⟩
  · rw [hasNode_iff, (hall slices).mem_keys_iff, mem_delivered]
  · rw [hasEdge, Table.contains, ← getEdge?, (hall slices).edge id, Option.isSome_map,
      isSome_lastAdmitted]
    simp only [mem_admitted, endsDelivered, decide_eq_true_eq, mem_delivered]
    constructor
    · rintro ⟨e, ⟨before, s, after, hs, he, hends⟩, hid⟩
      exact ⟨before, s, after, hs, e, he, hid, hends⟩
    · rintro ⟨before, s, after, hs, e, he, hid, hends⟩
      exact ⟨e, ⟨before, s, after, hs, he, hends⟩, hid⟩
  · rintro before after id rfl hafter
    rw [(hall _).edge id, (hall before).edge id, lastAdmitted_append before after id hafter]

end CodeAtlas.View
