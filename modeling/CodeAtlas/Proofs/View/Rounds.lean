/-
CodeAtlas.Proofs.View.Rounds — two rounds of deliveries settle a view.

One round of deliveries leaves a view that depends on their order: an edge is lost if
its ends come later. A second round brings every slice again, at a time when all nodes
are known. So after two rounds the edges that were admitted are those with both ends
among the nodes of the family (`IsTwoRounds.mem_admitted_iff`), whatever the two orders were.

If the slices of the family agree about the records that they share, it does not matter
either which of several records came last. The view is then described by the family as a
set (`Settled`), and two views that are settled by one family answer every look-up alike.

The operation is `sync` of `ViewSynchronizer`, used again and again.
-/
import CodeAtlas.Proofs.View.History

namespace CodeAtlas.View

open CodeAtlas.Graph (Node Edge Slice)

/-! ## Families of slices -/

/-- Slices agree about the records that they share: nodes with the same identifier have
the same name and cost, and edges with the same identifier the same ends and tag. -/
structure Consistent (family : List Slice) : Prop where
  node : ∀ s ∈ family, ∀ n ∈ s.nodes, ∀ t ∈ family, ∀ m ∈ t.nodes, n.id = m.id →
    n.displayName = m.displayName ∧ n.cost = m.cost
  edge : ∀ s ∈ family, ∀ e ∈ s.edges, ∀ t ∈ family, ∀ f ∈ t.edges, e.id = f.id →
    e.source = f.source ∧ e.target = f.target ∧ e.tag = f.tag

/-- All slices of a family in some order, and then all of them again in some order. -/
def IsTwoRounds (family deliveries : List Slice) : Prop :=
  ∃ first second, deliveries = first ++ second ∧ first.Perm family ∧ second.Perm family

/-- A view shows a family: all its nodes, and those of its edges whose ends are among
them. -/
structure Settled (size : Value) (family : List Slice) (v : View) : Prop where
  node : ∀ id mark, v.getNode? id = some mark ↔
    ∃ s ∈ family, ∃ n ∈ s.nodes, n.id = id ∧ nodeMark size n = mark
  edge : ∀ id mark, v.getEdge? id = some mark ↔
    ∃ s ∈ family, ∃ e ∈ s.edges, e.id = id ∧ endsDelivered family e = true ∧ edgeMark e = mark

variable {size : Value} {family deliveries : List Slice}

namespace Settled

/-- Views that show one family have the same nodes. -/
theorem getNode?_eq {v w : View} (hv : v.Settled size family) (hw : w.Settled size family)
    (id : Value) : v.getNode? id = w.getNode? id := by
  apply Option.ext
  intro mark
  rw [hv.node, hw.node]

/-- Views that show one family have the same edges. -/
theorem getEdge?_eq {v w : View} (hv : v.Settled size family) (hw : w.Settled size family)
    (id : Value) : v.getEdge? id = w.getEdge? id := by
  apply Option.ext
  intro mark
  rw [hv.edge, hw.edge]

end Settled

/-! ## Records that look alike -/

namespace Consistent

/-- Nodes of a consistent family with one identifier are drawn alike. -/
theorem nodeMark_eq (h : Consistent family) {s t : Slice} {n m : Node} (hs : s ∈ family)
    (hn : n ∈ s.nodes) (ht : t ∈ family) (hm : m ∈ t.nodes) (hid : n.id = m.id) :
    nodeMark size n = nodeMark size m := by
  obtain ⟨hname, hcost⟩ := h.node s hs n hn t ht m hm hid
  rw [nodeMark, nodeMark, hname, hcost]

/-- Edges of a consistent family with one identifier are drawn alike. -/
theorem edgeMark_eq (h : Consistent family) {s t : Slice} {e f : Edge} (hs : s ∈ family)
    (he : e ∈ s.edges) (ht : t ∈ family) (hf : f ∈ t.edges) (hid : e.id = f.id) :
    edgeMark e = edgeMark f := by
  obtain ⟨hsource, htarget, htag⟩ := h.edge s hs e he t ht f hf hid
  rw [edgeMark, edgeMark, hid, hsource, htarget, htag]

end Consistent

/-! ## Deliveries -/

/-- What has been delivered stays delivered. -/
theorem endsDelivered_mono {history later : List Slice} (h : ∀ s ∈ history, s ∈ later)
    {e : Edge} (he : endsDelivered history e = true) : endsDelivered later e = true := by
  simp only [endsDelivered, decide_eq_true_eq, mem_delivered] at he ⊢
  obtain ⟨⟨s, hs, hsource⟩, t, ht, htarget⟩ := he
  exact ⟨⟨s, h s hs, hsource⟩, t, h t ht, htarget⟩

namespace IsTwoRounds

/-- Two rounds deliver the family and nothing else. -/
theorem mem_iff (h : IsTwoRounds family deliveries) (s : Slice) :
    s ∈ deliveries ↔ s ∈ family := by
  obtain ⟨first, second, rfl, hfirst, hsecond⟩ := h
  rw [List.mem_append, hfirst.mem_iff, hsecond.mem_iff, or_self]

/-- The second round admits every edge of the family that has its ends in the family, since
by then the first round has delivered them. -/
theorem mem_admitted_iff (h : IsTwoRounds family deliveries) (e : Edge) :
    e ∈ admitted deliveries ↔
      (∃ s ∈ family, e ∈ s.edges) ∧ endsDelivered family e = true := by
  rw [mem_admitted]
  constructor
  · rintro ⟨before, s, after, hsplit, he, hends⟩
    have hmem : ∀ t ∈ before ++ [s], t ∈ family := by
      intro t ht
      rw [← h.mem_iff, hsplit, List.append_cons]
      exact List.mem_append_left _ ht
    exact ⟨⟨s, hmem s (by simp), he⟩, endsDelivered_mono hmem hends⟩
  · rintro ⟨⟨s, hs, he⟩, hends⟩
    obtain ⟨first, second, rfl, hfirst, hsecond⟩ := h
    obtain ⟨before, after, rfl⟩ := List.append_of_mem (hsecond.mem_iff.mpr hs)
    refine ⟨first ++ before, s, after, by rw [List.append_assoc], he, ?_⟩
    apply endsDelivered_mono _ hends
    intro t ht
    exact List.mem_append_left _ (List.mem_append_left _ (hfirst.mem_iff.mpr ht))

end IsTwoRounds

/-! ## Views -/

/-- What a view that reflects two rounds shows is a matter of the family alone. -/
theorem Reflects.settled {v : View} (hv : Reflects size deliveries v)
    (hrounds : IsTwoRounds family deliveries) (h : Consistent family) :
    v.Settled size family where
  node id mark := by
    rw [hv.node, Option.map_eq_some_iff]
    constructor
    · rintro ⟨n, hlast, hmark⟩
      obtain ⟨⟨s, hs, hn⟩, hid⟩ := of_lastNode hlast
      exact ⟨s, (hrounds.mem_iff s).mp hs, n, hn, hid, hmark⟩
    · rintro ⟨s, hs, n, hn, hid, hmark⟩
      have hknown : id ∈ delivered deliveries :=
        (mem_delivered _ _).mpr ⟨s, (hrounds.mem_iff s).mpr hs, List.mem_map.mpr ⟨n, hn, hid⟩⟩
      obtain ⟨m, hlast⟩ := Option.isSome_iff_exists.mp ((isSome_lastNode _ _).mpr hknown)
      obtain ⟨⟨t, ht, hm⟩, hid'⟩ := of_lastNode hlast
      have hsame : nodeMark size m = nodeMark size n :=
        h.nodeMark_eq ((hrounds.mem_iff t).mp ht) hm hs hn (hid'.trans hid.symm)
      exact ⟨m, hlast, hsame.trans hmark⟩
  edge id mark := by
    rw [hv.edge, Option.map_eq_some_iff]
    constructor
    · rintro ⟨e, hlast, hmark⟩
      obtain ⟨hadmitted, hid⟩ := of_lastAdmitted hlast
      obtain ⟨⟨s, hs, he⟩, hends⟩ := (hrounds.mem_admitted_iff e).mp hadmitted
      exact ⟨s, hs, e, he, hid, hends, hmark⟩
    · rintro ⟨s, hs, e, he, hid, hends, hmark⟩
      have hadmitted := (hrounds.mem_admitted_iff e).mpr ⟨⟨s, hs, he⟩, hends⟩
      obtain ⟨f, hlast⟩ :=
        Option.isSome_iff_exists.mp ((isSome_lastAdmitted _ _).mpr ⟨e, hadmitted, hid⟩)
      obtain ⟨hadmitted', hid'⟩ := of_lastAdmitted hlast
      obtain ⟨⟨t, ht, hf⟩, -⟩ := (hrounds.mem_admitted_iff f).mp hadmitted'
      have hsame : edgeMark f = edgeMark e := h.edgeMark_eq ht hf hs he (hid'.trans hid.symm)
      exact ⟨f, hlast, hsame.trans hmark⟩

/-- **Order does not matter after two rounds.** Slices that agree about the records they
share are brought into two empty views, each time all of them in some order and then all of
them again in some order. Both views then show the family, so they have the same nodes and
the same edges under all identifiers. -/
theorem two_rounds_settle (size id id' : Value) {family deliveries deliveries' : List Slice}
    (h : Consistent family) (hrounds : IsTwoRounds family deliveries)
    (hrounds' : IsTwoRounds family deliveries') :
    ((View.empty id).syncAll size deliveries).Settled size family ∧
    ((View.empty id').syncAll size deliveries').Settled size family ∧
    ∀ key,
      ((View.empty id).syncAll size deliveries).getNode? key
        = ((View.empty id').syncAll size deliveries').getNode? key ∧
      ((View.empty id).syncAll size deliveries).getEdge? key
        = ((View.empty id').syncAll size deliveries').getEdge? key := by
  have hv := ((Reflects.empty size id).syncAll deliveries).settled hrounds h
  have hw := ((Reflects.empty size id').syncAll deliveries').settled hrounds' h
  exact ⟨hv, hw, fun key => ⟨hv.getNode?_eq hw key, hv.getEdge?_eq hw key⟩⟩

/-- An edge that comes before one of its ends. After one round it depends on the order
whether the view has it; after two rounds it has it in any case. -/
theorem two_rounds_settle_early_edge :
    let node (name : String) : Node :=
      { id := .str name, level := .null, displayName := .str name, cost := .int 1 }
    let edge : Edge := { id := .null, source := .str "a", target := .str "b", tag := .null }
    let early : Slice := ⟨[node "a"], [edge]⟩
    let late : Slice := ⟨[node "b"], []⟩
    let view (deliveries : List Slice) : View :=
      (View.empty (.str "v")).syncAll (.int 5) deliveries
    (view [early, late]).getEdge? .null = none ∧
    (view [late, early]).getEdge? .null = some (edgeMark edge) ∧
    (view [early, late, late, early]).getEdge? .null = some (edgeMark edge) ∧
    ∀ key,
      (view [early, late, late, early]).getNode? key
        = (view [late, early, early, late]).getNode? key ∧
      (view [early, late, late, early]).getEdge? key
        = (view [late, early, early, late]).getEdge? key := by
  intro node edge early late view
  have hconsistent : Consistent [early, late] := ⟨by decide, by decide⟩
  have hrounds : IsTwoRounds [early, late] [early, late, late, early] :=
    ⟨[early, late], [late, early], rfl, .refl _, .swap _ _ _⟩
  have hrounds' : IsTwoRounds [early, late] [late, early, early, late] :=
    ⟨[late, early], [early, late], rfl, .swap _ _ _, .refl _⟩
  exact ⟨by decide, by decide, by decide,
    (two_rounds_settle (.int 5) (.str "v") (.str "v") hconsistent hrounds hrounds').2.2⟩

end CodeAtlas.View
