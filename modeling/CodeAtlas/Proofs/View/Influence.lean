/-
CodeAtlas.Proofs.View.Influence — which fields of a document a view depends on.

Of a node a view shows the identifier, the name and the cost, of an edge the identifier,
the ends and the tag. The other fields of a slice could as well be missing: that holds of
reading, which keeps what it reads of these fields in these fields (`bare_ofDocument`), and
of syncing, which looks at no other field of a record (`syncWithin_bare`). So two documents
that agree on these fields, record by record, fill a view in the same way, whatever else
they say.

The operations are `deserialize` of `SliceSerializer` and `sync` of `ViewSynchronizer`.
-/
import CodeAtlas.Proofs.Graph.Decoded
import CodeAtlas.Proofs.View.Populate

namespace CodeAtlas

namespace Graph

/-! ## Records without the fields that are not drawn -/

/-- The fields of a node that a drawing depends on. -/
def Node.drawnKeys : List String := ["id", "displayName", "cost"]

def Edge.drawnKeys : List String := ["id", "sourceId", "targetId", "type"]

/-- The fields of an object under the keys; one that is missing is null. -/
def pick (keys : List String) (fields : Table String Value) : List Value :=
  keys.map (Value.field fields)

/-- There are as many objects here as there, and they agree on the keys, one by one. -/
def AgreeOn (keys : List String) (here there : List (Table String Value)) : Prop :=
  here.map (pick keys) = there.map (pick keys)

instance (keys : List String) (here there : List (Table String Value)) :
    Decidable (AgreeOn keys here there) :=
  inferInstanceAs (Decidable (here.map (pick keys) = there.map (pick keys)))

/-- A node with nothing but what is drawn of it. -/
def Node.bare (n : Node) : Node :=
  { id := n.id, level := .null, displayName := n.displayName, cost := n.cost }

def Edge.bare (e : Edge) : Edge :=
  { id := e.id, source := e.source, target := e.target, tag := e.tag }

/-- A slice with nothing but what is drawn of it. -/
def Slice.bare (s : Slice) : Slice := ⟨s.nodes.map Node.bare, s.edges.map Edge.bare⟩

/-- A bare node from the fields that are drawn. -/
def Node.ofDrawn? : List Value → Option Node
  | [id, displayName, cost] =>
      (idOf? id).map fun id => Node.bare ⟨id, .null, displayName, cost, .null, .null, .null,
        .null, .null, .null⟩
  | _ => none

def Edge.ofDrawn? : List Value → Option Edge
  | [id, source, target, tag] => do
      let id ← idOf? id
      let source ← idOf? source
      let target ← idOf? target
      return Edge.bare ⟨id, source, target, tag, .null⟩
  | _ => none

/-- What is drawn of a node depends on the drawn fields only. -/
theorem Node.bare_ofFields? (fields : Table String Value) :
    (Node.ofFields? fields).map Node.bare = Node.ofDrawn? (pick Node.drawnKeys fields) := by
  simp only [Node.ofFields?, Option.map_map]
  rfl

/-- What is drawn of an edge depends on the drawn fields only. -/
theorem Edge.bare_ofFields? (fields : Table String Value) :
    (Edge.ofFields? fields).map Edge.bare = Edge.ofDrawn? (pick Edge.drawnKeys fields) := by
  simp only [Edge.ofFields?, Edge.ofDrawn?, pick, Edge.drawnKeys, List.map_cons, List.map_nil]
  cases idOf? (Value.field fields "id") with
  | none => rfl
  | some id =>
    cases idOf? (Value.field fields "sourceId") with
    | none => rfl
    | some source => cases idOf? (Value.field fields "targetId") <;> rfl

/-- What is drawn of a slice is read from the fields that are drawn. -/
theorem bare_ofDocument {a b : Table String Value} {s t : Slice}
    (hnodes : AgreeOn Node.drawnKeys (entries (Value.field a "nodes"))
      (entries (Value.field b "nodes")))
    (hedges : AgreeOn Edge.drawnKeys (entries (Value.field a "edges"))
      (entries (Value.field b "edges")))
    (hs : Slice.ofDocument (.dict a) = .ok s) (ht : Slice.ofDocument (.dict b) = .ok t) :
    s.bare = t.bare := by
  obtain ⟨hn, he⟩ := ofDocument_eq_ok_iff.mp hs
  obtain ⟨hn', he'⟩ := ofDocument_eq_ok_iff.mp ht
  have hnodes' : s.nodes.map Node.bare = t.nodes.map Node.bare := by
    have here := map_mapM Node.bare_ofFields? (entries (Value.field a "nodes"))
    have there := map_mapM Node.bare_ofFields? (entries (Value.field b "nodes"))
    rw [hn, hnodes, ← there, hn'] at here
    exact Option.some.inj here
  have hedges' : s.edges.map Edge.bare = t.edges.map Edge.bare := by
    have here := map_mapM Edge.bare_ofFields? (entries (Value.field a "edges"))
    have there := map_mapM Edge.bare_ofFields? (entries (Value.field b "edges"))
    rw [he, hedges, ← there, he'] at here
    exact Option.some.inj here
  rw [Slice.bare, Slice.bare, hnodes', hedges']

end Graph

namespace View

open CodeAtlas.Graph (AgreeOn Node Edge Slice entries)

/-! ## Syncing bare slices -/

/-- Bare nodes fill a view as the nodes do. -/
theorem syncNodesWithin_bare (room : Option Nat) (size : Value) (v : View) (nodes : List Node) :
    v.syncNodesWithin room size (nodes.map Node.bare) = v.syncNodesWithin room size nodes := by
  induction nodes generalizing v with
  | nil => rfl
  | cons n nodes ih =>
    rw [List.map_cons, syncNodesWithin, syncNodesWithin]
    have hadd : v.addNodeWithin room n.bare.id (nodeMark size n.bare)
        = v.addNodeWithin room n.id (nodeMark size n) := rfl
    rw [hadd]
    cases v.addNodeWithin room n.id (nodeMark size n) with
    | ok w => exact ih w
    | error e => rfl

/-- Bare edges fill a view as the edges do. -/
theorem syncEdges_bare (v : View) (edges : List Edge) :
    v.syncEdges (edges.map Edge.bare) = v.syncEdges edges := by
  rw [syncEdges, List.foldl_map]
  rfl

/-- The report is about identifiers, which a bare slice keeps. -/
theorem reportOf_bare (v : View) (s : Slice) : v.reportOf s.bare = v.reportOf s := by
  simp only [reportOf, Slice.nodeIds, Slice.bare, List.filter_map, List.map_map]
  rfl

/-- What is not drawn of a slice is not synced. -/
theorem syncWithin_bare (room : Option Nat) (size : Value) (v : View) (s : Slice) :
    v.syncWithin room size s.bare = v.syncWithin room size s := by
  simp only [syncWithin, Slice.bare, syncNodesWithin_bare]
  split
  · rfl
  · next w _ => rw [syncEdges_bare, ← Slice.bare, reportOf_bare]

/-- **Fields that are not drawn have no influence.** Two decoded objects hold a slice each.
If the records of their sections agree on the fields that are drawn, one by one, then a
view is filled from both in the same way, whatever else the objects say: with the same
view in the end, and with the same result, message and report included. With room for
everything and a resource that can be named both succeed. -/
theorem undrawn_fields_have_no_influence {a b : Table String Value}
    (ha : Json.IsDecoded (.dict a)) (hb : Json.IsDecoded (.dict b))
    (hnodes : AgreeOn Node.drawnKeys (entries (Value.field a "nodes"))
      (entries (Value.field b "nodes")))
    (hedges : AgreeOn Edge.drawnKeys (entries (Value.field a "edges"))
      (entries (Value.field b "edges"))) :
    ∃ s t, Slice.ofDocument (.dict a) = .ok s ∧ Slice.ofDocument (.dict b) = .ok t ∧
      ∀ (room : Option Nat) (size : Value) (v : View) (resource : Value) (x y : Source),
        (x.fetch resource).outcome = .ok s → (y.fetch resource).outcome = .ok t →
        (v.populate room size x resource).view = (v.populate room size y resource).view ∧
        (v.populate room size x resource).result = (v.populate room size y resource).result ∧
        (room = none → resource.isWritable = true →
          ∃ o, (v.populate room size x resource).result = .ok o ∧ o.success = true) := by
  obtain ⟨s, hs⟩ := Graph.exists_ofDocument ha
  obtain ⟨t, ht⟩ := Graph.exists_ofDocument hb
  refine ⟨s, t, hs, ht, ?_⟩
  intro room size v resource x y hx hy
  have hbare : s.bare = t.bare := Graph.bare_ofDocument hnodes hedges hs ht
  have hsync : v.syncWithin room size s = v.syncWithin room size t := by
    rw [← syncWithin_bare, hbare, syncWithin_bare]
  simp only [populate, hx, hy, hsync]
  split
  · next w e hfull =>
    refine ⟨rfl, rfl, ?_⟩
    rintro rfl
    rw [syncWithin_none] at hfull
    cases hfull
  · next w report hsynced =>
    refine ⟨rfl, rfl, fun _ hwritable => ?_⟩
    simp only [finish, Outcome.synced, hwritable, if_true]
    exact ⟨_, rfl, rfl⟩

/-- Two objects with the same three records: other fields and sections stand beside them,
entries that are no objects between them, and the keys come in another order. -/
theorem undrawn_fields_have_no_influence_noise :
    let a : Table String Value :=
      [("nodes", .list [.dict [("id", .int 1), ("displayName", .str "A"), ("cost", .int 2)],
        .dict [("id", .str "b"), ("level", .str "class")]]),
       ("edges", .list [.dict [("id", .null), ("sourceId", .str "1"), ("targetId", .str "b"),
        ("type", .str "CALLS"), ("weight", .int 3)]])]
    let b : Table String Value :=
      [("edges", .list [.null, .dict [("type", .str "CALLS"), ("targetId", .str "b"),
        ("sourceId", .str "1")]]),
       ("page", .list []),
       ("nodes", .list [.dict [("hotspot", .bool true), ("cost", .int 2), ("id", .int 1),
        ("displayName", .str "A")], .int 7, .dict [("displayName", .null), ("id", .str "b")]])]
    Json.IsDecoded (.dict a) ∧ Json.IsDecoded (.dict b) ∧
    ∃ s t, Slice.ofDocument (.dict a) = .ok s ∧ Slice.ofDocument (.dict b) = .ok t ∧ s ≠ t ∧
      ((View.empty (.str "v")).populate none (.int 5) (.constant s) (.str "r")).view
        = ((View.empty (.str "v")).populate none (.int 5) (.constant t) (.str "r")).view := by
  intro a b
  have ha : Json.IsDecoded (.dict a) := Json.isDecoded_of_isExact (by decide +kernel)
  have hb : Json.IsDecoded (.dict b) := Json.isDecoded_of_isExact (by decide +kernel)
  obtain ⟨s, t, hs, ht, hsame⟩ :=
    undrawn_fields_have_no_influence ha hb (by decide +kernel) (by decide +kernel)
  refine ⟨ha, hb, s, t, hs, ht, ?_, ?_⟩
  · rintro rfl
    have hne : (Slice.ofDocument (.dict a)).toOption ≠ (Slice.ofDocument (.dict b)).toOption := by
      decide +kernel
    exact hne (by rw [hs, ht])
  · exact (hsame none (.int 5) (View.empty (.str "v")) (.str "r") (.constant s) (.constant t)
      rfl rfl).1

end View

end CodeAtlas
