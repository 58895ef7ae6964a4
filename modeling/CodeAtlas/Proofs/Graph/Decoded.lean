/-
CodeAtlas.Proofs.Graph.Decoded — slices that come from JSON text.

A slice can be read from every object that has been decoded: the only thing that could
stand in the way is an identifier that is too long to be written, and whatever has been
decoded can be written (`exists_ofDocument`).

The records of such a slice have texts or null for their identifiers, and the names of its
nodes have a text again (`isDrawable_of_ofDocument`). A name is a field of an item of a
section of the document, so three levels of nesting are left behind on the way to it
(`nesting_displayName_le`).
-/
import CodeAtlas.Proofs.Graph.RoundTrip
import CodeAtlas.Proofs.Json.Decoded

namespace CodeAtlas.Graph

open Json (HasText IsDecoded nesting obstacle?)

/-! ## Fields of decoded objects -/

/-- A field can be written one level less deep than its object. -/
theorem obstacle?_field {depth : Nat} {fields : Table String Value}
    (h : obstacle? depth (.dict fields) = none) (key : String) :
    ∃ less, depth = less + 1 ∧ obstacle? less (Value.field fields key) = none := by
  cases depth with
  | zero => simp [obstacle?] at h
  | succ less =>
    rw [Json.obstacle?_dict_iff] at h
    refine ⟨less, rfl, ?_⟩
    rw [Value.field]
    cases hget : fields.get? key with
    | none => simp [obstacle?]
    | some v => exact h (key, v) (Table.mem_of_get? hget)

/-- The entries of a section are the objects among its items. -/
theorem mem_of_mem_entries {part : Value} {fields : Table String Value}
    (h : fields ∈ entries part) :
    ∃ items, (part = .list items ∨ part = .tuple items) ∧ .dict fields ∈ items := by
  unfold entries at h
  split at h
  · next items =>
    obtain ⟨v, hv, hfields⟩ := List.mem_filterMap.mp h
    split at hfields <;> cases hfields
    exact ⟨items, .inl rfl, hv⟩
  · next items =>
    obtain ⟨v, hv, hfields⟩ := List.mem_filterMap.mp h
    split at hfields <;> cases hfields
    exact ⟨items, .inr rfl, hv⟩
  · cases h

theorem obstacle?_of_mem_entries {depth : Nat} {part : Value} {fields : Table String Value}
    (h : obstacle? depth part = none) (hmem : fields ∈ entries part) :
    ∃ less, depth = less + 1 ∧ obstacle? less (.dict fields) = none := by
  obtain ⟨items, rfl | rfl, hitem⟩ := mem_of_mem_entries hmem <;>
    · cases depth with
      | zero => simp [obstacle?] at h
      | succ less =>
        rw [obstacle?, Json.itemsObstacle?_eq_none_iff] at h
        exact ⟨less, rfl, h _ hitem⟩

/-- A field of a record stands three levels below the object. -/
theorem obstacle?_entry {depth : Nat} {body : Table String Value}
    (h : obstacle? depth (.dict body) = none) {key : String} {fields : Table String Value}
    (hmem : fields ∈ entries (Value.field body key)) (name : String) :
    ∃ less, depth = less + 3 ∧ obstacle? less (Value.field fields name) = none := by
  obtain ⟨inner, rfl, hsection⟩ := obstacle?_field h key
  obtain ⟨record, rfl, hrecord⟩ := obstacle?_of_mem_entries hsection hmem
  obtain ⟨less, rfl, hfield⟩ := obstacle?_field hrecord name
  exact ⟨less, rfl, hfield⟩

/-- A field of an entry of a decoded document has a text. -/
theorem hasText_entry {body : Table String Value} (h : IsDecoded (.dict body)) {key : String}
    {fields : Table String Value} (hmem : fields ∈ entries (Value.field body key))
    (name : String) : HasText (Value.field fields name) := by
  obtain ⟨depth, hdepth⟩ := h.hasText
  obtain ⟨less, -, hfield⟩ := obstacle?_entry hdepth hmem name
  exact ⟨less, hfield⟩

/-! ## Slices of decoded objects -/

/-- What has a text can be made an identifier. -/
theorem idOf?_of_hasText {v : Value} (h : HasText v) : ∃ id, idOf? v = some id := by
  have hwritable := h.isWritable
  unfold idOf?
  split
  · exact ⟨.null, rfl⟩
  · exact ⟨.str (String.ofList v.text), by rw [Value.text?, if_pos hwritable]; rfl⟩

/-- Identifiers are texts or null. -/
theorem isId_of_idOf? {v id : Value} (h : idOf? v = some id) : isId id = true := by
  unfold idOf? at h
  split at h
  · cases h
    rfl
  · obtain ⟨text, -, rfl⟩ := Option.map_eq_some_iff.mp h
    rfl

/-- The slice of an object holds the records of its sections. -/
theorem ofDocument_eq_ok_iff {body : Table String Value} {s : Slice} :
    Slice.ofDocument (.dict body) = .ok s ↔
      (entries (Value.field body "nodes")).mapM Node.ofFields? = some s.nodes ∧
      (entries (Value.field body "edges")).mapM Edge.ofFields? = some s.edges := by
  obtain ⟨nodes, edges⟩ := s
  rw [Slice.ofDocument]
  cases (entries (Value.field body "nodes")).mapM Node.ofFields? with
  | none => simp
  | some nodes' => cases (entries (Value.field body "edges")).mapM Edge.ofFields? <;> simp

/-- Every decoded object holds a slice. -/
theorem exists_ofDocument {body : Table String Value} (h : IsDecoded (.dict body)) :
    ∃ s, Slice.ofDocument (.dict body) = .ok s := by
  have hid : ∀ (key : String), ∀ fields ∈ entries (Value.field body key), ∀ name,
      ∃ id, idOf? (Value.field fields name) = some id :=
    fun key fields hmem name => idOf?_of_hasText (hasText_entry h hmem name)
  obtain ⟨nodes, hnodes⟩ := exists_mapM (f := Node.ofFields?) fun fields hmem => by
    obtain ⟨id, hid⟩ := hid "nodes" fields hmem "id"
    exact ⟨_, by rw [Node.ofFields?, hid]; rfl⟩
  obtain ⟨edges, hedges⟩ := exists_mapM (f := Edge.ofFields?) fun fields hmem => by
    obtain ⟨id, hid'⟩ := hid "edges" fields hmem "id"
    obtain ⟨source, hsource⟩ := hid "edges" fields hmem "sourceId"
    obtain ⟨target, htarget⟩ := hid "edges" fields hmem "targetId"
    exact ⟨_, by rw [Edge.ofFields?, hid', hsource, htarget]; rfl⟩
  exact ⟨⟨nodes, edges⟩, ofDocument_eq_ok_iff.mpr ⟨hnodes, hedges⟩⟩

/-- Nothing in the slice but its depth can keep a drawing of it from being written: its
identifiers are texts or null, and the names of its nodes have a text. -/
structure Slice.IsDrawable (s : Slice) : Prop where
  node_id : ∀ n ∈ s.nodes, isId n.id = true
  node_name : ∀ n ∈ s.nodes, HasText n.displayName
  edge_ids : ∀ e ∈ s.edges, isId e.id = true ∧ isId e.source = true ∧ isId e.target = true

/-- A slice that was read from JSON text is drawable. -/
theorem isDrawable_of_ofDocument {v : Value} {s : Slice} (h : IsDecoded v)
    (hs : Slice.ofDocument v = .ok s) : s.IsDrawable := by
  cases v with
  | dict body =>
    obtain ⟨hnodes, hedges⟩ := ofDocument_eq_ok_iff.mp hs
    constructor
    · intro n hn
      obtain ⟨fields, -, hfields⟩ := exists_of_mem_mapM hnodes n hn
      obtain ⟨id, hid, rfl⟩ := Option.map_eq_some_iff.mp hfields
      exact isId_of_idOf? hid
    · intro n hn
      obtain ⟨fields, hmem, hfields⟩ := exists_of_mem_mapM hnodes n hn
      obtain ⟨id, -, rfl⟩ := Option.map_eq_some_iff.mp hfields
      exact hasText_entry h hmem "displayName"
    · intro e he
      obtain ⟨fields, -, hfields⟩ := exists_of_mem_mapM hedges e he
      obtain ⟨id, hid, hfields⟩ := Option.bind_eq_some_iff.mp hfields
      obtain ⟨source, hsource, hfields⟩ := Option.bind_eq_some_iff.mp hfields
      obtain ⟨target, htarget, hfields⟩ := Option.bind_eq_some_iff.mp hfields
      cases hfields
      exact ⟨isId_of_idOf? hid, isId_of_idOf? hsource, isId_of_idOf? htarget⟩
  | _ => cases hs

/-- The names of a slice leave three levels of its document to what is around them. -/
theorem nesting_displayName_le {depth : Nat} {v : Value} {s : Slice}
    (h : obstacle? depth v = none) (hs : Slice.ofDocument v = .ok s) :
    ∀ n ∈ s.nodes, nesting n.displayName + 3 ≤ depth := by
  intro n hn
  cases v with
  | dict body =>
    obtain ⟨hnodes, -⟩ := ofDocument_eq_ok_iff.mp hs
    obtain ⟨fields, hmem, hfields⟩ := exists_of_mem_mapM hnodes n hn
    obtain ⟨id, -, rfl⟩ := Option.map_eq_some_iff.mp hfields
    obtain ⟨less, rfl, hname⟩ := obstacle?_entry h hmem "displayName"
    exact Nat.add_le_add_right (Json.nesting_le_of_obstacle? _ less hname) 3
  | _ => cases hs

end CodeAtlas.Graph
