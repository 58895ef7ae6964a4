/-
CodeAtlas.Proofs.Graph.Identifiers — what a document makes of a slice.

A slice in memory may hold any values for identifiers. Its document holds the same values,
and who reads it puts texts in their places, null excepted: that is all that a slice loses on
its way through a document (`document_writes_ids_only`). It does not matter whether optional
fields that are null are left out, and there is nothing to lose a second time.

Which texts they are is said by `Value.text`, a function of the values alone. The one thing
that stands in the way is an integer in an identifier that is too long to be written.

The operations are `serialize` and `deserialize` of `SliceSerializer`.
-/
import CodeAtlas.Proofs.Graph.RoundTrip

namespace CodeAtlas.Graph

/-- The text that takes the place of an identifier; null stays null. -/
def textId : Value → Value
  | .null => .null
  | v => .str (String.ofList v.text)

def Node.withTextId (n : Node) : Node := { n with id := textId n.id }

def Edge.withTextIds (e : Edge) : Edge :=
  { e with id := textId e.id, source := textId e.source, target := textId e.target }

/-- A slice with texts for all identifiers, its nodes and edges in the same order. -/
def Slice.withTextIds (s : Slice) : Slice :=
  ⟨s.nodes.map Node.withTextId, s.edges.map Edge.withTextIds⟩

def Slice.hasWritableIds (s : Slice) : Bool :=
  s.nodes.all (fun n => n.id.isWritable)
    && s.edges.all fun e => e.id.isWritable && e.source.isWritable && e.target.isWritable

/-! ## Identifiers -/

/-- What can be written becomes its text. -/
theorem idOf?_of_isWritable {v : Value} (h : v.isWritable = true) :
    idOf? v = some (textId v) := by
  by_cases hnull : v = .null
  · rw [hnull]
    rfl
  · rw [idOf?, textId, Value.text?, if_pos h]
    · rfl
    · exact hnull
    · exact hnull

/-- The text that takes the place of an identifier is one. -/
theorem isId_textId (v : Value) : isId (textId v) = true := by
  cases v <;> rfl

theorem isWritable_of_isId {v : Value} (h : isId v = true) : v.isWritable = true := by
  cases v with
  | null => rfl
  | str s => rfl
  | _ => simp [isId] at h

/-- A text is written as itself. -/
theorem textId_of_isId {v : Value} (h : isId v = true) : textId v = v := by
  cases v with
  | null => rfl
  | str s =>
    show Value.str (String.ofList s.toList) = .str s
    rw [String.ofList_toList]
  | _ => simp [isId] at h

/-- A second reading changes nothing more. -/
theorem textId_textId (v : Value) : textId (textId v) = textId v :=
  textId_of_isId (isId_textId v)

/-! ## Slices -/

theorem Node.withTextId?_of_isWritable {n : Node} (h : n.id.isWritable = true) :
    n.withTextId? = some n.withTextId := by
  rw [Node.withTextId?, idOf?_of_isWritable h]
  rfl

theorem Edge.withTextIds?_of_isWritable {e : Edge} (hid : e.id.isWritable = true)
    (hsource : e.source.isWritable = true) (htarget : e.target.isWritable = true) :
    e.withTextIds? = some e.withTextIds := by
  rw [Edge.withTextIds?, idOf?_of_isWritable hid, idOf?_of_isWritable hsource,
    idOf?_of_isWritable htarget]
  rfl

/-- Identifiers that can be written all become texts. -/
theorem Slice.withTextIds?_of_hasWritableIds {s : Slice} (h : s.hasWritableIds = true) :
    s.withTextIds? = some s.withTextIds := by
  simp only [Slice.hasWritableIds, Bool.and_eq_true, List.all_eq_true] at h
  have hnodes : s.nodes.mapM Node.withTextId? = some (s.nodes.map Node.withTextId) :=
    mapM_eq_some_map fun n hn => Node.withTextId?_of_isWritable (h.1 n hn)
  have hedges : s.edges.mapM Edge.withTextIds? = some (s.edges.map Edge.withTextIds) :=
    mapM_eq_some_map fun e he =>
      have ⟨⟨hid, hsource⟩, htarget⟩ := h.2 e he
      Edge.withTextIds?_of_isWritable hid hsource htarget
  rw [Slice.withTextIds?, hnodes, hedges]
  rfl

/-- Texts can be written. -/
theorem Slice.hasWritableIds_withTextIds (s : Slice) : s.withTextIds.hasWritableIds = true := by
  have hwritable : ∀ v : Value, (textId v).isWritable = true :=
    fun v => isWritable_of_isId (isId_textId v)
  simp [Slice.hasWritableIds, Slice.withTextIds, Node.withTextId, Edge.withTextIds, hwritable]

theorem Slice.withTextIds_withTextIds (s : Slice) : s.withTextIds.withTextIds = s.withTextIds := by
  simp [Slice.withTextIds, Node.withTextId, Edge.withTextIds, textId_textId]

/-- A slice is encoded in every format, and read with texts for its identifiers. -/
theorem Slice.exists_encode {s : Slice} (hlevels : ∀ n ∈ s.nodes, isLevel n.level = true)
    (hids : s.hasWritableIds = true) (f : Format) :
    ∃ doc, f.encode s = .ok doc ∧ Slice.ofDocument doc = .ok s.withTextIds := by
  refine ⟨_, f.encode_of_isLevel hlevels, ?_⟩
  rw [Slice.ofDocument_documentWith _ hlevels, Slice.withTextIds?_of_hasWritableIds hids]
  rfl

/-- **Documents write identifiers, and change nothing else.** A slice whose levels are words of
their vocabulary or null, and whose identifiers can be written, has a document in every format.
What is read from it is the slice with texts for its identifiers, every other field and the
order as they were, so formats that leave out null fields and formats that keep them are read
alike. That slice comes back unchanged from its own document, in every format. -/
theorem document_writes_ids_only (s : Slice) (hlevels : ∀ n ∈ s.nodes, isLevel n.level = true)
    (hids : s.hasWritableIds = true) (f g : Format) :
    ∃ doc again,
      f.encode s = .ok doc ∧ Slice.ofDocument doc = .ok s.withTextIds ∧
      g.encode s.withTextIds = .ok again ∧ Slice.ofDocument again = .ok s.withTextIds := by
  obtain ⟨doc, hdoc, hread⟩ := Slice.exists_encode hlevels hids f
  have hlevels' : ∀ n ∈ s.withTextIds.nodes, isLevel n.level = true :=
    List.forall_mem_map.mpr hlevels
  obtain ⟨again, hagain, hreread⟩ :=
    Slice.exists_encode hlevels' s.hasWritableIds_withTextIds g
  rw [s.withTextIds_withTextIds] at hreread
  exact ⟨doc, again, hdoc, hread, hagain, hreread⟩

/-- Identifiers that are no texts: a tuple, a truth value, a word and null. -/
theorem document_writes_ids_only_tuple :
    let s : Slice :=
      ⟨[{ id := .tuple [.int 1, .str "x"], level := .member (.level .cls), displayName := .null,
          cost := .float .nan, className := .list [.null] },
        { id := .null, level := .null, displayName := .str "b", cost := .int 4 }],
       [⟨.member (.severity .high), .bool true, .str "b", .tuple [], .float (.infinite true)⟩]⟩
    s.withTextIds.nodeIds = [.str "(1, 'x')", .null] ∧
      s.withTextIds.edges.map (fun e => [e.id, e.source, e.target])
        = [[.str "CostLevel.HIGH", .str "True", .str "b"]] ∧
      ∃ doc again,
        Format.encode {} s = .ok doc ∧ Slice.ofDocument doc = .ok s.withTextIds ∧
        Format.encode { omitNone := .bool false } s.withTextIds = .ok again ∧
          Slice.ofDocument again = .ok s.withTextIds :=
  ⟨by decide +kernel, by decide +kernel,
    document_writes_ids_only _ (by decide) (by decide +kernel) _ _⟩

end CodeAtlas.Graph
