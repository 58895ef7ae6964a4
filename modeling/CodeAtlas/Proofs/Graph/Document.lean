/-
CodeAtlas.Proofs.Graph.Document — a slice is read back from its document.

A node's document may lack the optional fields that are null, and a reader takes a
missing field for null, so leaving them out changes no field (`field_withoutNulls`).
What is read from the document of a slice is therefore the slice itself, up to its
identifiers, which become texts (`ofDocument_documentWith`); the only thing that can
go wrong is an identifier that is too long for that.

The levels have to be words of their vocabulary or null (`isLevel`).

The operations are `serialize` and `deserialize` of `SliceSerializer`.
-/
import CodeAtlas.Graph.Slice
import CodeAtlas.Proofs.Table
import CodeAtlas.Proofs.Traverse

namespace CodeAtlas.Graph

/-! ## Fields -/

theorem field_cons (l k : String) (b : Value) (t : Table String Value) :
    Value.field ((l, b) :: t) k = if l = k then b else Value.field t k := by
  by_cases h : l = k <;> simp [Value.field, Table.get?, h]

/-- A field that is not there is null. -/
theorem field_of_not_mem {t : Table String Value} {k : String} (h : k ∉ t.keys) :
    Value.field t k = .null := by
  induction t with
  | nil => rfl
  | cons p t ih =>
    obtain ⟨l, b⟩ := p
    simp only [Table.keys, List.map_cons, List.mem_cons, not_or] at h ih
    rw [field_cons, if_neg (Ne.symm h.1), ih h.2]

/-- Leaving nulls out keeps the order of the others. -/
theorem keys_withoutNulls_sublist (t : Table String Value) :
    (Table.keys (withoutNulls t)).Sublist t.keys :=
  List.filter_sublist.map _

/-- A field that was left out is null either way. -/
theorem field_withoutNulls {t : Table String Value} (h : t.keys.Nodup) (k : String) :
    Value.field (withoutNulls t) k = Value.field t k := by
  induction t with
  | nil => rfl
  | cons p t ih =>
    obtain ⟨l, b⟩ := p
    rw [Table.keys, List.map_cons, List.nodup_cons, ← Table.keys] at h
    have hrest := ih h.2
    rw [withoutNulls] at hrest ⊢
    rw [List.filter_cons]
    split
    · rw [field_cons, field_cons, hrest]
    · next hdrop =>
      simp only [Bool.not_eq_true', Bool.not_eq_false, Bool.and_eq_true, beq_iff_eq] at hdrop
      rw [hrest, field_cons]
      by_cases hk : l = k
      · subst hk
        rw [if_pos rfl, hdrop.2, field_of_not_mem h.1]
      · rw [if_neg hk]

/-! ## Nodes and edges -/

def isLevel : Value → Bool
  | .null => true
  | .member (.level _) => true
  | _ => false

/-- The word of a level is read as that level. -/
theorem levelOf_levelContent {v : Value} (h : isLevel v = true) : levelOf (levelContent v) = v := by
  cases v with
  | null => rfl
  | member m =>
    cases m with
    | level l => cases l <;> decide +kernel
    | relation r => simp [isLevel] at h
    | severity s => simp [isLevel] at h
  | _ => simp [isLevel] at h

def Node.writtenFields (omitNulls : Bool) (n : Node) : Table String Value :=
  if omitNulls then withoutNulls n.fields else n.fields

theorem Node.documentWith_eq (omitNulls : Bool) (n : Node) :
    n.documentWith omitNulls = .dict (n.writtenFields omitNulls) := by
  cases omitNulls <;> rfl

theorem Node.keys_fields_nodup (n : Node) : n.fields.keys.Nodup := by
  have hkeys : n.fields.keys = ["id", "level", "displayName", "packageName", "className",
    "methodName", "signature", "cost", "complexity", "hotspot"] := rfl
  rw [hkeys]
  decide

/-- No field of a node is written twice. -/
theorem Node.keys_writtenFields_nodup (omitNulls : Bool) (n : Node) :
    (n.writtenFields omitNulls).keys.Nodup := by
  cases omitNulls with
  | false => exact n.keys_fields_nodup
  | true => exact n.keys_fields_nodup.sublist (keys_withoutNulls_sublist n.fields)

/-- A field that is left out is null, so it is read as it was. -/
theorem Node.field_writtenFields (omitNulls : Bool) (n : Node) (k : String) :
    Value.field (n.writtenFields omitNulls) k = Value.field n.fields k := by
  cases omitNulls with
  | false => rfl
  | true => exact field_withoutNulls n.keys_fields_nodup k

/-- A node whose identifier has become a text. -/
def Node.withTextId? (n : Node) : Option Node := (idOf? n.id).map fun id => { n with id := id }

/-- An edge whose identifiers have become texts. -/
def Edge.withTextIds? (e : Edge) : Option Edge := do
  let id ← idOf? e.id
  let source ← idOf? e.source
  let target ← idOf? e.target
  return { e with id := id, source := source, target := target }

/-- A node is read from its fields, whether nulls were left out or not. -/
theorem Node.ofFields?_writtenFields (omitNulls : Bool) {n : Node} (h : isLevel n.level = true) :
    Node.ofFields? (n.writtenFields omitNulls) = n.withTextId? := by
  simp only [Node.ofFields?, Node.field_writtenFields]
  have hlevel : levelOf (Value.field n.fields "level") = n.level := levelOf_levelContent h
  rw [hlevel]
  rfl

def Edge.fields (e : Edge) : Table String Value :=
  [("id", e.id), ("sourceId", e.source), ("targetId", e.target), ("type", e.tag),
   ("weight", e.weight)]

theorem Edge.document_eq (e : Edge) : e.document = .dict e.fields := rfl

theorem Edge.ofFields?_fields (e : Edge) : Edge.ofFields? e.fields = e.withTextIds? := rfl

/-! ## Slices -/

/-- The entries of a section of objects are their fields. -/
theorem entries_list_dict {α : Type} (fields : α → Table String Value) (as : List α) :
    entries (.list (as.map fun a => .dict (fields a))) = as.map fields := by
  rw [entries, List.filterMap_map]
  exact congrFun List.filterMap_eq_map' as

/-- The slice that is read from the document of `s`: `s` with texts for its
identifiers. -/
def Slice.withTextIds? (s : Slice) : Option Slice := do
  let nodes ← s.nodes.mapM Node.withTextId?
  let edges ← s.edges.mapM Edge.withTextIds?
  return ⟨nodes, edges⟩

/-- A slice is read from its document with texts for its identifiers, unless one is too long for
that. -/
theorem Slice.ofDocument_documentWith (omitNulls : Bool) {s : Slice}
    (h : ∀ n ∈ s.nodes, isLevel n.level = true) :
    Slice.ofDocument (s.documentWith omitNulls)
      = (s.withTextIds?.elim (.error .idTooLong) .ok) := by
  have hnodes : (entries (.list (s.nodes.map (Node.documentWith omitNulls)))).mapM
      Node.ofFields? = s.nodes.mapM Node.withTextId? := by
    rw [funext (Node.documentWith_eq omitNulls), entries_list_dict]
    exact mapM_map_congr fun n hn => Node.ofFields?_writtenFields omitNulls (h n hn)
  have hedges : (entries (.list (s.edges.map Edge.document))).mapM Edge.ofFields?
      = s.edges.mapM Edge.withTextIds? := by
    rw [funext Edge.document_eq, entries_list_dict]
    exact mapM_map_congr fun e _ => e.ofFields?_fields
  rw [Slice.documentWith, Slice.ofDocument, field_cons, if_pos rfl, field_cons,
    if_neg (by decide), field_cons, if_pos rfl, hnodes, hedges, Slice.withTextIds?]
  cases s.nodes.mapM Node.withTextId? <;> cases s.edges.mapM Edge.withTextIds? <;> rfl

end CodeAtlas.Graph
