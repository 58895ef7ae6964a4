/-
CodeAtlas.Proofs.Host.Answer — what a visitor is told of a view in JSON.

A visit to the view of a resource in JSON is answered with one of two kinds of document. If
the source had a slice, the document shows a closed graph: identifiers that differ, edges whose
ends are listed, and for every node and edge one of the looks that there are (`IsClosedGraph`).
If it had none, or if there is no source, the document shows nothing and says so
(`IsEmptyAnswer`).

That the first document is closed is the invariant of views, and where its looks come from
is read off the sync (`mem_nodes_sync`, `mem_edges_sync`). Whether it can be written is another
matter: the names in it are whatever the source said, and they stand four levels deep
(`obstacle?_payload_sync_iff`). So there are visits without an answer: one whose names nest
too deep for the answer, one whose source failed with a fault that cannot be put into words,
and one whose settings name no source that could be looked for.

The operation is `slice_view`.
-/
import CodeAtlas.Host.Respond
import CodeAtlas.Proofs.Graph.Decoded
import CodeAtlas.Proofs.Source.Delivery
import CodeAtlas.Proofs.View.Populate

namespace CodeAtlas

open CodeAtlas.Graph (Relation Severity Slice isId)

/-- No identifier holds the replacement character. It is read for every surrogate that stands
alone, so two identifiers that hold it may look alike once they are written, and may differ as
they came. -/
def Graph.Slice.isWhole (s : Slice) : Bool :=
  (s.nodes.map (·.id) ++ s.edges.map (·.id)).all fun id => !id.text.contains Text.replacementChar

namespace View

/-! ## A slice in an empty view -/

variable {size id : Value} {s : Slice}

/-- An empty view shows the nodes of the slice, each by its identifier. -/
theorem mem_nodes_sync {p : Value × NodeMark} (h : p ∈ ((View.empty id).sync size s).1.nodes) :
    ∃ n ∈ s.nodes, p = (n.id, nodeMark size n) := by
  rw [nodes_sync] at h
  rcases Table.mem_of_mem_foldl_insert h with hnil | hnode
  · exact absurd hnil List.not_mem_nil
  · exact hnode

/-- Of the edges it shows those of the slice, if any. -/
theorem mem_edges_sync {p : Value × EdgeMark} (h : p ∈ ((View.empty id).sync size s).1.edges) :
    ∃ e ∈ s.edges, p = (e.id, edgeMark e) := by
  rw [edges_sync] at h
  rcases Table.mem_of_mem_foldl_insert h with hnil | ⟨e, he, hp⟩
  · exact absurd hnil List.not_mem_nil
  · exact ⟨e, (List.mem_filter.mp he).1, hp⟩

theorem wellFormed_sync : ((View.empty id).sync size s).1.WellFormed := by
  have hempty := (WellFormed.empty id).syncWithin none size s
  rwa [syncWithin_none] at hempty

end View

namespace Host

open Json (HasText nesting obstacle? obstacle?_dict_iff obstacle?_list_iff)
open Plugin (LookupError)

/-! ## Documents that can be written -/

/-- Identifiers can be written anywhere. -/
theorem obstacle?_of_isId {v : Value} (h : isId v = true) (depth : Nat) :
    obstacle? depth v = none := by
  cases v with
  | null => simp [obstacle?]
  | str s => simp [obstacle?]
  | _ => simp [isId] at h

/-- A relation is drawn as its word, or not at all. -/
theorem relation_edgeMark (e : Graph.Edge) :
    (edgeMark e).relation = .null ∨ ∃ r : Relation, (edgeMark e).relation = .str r.label := by
  unfold edgeMark
  cases Relation.ofValue? e.tag with
  | none => exact Or.inl rfl
  | some r => exact Or.inr ⟨r, rfl⟩

section Sync

variable {id : Value} {size : Int} {s : Slice}

/-- Of a node only the name can be too deep. -/
theorem obstacle?_node_iff {n : Graph.Node} (hid : isId n.id = true)
    (hname : HasText n.displayName) (hsize : Number.withinLimit size = true) {depth : Nat} :
    obstacle? (depth + 1) (.dict (("id", n.id) :: (nodeMark (.int size) n).fields)) = none
      ↔ nesting n.displayName ≤ depth := by
  rw [obstacle?_dict_iff, ← hname.obstacle?_iff]
  simp [NodeMark.fields, nodeMark, obstacle?_of_isId hid, obstacle?, hsize]

/-- An edge can be written: it shows identifiers and a word. -/
theorem obstacle?_edge {e : Graph.Edge}
    (h : isId e.id = true ∧ isId e.source = true ∧ isId e.target = true) (depth : Nat) :
    obstacle? (depth + 1) (edgeMark e).document = none := by
  have hrelation : obstacle? depth (edgeMark e).relation = none := by
    rcases relation_edgeMark e with h | ⟨r, h⟩ <;> rw [h] <;> simp [obstacle?]
  rw [EdgeMark.document, obstacle?_dict_iff]
  simp only [List.forall_mem_cons]
  exact ⟨obstacle?_of_isId h.1 _, obstacle?_of_isId h.2.1 _, obstacle?_of_isId h.2.2 _,
    hrelation, by simp⟩

/-- The document of a view can be written if the names in it are not too deep. -/
theorem obstacle?_document_iff (hid : isId id = true) (hsize : Number.withinLimit size = true)
    (hs : s.IsDrawable) {depth : Nat} :
    obstacle? (depth + 3) ((View.empty id).sync (.int size) s).1.document = none ↔
      ∀ p ∈ ((View.empty id).sync (.int size) s).1.nodes, nesting p.2.label ≤ depth := by
  have hname : ((View.empty id).sync (.int size) s).1.id = id := View.id_sync _ _ _
  have hnode : ∀ p ∈ ((View.empty id).sync (.int size) s).1.nodes,
      (obstacle? (depth + 1) (.dict (("id", p.1) :: p.2.fields)) = none
        ↔ nesting p.2.label ≤ depth) := by
    intro p hp
    obtain ⟨n, hn, rfl⟩ := View.mem_nodes_sync hp
    exact obstacle?_node_iff (hs.node_id n hn) (hs.node_name n hn) hsize
  have hedges : obstacle? (depth + 2)
      (.list (((View.empty id).sync (.int size) s).1.edges.map fun p => p.2.document)) = none := by
    refine obstacle?_list_iff.mpr fun v hv => ?_
    obtain ⟨p, hp, rfl⟩ := List.mem_map.mp hv
    obtain ⟨e, he, rfl⟩ := View.mem_edges_sync hp
    exact obstacle?_edge (hs.edge_ids e he) depth
  rw [View.document, hname, obstacle?_dict_iff]
  simp only [List.forall_mem_cons]
  constructor
  · rintro ⟨-, hnodes, -⟩ p hp
    exact (hnode p hp).mp (obstacle?_list_iff.mp hnodes _ (List.mem_map.mpr ⟨p, hp, rfl⟩))
  · intro hlabels
    refine ⟨obstacle?_of_isId hid _, obstacle?_list_iff.mpr fun v hv => ?_, hedges, by simp⟩
    obtain ⟨p, hp, rfl⟩ := List.mem_map.mp hv
    exact (hnode p hp).mpr (hlabels p hp)

/-- The names that are shown of a slice leave the four levels that an answer puts around
them. -/
def LabelsFit (depth : Nat) (v : View) : Prop := ∀ p ∈ v.nodes, nesting p.2.label + 4 ≤ depth

theorem labelsFit_sync {depth : Nat} (h : ∀ n ∈ s.nodes, nesting n.displayName + 4 ≤ depth) :
    LabelsFit depth ((View.empty id).sync (.int size) s).1 := by
  intro p hp
  obtain ⟨n, hn, rfl⟩ := View.mem_nodes_sync hp
  exact h n hn

/-- Names that a service sends fit into an answer that is one level deeper than its body. -/
theorem labelsFit_of_service {service : Service} {levels depth : Nat} {transport : Transport}
    {resource : String} {params : Option (Table String Value)}
    (h : (service.fetchWith levels transport resource params).outcome = .ok s)
    (hdepth : levels < depth) : LabelsFit depth ((View.empty id).sync (.int size) s).1 := by
  obtain ⟨status, body, -, -, hbody⟩ := Service.outcome_eq_ok_iff.mp h
  obtain ⟨v, hv, hs⟩ := Service.readBody_eq_ok_iff.mp hbody
  obtain ⟨text, htext⟩ := Json.document_of_readBytes hv
  refine labelsFit_sync fun n hn => ?_
  have hname := Graph.nesting_displayName_le (Json.obstacle?_of_document htext) hs n hn
  omega

/-- The answer for a view into which a slice was synced can be written if the names in it
are not too deep. -/
theorem obstacle?_payload_sync_iff (message resource : String)
    (hsize : Number.withinLimit size = true) (hs : s.IsDrawable) {depth : Nat}
    (hdepth : 4 ≤ depth) :
    obstacle? depth (payload ⟨true, message,
      ((View.empty (.str resource)).sync (.int size) s).1,
      some ((View.empty (.str resource)).sync (.int size) s).2⟩) = none ↔
    LabelsFit depth ((View.empty (.str resource)).sync (.int size) s).1 := by
  obtain ⟨depth, rfl⟩ : ∃ less, depth = less + 4 := ⟨depth - 4, by omega⟩
  have hname : isId (.str resource) = true := rfl
  have hskipped : obstacle? (depth + 3)
      (.list ((View.empty (.str resource)).sync (.int size) s).2.skippedEdges) = none := by
    refine obstacle?_list_iff.mpr fun v hv => ?_
    obtain ⟨e, he, rfl⟩ := List.mem_map.mp hv
    exact obstacle?_of_isId (hs.edge_ids e (List.mem_filter.mp he).1).1 _
  rw [payload, obstacle?_dict_iff]
  simp only [List.cons_append, List.nil_append, List.forall_mem_cons, LabelsFit,
    Nat.add_le_add_iff_right]
  rw [← obstacle?_document_iff hname hsize hs]
  exact ⟨fun h => h.2.2.1,
    fun h => ⟨by simp [obstacle?], by simp [obstacle?], h, hskipped, by simp⟩⟩

/-- The answer for a view that stayed empty. -/
theorem obstacle?_payload_empty (message resource : String) {depth : Nat} (hdepth : 4 ≤ depth) :
    obstacle? depth (payload ⟨false, message, View.empty (.str resource), none⟩) = none := by
  obtain ⟨depth, rfl⟩ : ∃ less, depth = less + 4 := ⟨depth - 4, by omega⟩
  have hview : obstacle? (depth + 3) (View.empty (.str resource)).document = none := by
    simp [View.document, View.empty, obstacle?, Json.entriesObstacle?, Json.itemsObstacle?]
  refine obstacle?_dict_iff.mpr ?_
  simp only [List.append_nil, List.forall_mem_cons]
  exact ⟨by simp [obstacle?], by simp [obstacle?], hview, by simp⟩

end Sync

/-! ## The view of a visit -/

/-- What was found, if it is a source that has a slice, has it from JSON text. -/
def SpeaksJson (found : Except LookupError Source) (resource : String) : Prop :=
  ∀ source s, found = .ok source → (source.fetch (.str resource)).outcome = .ok s → s.IsDecoded

/-- The sources that come with the host speak JSON. -/
theorem speaksJson_sourceOf (host : Host) (plugin : Plugin) (resource : String) :
    SpeaksJson (.ok (sourceOf host plugin)) resource := by
  rintro _ s ⟨⟩ h
  cases plugin with
  | service service => exact Service.decoded_of_outcome h
  | directory directory => exact Directory.decoded_of_outcome h
  | drawing height => cases h

/-- A slice from JSON text can be drawn, its depth aside. -/
theorem SpeaksJson.isDrawable {found : Except LookupError Source} {resource : String}
    (h : SpeaksJson found resource) {source : Source} {s : Slice} (hfound : found = .ok source)
    (hfetch : (source.fetch (.str resource)).outcome = .ok s) : s.IsDrawable := by
  obtain ⟨v, hv, hs⟩ := h source s hfound hfetch
  exact Graph.isDrawable_of_ofDocument hv hs

section Filling

variable {search : Search} {settings : Settings} {resource : String}

/-- Filling a view goes by what the search has found. -/
theorem outcome_fill (search : Search) (settings : Settings) (resource : String) :
    (fill search settings (.str resource)).outcome
      = match (search settings).2 with
        | .ok source => (fillFrom settings source (.str resource)).outcome
        | .error (.notFound name group available) =>
            .ok ⟨false, (LookupError.notFound name group available).message,
              View.empty (.str resource), none⟩
        | .error e => .error (.lookup e) := by
  unfold fill
  obtain ⟨log, found⟩ := search settings
  cases found with
  | error e => cases e <;> rfl
  | ok source => rfl

theorem outcome_fill_of_source {source : Source} (h : (search settings).2 = .ok source) :
    (fill search settings (.str resource)).outcome
      = (fillFrom settings source (.str resource)).outcome := by
  rw [outcome_fill, h]

/-- That no source is installed is said in the answer. -/
theorem outcome_fill_of_notFound {name : Value} {group : String} {available : List String}
    (h : (search settings).2 = .error (.notFound name group available)) :
    (fill search settings (.str resource)).outcome
      = .ok ⟨false, (LookupError.notFound name group available).message,
          View.empty (.str resource), none⟩ := by
  rw [outcome_fill, h]

/-- Of the errors of a search only that nothing is installed is taken for an answer. -/
theorem outcome_fill_of_lookup {e : LookupError} (h : (search settings).2 = .error e)
    (he : ∀ name group available, e ≠ .notFound name group available) :
    (fill search settings (.str resource)).outcome = .error (.lookup e) := by
  rw [outcome_fill, h]
  cases e with
  | notFound name group available => exact absurd rfl (he name group available)
  | _ => rfl

/-- A view is filled by one attempt. -/
theorem outcome_fillFrom (settings : Settings) (source : Source) (resource : String) :
    (fillFrom settings source (.str resource)).outcome
      = match ((View.empty (.str resource)).attempt
          ⟨source, .str resource, .int settings.nodeSize⟩).result with
        | .ok o => .ok ⟨o.success, o.message, ((View.empty (.str resource)).attempt
            ⟨source, .str resource, .int settings.nodeSize⟩).view, o.report⟩
        | .error e => .error (.escaped e) := by
  unfold fillFrom View.attempt
  split <;> next h => simp only [h]

variable {source : Source} (hfound : (search settings).2 = .ok source)

include hfound in
/-- A slice fills the view. -/
theorem outcome_fill_of_slice {s : Slice}
    (h : (source.fetch (.str resource)).outcome = .ok s) :
    ∃ message, (fill search settings (.str resource)).outcome = .ok ⟨true, message,
      ((View.empty (.str resource)).sync (.int settings.nodeSize) s).1,
      some ((View.empty (.str resource)).sync (.int settings.nodeSize) s).2⟩ := by
  rw [outcome_fill_of_source hfound, outcome_fillFrom,
    View.attempt_of_ok (a := ⟨source, .str resource, _⟩) h]
  exact ⟨_, rfl⟩

include hfound in
/-- A fault that has words leaves the view empty. -/
theorem outcome_fill_of_words {fault : Fault} {words : String}
    (h : (source.fetch (.str resource)).outcome = .error fault)
    (hwords : fault.message = .ok words) :
    (fill search settings (.str resource)).outcome
      = .ok ⟨false, words, View.empty (.str resource), none⟩ := by
  rw [outcome_fill_of_source hfound, outcome_fillFrom,
    View.attempt_of_error (a := ⟨source, .str resource, _⟩) h]
  simp only [View.finish, Outcome.failed_of_words hwords]

include hfound in
/-- A fault without words leaves nothing to show. -/
theorem outcome_fill_of_wordless {fault : Fault} {e : Escape}
    (h : (source.fetch (.str resource)).outcome = .error fault)
    (hwords : fault.message = .error e) :
    (fill search settings (.str resource)).outcome = .error (.escaped e) := by
  rw [outcome_fill_of_source hfound, outcome_fillFrom,
    View.attempt_of_error (a := ⟨source, .str resource, _⟩) h]
  simp only [View.finish, Outcome.failed_eq_error_iff.mpr hwords]

end Filling

/-! ## Answers -/

/-- The answer shows these objects as nodes and edges. -/
def Shows (answer : Table String Value) (nodes edges : List (Table String Value)) : Prop :=
  ∃ id, Value.field answer "view" = .dict [("id", id), ("nodes", .list (nodes.map .dict)),
    ("edges", .list (edges.map .dict))]

/-- Identifiers differ, the ends of edges are listed, and everything looks like something
that there is. -/
structure IsClosedGraph (size : Int) (nodes edges : List (Table String Value)) : Prop where
  node_keys : ∀ n ∈ nodes, n.keys = ["id", "label", "color", "size", "severity"]
  edge_keys : ∀ e ∈ edges, e.keys = ["id", "source", "target", "type"]
  node_ids : (nodes.map (Value.field · "id")).Nodup
  edge_ids : (edges.map (Value.field · "id")).Nodup
  source_listed : ∀ e ∈ edges, Value.field e "source" ∈ nodes.map (Value.field · "id")
  target_listed : ∀ e ∈ edges, Value.field e "target" ∈ nodes.map (Value.field · "id")
  node_look : ∀ n ∈ nodes, Value.field n "size" = .int size ∧
    ∃ s : Severity, Value.field n "severity" = .str s.label ∧ Value.field n "color" = .str s.color
  edge_type : ∀ e ∈ edges, Value.field e "type" = .null ∨
    ∃ r : Relation, Value.field e "type" = .str r.label

structure IsFullAnswer (size : Int) (answer : Table String Value) : Prop where
  success : Value.field answer "success" = .bool true
  skipped : "skipped_edges" ∈ answer.keys
  graph : ∃ nodes edges, Shows answer nodes edges ∧ IsClosedGraph size nodes edges

structure IsEmptyAnswer (answer : Table String Value) : Prop where
  success : Value.field answer "success" = .bool false
  skipped : "skipped_edges" ∉ answer.keys
  graph : Shows answer [] []

def nodeObjects (v : View) : List (Table String Value) :=
  v.nodes.map fun p => ("id", p.1) :: p.2.fields

def edgeObjects (v : View) : List (Table String Value) :=
  v.edges.map fun p =>
    [("id", p.2.id), ("source", p.2.source), ("target", p.2.target), ("type", p.2.relation)]

/-- The document of a view is made of these objects. -/
theorem document_eq (v : View) :
    v.document = .dict [("id", v.id), ("nodes", .list ((nodeObjects v).map .dict)),
      ("edges", .list ((edgeObjects v).map .dict))] := by
  rw [View.document, nodeObjects, edgeObjects, List.map_map, List.map_map]
  rfl

theorem ids_nodeObjects (v : View) : (nodeObjects v).map (Value.field · "id") = v.nodes.keys := by
  rw [nodeObjects, List.map_map]
  rfl

/-- A slice makes a closed graph of an empty view: the invariant of views, and the looks of its
nodes and edges. -/
theorem isClosedGraph_sync (id : Value) (size : Int) (s : Slice) :
    IsClosedGraph size (nodeObjects ((View.empty id).sync (.int size) s).1)
      (edgeObjects ((View.empty id).sync (.int size) s).1) := by
  have hwell : ((View.empty id).sync (.int size) s).1.WellFormed := View.wellFormed_sync
  have hids : (edgeObjects ((View.empty id).sync (.int size) s).1).map (Value.field · "id")
      = ((View.empty id).sync (.int size) s).1.edges.keys := by
    rw [edgeObjects, List.map_map, Table.keys]
    apply List.map_congr_left
    intro p hp
    exact (hwell.edge_key p hp).symm
  constructor
  · intro n hn
    obtain ⟨p, -, rfl⟩ := List.mem_map.mp hn
    rfl
  · intro e he
    obtain ⟨p, -, rfl⟩ := List.mem_map.mp he
    rfl
  · rw [ids_nodeObjects]
    exact hwell.nodes_nodup
  · rw [hids]
    exact hwell.edges_nodup
  · intro e he
    obtain ⟨p, hp, rfl⟩ := List.mem_map.mp he
    rw [ids_nodeObjects]
    exact hwell.source_mem p hp
  · intro e he
    obtain ⟨p, hp, rfl⟩ := List.mem_map.mp he
    rw [ids_nodeObjects]
    exact hwell.target_mem p hp
  · intro n hn
    obtain ⟨p, hp, rfl⟩ := List.mem_map.mp hn
    obtain ⟨node, -, rfl⟩ := View.mem_nodes_sync hp
    exact ⟨rfl, Severity.ofCost node.cost, rfl, rfl⟩
  · intro e he
    obtain ⟨p, hp, rfl⟩ := List.mem_map.mp he
    obtain ⟨edge, -, rfl⟩ := View.mem_edges_sync hp
    exact relation_edgeMark edge

/-- The document of an answer. -/
theorem exists_payload (shown : Shown) :
    ∃ answer : Table String Value, payload shown = .dict answer ∧
    Value.field answer "success" = .bool shown.success ∧
    Value.field answer "view" = shown.view.document ∧
    ("skipped_edges" ∈ answer.keys ↔ shown.report.isSome = true) := by
  refine ⟨_, rfl, rfl, rfl, ?_⟩
  cases shown.report <;> simp [Table.keys]

section Visit

variable {host : Host} {search : Search} {settings : Settings} {resource : String}
  (hsettings : Settings.ofValue host.settings = .ok settings)

include hsettings in
/-- A visit without a view ends as filling the view did. -/
theorem outcome_sliceViewFrom_of_error {e : HostError}
    (hfill : (fill search settings (.str resource)).outcome = .error e) :
    (host.sliceViewFrom search resource).outcome = .error e := by
  simp only [sliceViewFrom, hsettings, Visit.andThen, hfill]

include hsettings in
/-- What can be written is the answer to a visit. -/
theorem outcome_sliceViewFrom {shown : Shown}
    (hfill : (fill search settings (.str resource)).outcome = .ok shown)
    (hwritable : obstacle? host.levels.answer (payload shown) = none) :
    (host.sliceViewFrom search resource).outcome = .ok (.content
      (if shown.success then 200 else 502) .json (Json.render .inline 0 (payload shown))) := by
  simp only [sliceViewFrom, hsettings, Visit.andThen, hfill, Json.write, hwritable]
  rfl

include hsettings in
/-- What cannot be written leaves the visit without an answer. -/
theorem outcome_sliceViewFrom_of_obstacle {shown : Shown} {cause : Json.WriteError}
    (hfill : (fill search settings (.str resource)).outcome = .ok shown)
    (hwritable : obstacle? host.levels.answer (payload shown) = some cause) :
    (host.sliceViewFrom search resource).outcome = .error (.unwritable cause) := by
  simp only [sliceViewFrom, hsettings, Visit.andThen, hfill, Json.write, hwritable]
  rfl

end Visit

/-- The visit is answered with a closed graph. -/
def AnswersFull (size : Int) (v : Visit Response) : Prop :=
  ∃ answer, v.outcome = .ok (.content 200 .json (Json.render .inline 0 (.dict answer))) ∧
    IsFullAnswer size answer

def AnswersEmpty (v : Visit Response) : Prop :=
  ∃ answer, v.outcome = .ok (.content 502 .json (Json.render .inline 0 (.dict answer))) ∧
    IsEmptyAnswer answer

/-- A view that stayed empty can be written, and is answered for. -/
theorem answersEmpty_of_fill {host : Host} {search : Search} {settings : Settings}
    {resource message : String} (hsettings : Settings.ofValue host.settings = .ok settings)
    (hroom : 4 ≤ host.levels.answer)
    (hfill : (fill search settings (.str resource)).outcome
      = .ok ⟨false, message, View.empty (.str resource), none⟩) :
    AnswersEmpty (host.sliceViewFrom search resource) := by
  obtain ⟨answer, hanswer, hsuccess, hview, hskipped⟩ :=
    exists_payload ⟨false, message, View.empty (.str resource), none⟩
  refine ⟨answer, ?_, hsuccess, by simp [hskipped], ⟨.str resource, hview⟩⟩
  rw [← hanswer]
  exact outcome_sliceViewFrom hsettings hfill (obstacle?_payload_empty message resource hroom)

/-- **Every answer is a closed graph or an empty one.** Let the size of nodes be one that can
be written, let slices come from JSON text, and let the call stack leave room for an answer.
Without a source under the name that the settings give, a visit to a view is answered with an
empty graph, and so it is if the source fails with a fault that has words. If the source has a
slice, the visit is answered with a closed graph, as long as the names in it are not too deep
for the answer; nothing is said of slices with the replacement character in an identifier. In
all other cases there is no answer, and an error leaves the host: a fault without words, names
that are too deep, and a search that ends in any other way. -/
theorem sliceView_answers_closed_or_empty {host : Host} {search : Search} {settings : Settings}
    {resource : String} (hsettings : Settings.ofValue host.settings = .ok settings)
    (hsize : Number.withinLimit settings.nodeSize = true) (hroom : 4 ≤ host.levels.answer)
    (hfound : SpeaksJson (search settings).2 resource) :
    (∀ name group available, (search settings).2 = .error (.notFound name group available) →
      AnswersEmpty (host.sliceViewFrom search resource)) ∧
    (∀ e, (search settings).2 = .error e →
      (∀ name group available, e ≠ .notFound name group available) →
      (host.sliceViewFrom search resource).outcome = .error (.lookup e)) ∧
    (∀ source fault, (search settings).2 = .ok source →
      (source.fetch (.str resource)).outcome = .error fault →
      (∀ words, fault.message = .ok words →
        AnswersEmpty (host.sliceViewFrom search resource)) ∧
      ∀ e, fault.message = .error e →
        (host.sliceViewFrom search resource).outcome = .error (.escaped e)) ∧
    (∀ source s, (search settings).2 = .ok source →
      (source.fetch (.str resource)).outcome = .ok s → s.isWhole = true →
      (LabelsFit host.levels.answer
          ((View.empty (.str resource)).sync (.int settings.nodeSize) s).1 →
        AnswersFull settings.nodeSize (host.sliceViewFrom search resource)) ∧
      (¬ LabelsFit host.levels.answer
          ((View.empty (.str resource)).sync (.int settings.nodeSize) s).1 →
        ∃ cause, (host.sliceViewFrom search resource).outcome
          = .error (.unwritable cause))) := by
  refine ⟨?_, ?_, ?_, ?_⟩
  · intro name group available hnone
    exact answersEmpty_of_fill hsettings hroom (outcome_fill_of_notFound hnone)
  · intro e he hother
    exact outcome_sliceViewFrom_of_error hsettings (outcome_fill_of_lookup he hother)
  · intro source fault hsource hfetch
    refine ⟨fun words hwords => ?_, fun e hwords => ?_⟩
    · exact answersEmpty_of_fill hsettings hroom (outcome_fill_of_words hsource hfetch hwords)
    · exact outcome_sliceViewFrom_of_error hsettings
        (outcome_fill_of_wordless hsource hfetch hwords)
  · intro source s hsource hfetch _
    obtain ⟨message, hfill⟩ := outcome_fill_of_slice hsource hfetch
    have hwritable := obstacle?_payload_sync_iff message resource hsize
      (hfound.isDrawable hsource hfetch) hroom
    refine ⟨fun hfit => ?_, fun hdeep => ?_⟩
    · obtain ⟨answer, hanswer, hsuccess, hview, hskipped⟩ := exists_payload ⟨true, message,
        ((View.empty (.str resource)).sync (.int settings.nodeSize) s).1,
        some ((View.empty (.str resource)).sync (.int settings.nodeSize) s).2⟩
      refine ⟨answer, ?_, hsuccess, by simp [hskipped], nodeObjects _, edgeObjects _,
        ⟨_, hview.trans (document_eq _)⟩, isClosedGraph_sync _ _ s⟩
      rw [← hanswer]
      exact outcome_sliceViewFrom hsettings hfill (hwritable.mpr hfit)
    · obtain ⟨cause, hcause⟩ := Option.ne_none_iff_exists'.mp (mt hwritable.mp hdeep)
      exact ⟨cause, outcome_sliceViewFrom_of_obstacle hsettings hfill hcause⟩

/-- A service whose slice has a node twice, nodes without an identifier, and an edge that
leads nowhere; and a source that is not installed. -/
theorem sliceView_answers_closed_or_empty_tangled :
    let text := "\x7b\"nodes\": [\x7b\"id\": \"a\", \"cost\": 2\x7d, "
      ++ "\x7b\"id\": \"a\"\x7d, \x7b\x7d], "
      ++ "\"edges\": [\x7b\"sourceId\": \"a\", \"targetId\": \"z\"\x7d, "
      ++ "\x7b\"sourceId\": \"a\", \"type\": \"calls\"\x7d]\x7d"
    let transport : Transport := fun _ => .answer 200 (Text.encodeUtf8 text.toList)
    let host : Host :=
      ⟨.dict [("NODE_SIZE", .int 7)], [], ⟨[], []⟩, transport, ⟨3, 3, 4, 4⟩⟩
    let lost : Host :=
      ⟨.dict [("SOURCE", .str "nowhere")], [], ⟨[], []⟩, transport, ⟨3, 3, 4, 4⟩⟩
    AnswersFull 7 (host.sliceView "packages") ∧ AnswersEmpty (lost.sliceView "packages") := by
  intro text transport host lost
  have hsettings : Settings.ofValue host.settings = .ok { nodeSize := 7 } := rfl
  have hlost : Settings.ofValue lost.settings = .ok { source := .str "nowhere" } := rfl
  have hsize : Number.withinLimit 7 = true := by decide +kernel
  have hdefault : Number.withinLimit 5 = true := by decide +kernel
  obtain ⟨s, hs, hwhole⟩ : ∃ s, ((Plugin.serviceOf { nodeSize := 7 }).fetchWith 3 transport
      "packages" none).outcome = .ok s ∧ s.isWhole = true :=
    exists_ok_of_any (by decide +kernel)
  obtain ⟨name, group, available, hnone⟩ : ∃ name group available,
      (lost.findSource { source := .str "nowhere" }).2
        = .error (.notFound name group available) := ⟨_, _, _, rfl⟩
  have hfound : (host.findSource { nodeSize := 7 }).2
      = .ok (sourceOf host (.service (Plugin.serviceOf { nodeSize := 7 }))) := rfl
  have hspeaks : SpeaksJson (host.findSource { nodeSize := 7 }).2 "packages" :=
    hfound ▸ speaksJson_sourceOf host _ "packages"
  have hvisit := sliceView_answers_closed_or_empty hsettings hsize (by decide) hspeaks
  refine ⟨(hvisit.2.2.2 _ s hfound hs hwhole).1 ?_, ?_⟩
  · exact labelsFit_of_service hs (by decide : 3 < 4)
  · refine (sliceView_answers_closed_or_empty hlost hdefault (by decide) ?_).1 _ _ _ hnone
    intro source s hsource
    rw [hnone] at hsource
    cases hsource

/-- A name that is no key ends the search, a fault without words escapes, and a name that is
a list does not fit into an answer of four levels. -/
theorem visits_without_answer :
    let host : Host := ⟨.dict [("SOURCE", .list [.str "x"])], [], ⟨[], []⟩,
      fun _ => .answer 200 [], ⟨3, 3, 4, 4⟩⟩
    let wordless : Source := .broken (.foreign "KeyError" (.error .tooLong))
    let deep : Source := .constant
      ⟨[{ id := .str "a", level := .null, displayName := .list [], cost := .null }], []⟩
    (host.sliceView "packages").outcome = .error (.lookup (.unhashable "list")) ∧
    (host.sliceViewFrom (fun _ => ([], .ok wordless)) "packages").outcome
      = .error (.escaped .tooLong) ∧
    (host.sliceViewFrom (fun _ => ([], .ok deep)) "packages").outcome
      = .error (.unwritable .tooDeep) :=
  ⟨rfl, rfl, rfl⟩

end Host

end CodeAtlas
