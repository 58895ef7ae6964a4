/-
CodeAtlas.Proofs.Host.Conformance — when the answer in JSON is JSON.

Of all that a service says of a graph, only the names of nodes get into an answer as they
are. Identifiers are texts or null by then, and everything else is drawn as one of the looks
that there are. So an answer is JSON exactly if the names in it are
(`isJson_payload_sync_iff`).

A service can keep to JSON and the host can still fail to. The grammar has no bound for
numbers, and a name can be any value: a name that is a number too large for 64 bits is read
as infinite, and an infinite number is written by a word that JSON does not have. Only the
last node with an identifier is shown, so a name that is replaced by a later one does no harm.

The operation is `slice_view`, with a `GraphSliceClient` for its source.
-/
import CodeAtlas.Proofs.Host.Answer
import CodeAtlas.Proofs.Json.Range
import CodeAtlas.Proofs.Source.Agreement
import CodeAtlas.Proofs.View.History

namespace CodeAtlas

open CodeAtlas.Graph (Node Slice isId)
open Json (IsDocument IsInRange IsJson isFinite fieldsFinite_iff areFinite_iff)

/-! ## Names -/

/-- Every name that is shown of a slice has finite numbers only. A node is shown if it is
the last one with its identifier. -/
def Graph.Slice.showsFinite (s : Slice) : Bool :=
  s.nodes.all fun n => (View.lastNode [s] n.id).all fun shown => isFinite shown.displayName

/-- Said of identifiers instead of nodes. -/
theorem Graph.Slice.showsFinite_iff {s : Slice} :
    s.showsFinite = true ↔
      ∀ id n, View.lastNode [s] id = some n → isFinite n.displayName = true := by
  simp only [Slice.showsFinite, List.all_eq_true]
  constructor
  · intro h id n hlast
    obtain ⟨⟨s', hs', hn⟩, rfl⟩ := View.of_lastNode hlast
    rw [List.mem_singleton.mp hs'] at hn
    have hall := h n hn
    rwa [hlast] at hall
  · intro h n hn
    cases hlast : View.lastNode [s] n.id with
    | none => rfl
    | some shown => exact h n.id shown hlast

/-- A field of an object with finite numbers has finite numbers. -/
theorem isFinite_field {fields : Table String Value} (h : isFinite (.dict fields) = true)
    (key : String) : isFinite (Value.field fields key) = true := by
  rw [isFinite, fieldsFinite_iff] at h
  rw [Value.field]
  cases hget : fields.get? key with
  | none => rfl
  | some v => exact h (key, v) (Table.mem_of_get? hget)

/-- Names come from the document as they are. -/
theorem Graph.Slice.showsFinite_of_ofDocument {v : Value} {s : Slice} (hv : isFinite v = true)
    (hs : Slice.ofDocument v = .ok s) : s.showsFinite = true := by
  rw [Slice.showsFinite_iff]
  intro id n hlast
  obtain ⟨⟨s', hs', hn⟩, -⟩ := View.of_lastNode hlast
  rw [List.mem_singleton.mp hs'] at hn
  cases v with
  | dict body =>
    obtain ⟨hnodes, -⟩ := Graph.ofDocument_eq_ok_iff.mp hs
    obtain ⟨fields, hmem, hfields⟩ := exists_of_mem_mapM hnodes n hn
    obtain ⟨id, -, rfl⟩ := Option.map_eq_some_iff.mp hfields
    have hsection := isFinite_field hv "nodes"
    have hentry : isFinite (.dict fields) = true := by
      obtain ⟨items, hitems | hitems, hitem⟩ := Graph.mem_of_mem_entries hmem <;>
        · rw [hitems, isFinite, areFinite_iff] at hsection
          exact hsection _ hitem
    exact isFinite_field hentry "displayName"
  | _ => cases hs

namespace Host

/-! ## Answers -/

theorem isFinite_of_isId {v : Value} (h : isId v = true) : isFinite v = true := by
  cases v with
  | null => rfl
  | str s => rfl
  | _ => simp [isId] at h

section Sync

variable {id : Value} {s : Slice} (size : Int)

/-- What a synced view shows of a node that was delivered last. -/
theorem mem_nodes_sync_iff {k : Value} {mark : NodeMark} :
    (k, mark) ∈ ((View.empty id).sync (.int size) s).1.nodes ↔
      ∃ n, View.lastNode [s] k = some n ∧ nodeMark (.int size) n = mark := by
  have hreflects := (View.Reflects.empty (.int size) id).sync s
  have hnodup : ((View.empty id).sync (.int size) s).1.nodes.keys.Nodup :=
    View.wellFormed_sync.nodes_nodup
  rw [← Table.get?_eq_some_iff hnodup, ← View.getNode?, hreflects.node k,
    Option.map_eq_some_iff]
  rfl

/-- Nothing but names can put a number into the document of a view. -/
theorem isFinite_document_iff (hid : isId id = true) (hs : s.IsDrawable) :
    isFinite ((View.empty id).sync (.int size) s).1.document = true ↔ s.showsFinite = true := by
  have hname : ((View.empty id).sync (.int size) s).1.id = id := View.id_sync _ _ _
  have hedges : isFinite (.list (((View.empty id).sync (.int size) s).1.edges.map
      fun p => p.2.document)) = true := by
    rw [isFinite, areFinite_iff]
    intro v hv
    obtain ⟨p, hp, rfl⟩ := List.mem_map.mp hv
    obtain ⟨e, he, rfl⟩ := View.mem_edges_sync hp
    obtain ⟨hkey, hsource, htarget⟩ := hs.edge_ids e he
    have hrelation : isFinite (edgeMark e).relation = true := by
      rcases relation_edgeMark e with h | ⟨r, h⟩ <;> rw [h] <;> rfl
    rw [EdgeMark.document, isFinite, fieldsFinite_iff]
    simp only [List.forall_mem_cons]
    exact ⟨isFinite_of_isId hkey, isFinite_of_isId hsource, isFinite_of_isId htarget, hrelation,
      List.forall_mem_nil _⟩
  have hnode : ∀ p ∈ ((View.empty id).sync (.int size) s).1.nodes,
      (isFinite (.dict (("id", p.1) :: p.2.fields)) = true ↔ isFinite p.2.label = true) := by
    intro p hp
    obtain ⟨n, hn, rfl⟩ := View.mem_nodes_sync hp
    rw [isFinite, fieldsFinite_iff]
    simp only [NodeMark.fields, List.forall_mem_cons]
    exact ⟨fun h => h.2.1,
      fun h => ⟨isFinite_of_isId (hs.node_id n hn), h, rfl, rfl, rfl, List.forall_mem_nil _⟩⟩
  have hdocument : isFinite ((View.empty id).sync (.int size) s).1.document = true ↔
      ∀ p ∈ ((View.empty id).sync (.int size) s).1.nodes, isFinite p.2.label = true := by
    rw [View.document, hname, isFinite, fieldsFinite_iff]
    simp only [List.forall_mem_cons]
    constructor
    · rintro ⟨-, hnodes, -⟩ p hp
      rw [isFinite, areFinite_iff] at hnodes
      exact (hnode p hp).mp (hnodes _ (List.mem_map.mpr ⟨p, hp, rfl⟩))
    · intro hlabels
      refine ⟨isFinite_of_isId hid, ?_, hedges, List.forall_mem_nil _⟩
      rw [isFinite, areFinite_iff]
      intro v hv
      obtain ⟨p, hp, rfl⟩ := List.mem_map.mp hv
      exact (hnode p hp).mpr (hlabels p hp)
  rw [hdocument, Slice.showsFinite_iff]
  constructor
  · intro hlabels k n hlast
    exact hlabels (k, nodeMark (.int size) n) ((mem_nodes_sync_iff size).mpr ⟨n, hlast, rfl⟩)
  · rintro hnames ⟨k, mark⟩ hp
    obtain ⟨n, hlast, rfl⟩ := (mem_nodes_sync_iff size).mp hp
    exact hnames k n hlast

/-- The answer for a view into which a slice was synced is JSON if the names in it are. -/
theorem isJson_payload_sync_iff (message resource : String) (hs : s.IsDrawable) :
    IsJson (Json.render .inline 0 (payload ⟨true, message,
      ((View.empty (.str resource)).sync (.int size) s).1,
      some ((View.empty (.str resource)).sync (.int size) s).2⟩)) ↔ s.showsFinite = true := by
  have hname : isId (.str resource) = true := rfl
  have hskipped : isFinite
      (.list ((View.empty (.str resource)).sync (.int size) s).2.skippedEdges) = true := by
    rw [isFinite, areFinite_iff]
    intro v hv
    obtain ⟨e, he, rfl⟩ := List.mem_map.mp hv
    exact isFinite_of_isId (hs.edge_ids e (List.mem_filter.mp he).1).1
  rw [Json.isJson_render_iff Json.isBlank_inline, ← isFinite_document_iff size hname hs, payload,
    isFinite, fieldsFinite_iff]
  simp only [List.cons_append, List.nil_append, List.forall_mem_cons]
  exact ⟨fun h => h.2.2.1, fun h => ⟨rfl, rfl, h, hskipped, List.forall_mem_nil _⟩⟩

/-- The answer for a view that stayed empty is JSON. -/
theorem isJson_payload_empty (message resource : String) :
    IsJson (Json.render .inline 0
      (payload ⟨false, message, View.empty (.str resource), none⟩)) :=
  (Json.isJson_render_iff Json.isBlank_inline _).mpr rfl

end Sync

/-! ## Visits -/

section Visit

variable {host : Host} {search : Search} {settings : Settings} {resource : String}

/-- Whatever a visit is answered with is the text of what is shown. -/
theorem body_of_outcome (hsettings : Settings.ofValue host.settings = .ok settings)
    {shown : Shown} (hfill : (fill search settings (.str resource)).outcome = .ok shown)
    {code : Nat} {body : List Char}
    (h : (host.sliceViewFrom search resource).outcome = .ok (.content code .json body)) :
    body = Json.render .inline 0 (payload shown) := by
  cases hwritable : Json.obstacle? host.levels.answer (payload shown) with
  | none =>
    rw [outcome_sliceViewFrom hsettings hfill hwritable] at h
    cases h
    rfl
  | some cause =>
    rw [outcome_sliceViewFrom_of_obstacle hsettings hfill hwritable] at h
    cases h

/-- An answer without a slice is JSON. -/
theorem isJson_of_fault (hsettings : Settings.ofValue host.settings = .ok settings)
    {source : Source} {fault : Fault} (hfound : (search settings).2 = .ok source)
    (hfetch : (source.fetch (.str resource)).outcome = .error fault) {code : Nat}
    {body : List Char}
    (h : (host.sliceViewFrom search resource).outcome = .ok (.content code .json body)) :
    IsJson body := by
  cases hwords : fault.message with
  | error e =>
    rw [outcome_sliceViewFrom_of_error hsettings
      (outcome_fill_of_wordless hfound hfetch hwords)] at h
    cases h
  | ok words =>
    rw [body_of_outcome hsettings (outcome_fill_of_words hfound hfetch hwords) h]
    exact isJson_payload_empty words resource

end Visit

/-! ## Answers of the service -/

/-- Without a source in the settings, the source is the service. -/
theorem findSource_of_blank {host : Host} {settings : Settings}
    (h : settings.source.isTruthy = false) :
    (host.findSource settings).2
      = .ok (sourceOf host (.service (Plugin.serviceOf settings))) := by
  rw [findSource, h]
  rfl

section Service

variable {host : Host} {settings : Settings} {resource : String} {s : Slice}
  (hsettings : Settings.ofValue host.settings = .ok settings)
  (hsource : settings.source.isTruthy = false)
  (hfetch : ((Plugin.serviceOf settings).fetchWith host.levels.body host.transport resource
    none).outcome = .ok s)

include hfetch in
/-- A service has its slices from JSON text. -/
theorem isDrawable_of_service : s.IsDrawable :=
  (speaksJson_sourceOf host (.service (Plugin.serviceOf settings)) resource).isDrawable rfl hfetch

include hsettings hsource hfetch in
/-- A slice of the service is shown if an answer can be written a level deeper than bodies
are read. -/
theorem exists_answer_of_slice (hsize : Number.withinLimit settings.nodeSize = true)
    (hdepth : host.levels.body < host.levels.answer) (hroom : 4 ≤ host.levels.answer) :
    ∃ body, (host.sliceView resource).outcome = .ok (.content 200 .json body) := by
  obtain ⟨message, hfill⟩ := outcome_fill_of_slice (findSource_of_blank hsource) hfetch
  exact ⟨_, outcome_sliceViewFrom hsettings hfill
    ((obstacle?_payload_sync_iff message resource hsize (isDrawable_of_service hfetch) hroom).mpr
      (labelsFit_of_service hfetch hdepth))⟩

include hsettings hsource hfetch in
/-- An answer that shows a slice is JSON if the names that are shown are. -/
theorem isJson_iff_of_slice {code : Nat} {body : List Char}
    (h : (host.sliceView resource).outcome = .ok (.content code .json body)) :
    IsJson body ↔ s.showsFinite = true := by
  obtain ⟨message, hfill⟩ := outcome_fill_of_slice (findSource_of_blank hsource) hfetch
  rw [body_of_outcome hsettings hfill h]
  exact isJson_payload_sync_iff settings.nodeSize message resource (isDrawable_of_service hfetch)

end Service

/-- Numbers in range are finite after reading, in names as elsewhere. -/
theorem showsFinite_of_read {levels : Nat} {text : List Char} (h : IsDocument IsInRange text)
    {s : Slice} (hread : Slice.read levels text = .ok s) : s.showsFinite = true := by
  obtain ⟨v, hv, hs⟩ := Slice.read_eq_ok_iff.mp hread
  rw [Json.read, if_neg h.head?_ne_mark] at hv
  exact Slice.showsFinite_of_ofDocument (Json.isFinite_of_document h hv) hs

/-- A service that answered with success has the slice that its text says. -/
theorem outcome_eq_ok_iff_read {s : Service} {levels : Nat} {transport : Transport}
    {resource : String} {status : Int} {text : List Char}
    (hanswer : s.Answers transport resource none status (Text.encodeUtf8 text))
    (hstatus : Service.isSuccess status = true) (htext : IsJson text) {slice : Slice} :
    (s.fetchWith levels transport resource none).outcome = .ok slice ↔
      Slice.read levels text = .ok slice := by
  rw [hanswer.outcome_eq_ok_iff hstatus htext.null_not_mem htext.head?_ne_mark,
    Slice.read_eq_ok_iff, Json.read, if_neg htext.head?_ne_mark]

/-- What is wrong with an answer of the service can be put into words. -/
theorem exists_words_of_answers {s : Service} {levels : Nat} {transport : Transport}
    {resource : String} {status : Int} {body : List UInt8} {fault : Fault}
    (hanswer : s.Answers transport resource none status body)
    (h : (s.fetchWith levels transport resource none).outcome = .error fault) :
    ∃ words, fault.message = .ok words := by
  obtain ⟨path, sent, hpath, hsent, hscheme, hreply⟩ := hanswer
  rw [Service.outcome_of_request levels transport hpath hsent, hreply, Service.outcomeOf,
    hscheme] at h
  dsimp only at h
  split at h
  · cases h
    exact ⟨_, rfl⟩
  · split at h
    · cases h
    · next cause hcause =>
      cases h
      rcases Service.fault_of_readBody hcause with ⟨words, hwords⟩ | ⟨container, rfl, -⟩
      · rw [Service.bodyFailure, hwords]
        exact ⟨_, rfl⟩
      · exact ⟨_, rfl⟩

/-! ## Names that are numbers -/

def powerText (n : Nat) : List Char := '1' :: 'e' :: Number.digits n

theorem isNumber_powerText (n : Nat) : Json.IsNumber (powerText n) :=
  .positive (.mk (Json.isWhole_digits 1) .none (.digits (Or.inl rfl) (Json.isDigits_digits n)))

/-- The text of a node whose name is a number. -/
def numberNode (t : List Char) : List Char :=
  "\x7b\"id\": \"a\", \"displayName\": ".toList ++ (t ++ ['\x7d'])

/-- Such a node is a value of JSON, whatever the number. -/
theorem isValue_numberNode {t : List Char} (h : Json.IsNumber t) :
    Json.IsValue (fun _ => True) (numberNode t) := by
  have hvalue : Json.IsValue (fun _ => True) t := .number h trivial
  have hfields := Json.IsFields.cons (Json.isString_stringText "id".toList) Json.isPad_nil
    Json.isPad_blank (.string (Json.isString_stringText "a".toList)) Json.isPad_nil
    Json.isPad_blank (.last (Json.isString_stringText "displayName".toList) Json.isPad_nil
      Json.isPad_blank hvalue Json.isPad_nil)
  have hnode := Json.IsValue.object Json.isPad_nil hfields
  exact hnode

/-- A document with nodes only. -/
theorem isJson_nodes {items : List Char} (h : Json.IsItems (fun _ => True) items) :
    IsJson ("\x7b\"nodes\": [".toList ++ (items ++ ['\x7d'])) := by
  have hdocument := IsDocument.mk Json.isPad_nil (.object Json.isPad_nil
    (.last (Json.isString_stringText "nodes".toList) Json.isPad_nil Json.isPad_blank
      (.array Json.isPad_nil h) Json.isPad_nil)) Json.isPad_nil
  rw [List.append_nil] at hdocument
  exact hdocument

/-! ## Answers to JSON -/

/-- **When an answer is JSON.** The service answers a request with success and with JSON.
Whatever the visit is then answered with is JSON exactly if all numbers in the names that are
shown are finite after reading: if the body is no slice, or if the last node with each
identifier has such a name. A body whose numbers are all in the range of 64 bits is never
answered with anything else than JSON. And there is an answer if one can be written a level
deeper than bodies are read. -/
theorem sliceView_isJson_iff {host : Host} {settings : Settings} {resource : String}
    {status : Int} {text : List Char}
    (hsettings : Settings.ofValue host.settings = .ok settings)
    (hsize : Number.withinLimit settings.nodeSize = true)
    (hsource : settings.source.isTruthy = false)
    (hanswer : (Plugin.serviceOf settings).Answers host.transport resource none status
      (Text.encodeUtf8 text))
    (hstatus : Service.isSuccess status = true) (htext : IsJson text) :
    (host.levels.body < host.levels.answer → 4 ≤ host.levels.answer →
      ∃ code body, (host.sliceView resource).outcome = .ok (.content code .json body)) ∧
    ∀ code body, (host.sliceView resource).outcome = .ok (.content code .json body) →
      (IsJson body ↔ ∀ s, Slice.read host.levels.body text = .ok s → s.showsFinite = true) ∧
      (IsDocument IsInRange text → IsJson body) := by
  have hfound : (host.findSource settings).2 = _ := findSource_of_blank hsource
  have hread : ∀ s, ((Plugin.serviceOf settings).fetchWith host.levels.body host.transport
      resource none).outcome = .ok s ↔ Slice.read host.levels.body text = .ok s :=
    fun s => outcome_eq_ok_iff_read hanswer hstatus htext
  cases houtcome : ((Plugin.serviceOf settings).fetchWith host.levels.body host.transport resource
      none).outcome with
  | error fault =>
    refine ⟨fun _ hroom => ?_, fun code body h => ?_⟩
    · obtain ⟨words, hwords⟩ := exists_words_of_answers hanswer houtcome
      obtain ⟨answer, hanswered, -⟩ := answersEmpty_of_fill hsettings hroom
        (outcome_fill_of_words hfound houtcome hwords)
      exact ⟨502, _, hanswered⟩
    · have hjson := isJson_of_fault hsettings hfound houtcome h
      refine ⟨iff_of_true hjson fun s hs => ?_, fun _ => hjson⟩
      rw [(hread s).mpr hs] at houtcome
      cases houtcome
  | ok s =>
    have hs := (hread s).mp houtcome
    refine ⟨fun hdepth hroom => ?_, fun code body h => ?_⟩
    · exact ⟨200, exists_answer_of_slice hsettings hsource houtcome hsize hdepth hroom⟩
    · have hjson := isJson_iff_of_slice hsettings hsource houtcome h
      refine ⟨hjson.trans ⟨fun hfinite s' hs' => ?_, fun hall => hall s hs⟩,
        fun hrange => hjson.mpr (showsFinite_of_read hrange hs)⟩
      rw [hs] at hs'
      cases hs'
      exact hfinite

/-- A host without settings, whose service answers every request with the text. -/
def hostOf (text : String) : Host :=
  ⟨.dict [], [], ⟨[], []⟩, fun _ => .answer 200 (Text.encodeUtf8 text.toList), ⟨3, 3, 4, 4⟩⟩

/-- The default service of such a host answers with the text. -/
theorem answers_hostOf (text : String) :
    (Plugin.serviceOf {}).Answers (hostOf text).transport "packages" none 200
      (Text.encodeUtf8 text.toList) := by
  obtain ⟨base, hparse, habs⟩ : ∃ base, Url.parse "http://localhost:8080/api/graph".toList
      = .ok base ∧ base.isAbsolute = true := ⟨_, rfl, rfl⟩
  obtain ⟨sent, hsent⟩ : ∃ sent, (Plugin.serviceOf {}).request "packages".toList none = .ok sent :=
    ⟨_, rfl⟩
  exact ⟨_, sent, rfl, hsent, Service.schemeFault?_target rfl hparse habs hsent, rfl⟩

/-- A name that is too large is replaced by a later one, which is not. -/
theorem sliceView_isJson_replaced :
    let text := "\x7b\"nodes\": [\x7b\"id\": \"a\", \"displayName\": 1e999\x7d, "
      ++ "\x7b\"id\": \"a\", \"displayName\": 1e308\x7d]\x7d"
    ∃ code body, ((hostOf text).sliceView "packages").outcome = .ok (.content code .json body) ∧
      IsJson body := by
  intro text
  have hitems := Json.IsItems.cons (isValue_numberNode (isNumber_powerText 999)) Json.isPad_nil
    Json.isPad_blank (.last (isValue_numberNode (isNumber_powerText 308)) Json.isPad_nil)
  obtain ⟨_, htext, rfl⟩ : ∃ t, IsJson t ∧ t = text.toList :=
    ⟨_, isJson_nodes hitems, by decide +kernel⟩
  have hfinite : ((Slice.read 3 text.toList).toOption.all Slice.showsFinite) = true := by
    decide +kernel
  have hsettings : Settings.ofValue (hostOf text).settings = .ok {} := rfl
  obtain ⟨hanswered, hjson⟩ := sliceView_isJson_iff hsettings (by decide +kernel) rfl
    (answers_hostOf text) rfl htext
  obtain ⟨code, body, hbody⟩ := hanswered (by decide) (by decide)
  refine ⟨code, body, hbody, (hjson code body hbody).1.mpr fun s hs => ?_⟩
  change Slice.read 3 text.toList = .ok s at hs
  rw [hs] at hfinite
  exact hfinite

/-- A service answers with JSON, and the host does not: a name that is too large is read as
infinite, and written as such. -/
theorem sliceView_overflow_not_json :
    let text := "\x7b\"nodes\": [\x7b\"id\": \"a\", \"displayName\": 1e999\x7d]\x7d"
    IsJson text.toList ∧
      ∃ body, ((hostOf text).sliceView "packages").outcome = .ok (.content 200 .json body) ∧
        ¬ IsJson body := by
  intro text
  have hitems := Json.IsItems.last (isValue_numberNode (isNumber_powerText 999)) Json.isPad_nil
  obtain ⟨_, htext, rfl⟩ : ∃ t, IsJson t ∧ t = text.toList :=
    ⟨_, isJson_nodes hitems, by decide +kernel⟩
  obtain ⟨s, hs, hinfinite⟩ : ∃ s, Slice.read 3 text.toList = .ok s ∧
      (!s.showsFinite) = true := exists_ok_of_any (by decide +kernel)
  have hsettings : Settings.ofValue (hostOf text).settings = .ok {} := rfl
  have hfetch := (outcome_eq_ok_iff_read (answers_hostOf text) rfl htext).mpr hs
  obtain ⟨body, hbody⟩ := exists_answer_of_slice hsettings rfl hfetch (by decide +kernel)
    (by decide) (by decide)
  refine ⟨htext, body, hbody, fun hjson => ?_⟩
  rw [(isJson_iff_of_slice hsettings rfl hfetch hbody).mp hjson] at hinfinite
  cases hinfinite

end Host

end CodeAtlas
