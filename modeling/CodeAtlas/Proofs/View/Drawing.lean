/-
CodeAtlas.Proofs.View.Drawing — the data in a drawing.

The drawing of a view as a fragment of a page is a fixed text around four things: the name of
the container, the height, the data of the view and the dashed relations (`draw_eq_ok_iff`).
By lines (`fragment_eq_lines`), the data stand alone on the fourth. They are plain text without
the signs that could end the script or start a reference, whatever the view holds. And they
are read back as the document of the view, if its values are of those that JSON text brings
back unchanged.

A view that nests too deep to be written is not drawn, so that the data nest no deeper than
drawings do.

The operation is `visualize` of `HtmlVisualizer`.
-/
import CodeAtlas.View.Drawing
import CodeAtlas.Proofs.Graph.RoundTrip
import CodeAtlas.Proofs.Json.Script
import CodeAtlas.Proofs.Text.Split

namespace CodeAtlas

open CodeAtlas.Graph (isId isData_of_isId)
open Json (areData areData_iff fieldsData isData isPlain)

/-! ## Views that text brings back -/

/-- Text brings the mark of a node back unchanged. -/
def NodeMark.isExact (m : NodeMark) : Bool :=
  areData Number.withinLimit [m.label, m.color, m.size, m.severity]

/-- Text brings the mark of an edge back unchanged; its identifiers are texts or
null. -/
def EdgeMark.isExact (e : EdgeMark) : Bool :=
  isId e.id && isId e.source && isId e.target && Json.isExact e.relation

/-- Text brings the view back unchanged; its identifiers are texts or null. -/
def View.isExact (v : View) : Bool :=
  v.nodes.all (fun node => isId node.1 && node.2.isExact)
    && v.edges.all fun edge => edge.2.isExact

theorem NodeMark.isExact_withId {id : Value} {m : NodeMark} (hid : isId id = true)
    (hm : m.isExact = true) : Json.isExact (.dict (("id", id) :: m.fields)) = true := by
  have hkeys : (Table.keys (("id", id) :: m.fields)).Nodup := by
    show ["id", "label", "color", "size", "severity"].Nodup
    decide
  simp only [NodeMark.isExact, areData, Bool.and_eq_true] at hm
  obtain ⟨hlabel, hcolor, hsize, hseverity, -⟩ := hm
  simp only [Json.isExact, isData, NodeMark.fields, fieldsData, Bool.and_eq_true]
  exact ⟨decide_eq_true hkeys, isData_of_isId hid, hlabel, hcolor, hsize, hseverity, trivial⟩

/-- The document of an exact mark is exact. -/
theorem EdgeMark.isExact_document {e : EdgeMark} (h : e.isExact = true) :
    Json.isExact e.document = true := by
  have hkeys : ["id", "source", "target", "type"].Nodup := by decide
  simp only [EdgeMark.isExact, Bool.and_eq_true] at h
  obtain ⟨⟨⟨hid, hsource⟩, htarget⟩, hrelation⟩ := h
  simp only [EdgeMark.document, Json.isExact, isData, fieldsData, Bool.and_eq_true,
    decide_eq_true_eq]
  exact ⟨hkeys, isData_of_isId hid, isData_of_isId hsource, isData_of_isId htarget, hrelation,
    trivial⟩

/-- The document of an exact view is exact. -/
theorem View.isExact_document {v : View} {id : String} (hid : v.id = .str id)
    (h : v.isExact = true) : Json.isExact v.document = true := by
  have hkeys : ["id", "nodes", "edges"].Nodup := by decide
  simp only [View.isExact, Bool.and_eq_true, List.all_eq_true] at h
  obtain ⟨hnodes, hedges⟩ := h
  simp only [View.document, Json.isExact, isData, fieldsData, Bool.and_eq_true, decide_eq_true_eq]
  refine ⟨hkeys, ?_, ?_, ?_, trivial⟩
  · rw [hid, isData]
  · rw [areData_iff, List.forall_mem_map]
    intro node hnode
    exact NodeMark.isExact_withId (hnodes node hnode).1 (hnodes node hnode).2
  · rw [areData_iff, List.forall_mem_map]
    intro edge hedge
    exact EdgeMark.isExact_document (hedges edge hedge)

namespace Drawing

/-! ## Drawings -/

/-- What is drawn is a view with a text for its name and no obstacle in its
document, in a height that can be written. -/
theorem draw_eq_ok_iff {levels : Nat} {height : Value} {v : View} {html : List Char} :
    draw levels height v = .ok html ↔
      ∃ id, v.id = .str id ∧ Json.obstacle? levels v.document = none
        ∧ height.isWritable = true
        ∧ html = fragment (containerName id.toList) height.text (scriptData v.document) := by
  constructor
  · intro h
    unfold draw at h
    split at h
    · next id hid =>
      split at h
      · cases h
      · next hnone =>
        split at h
        · next hheight =>
          cases h
          exact ⟨id, hid, hnone, hheight, rfl⟩
        · cases h
    · cases h
  · rintro ⟨id, hid, hnone, hheight, rfl⟩
    simp only [draw, hid, hnone, hheight, if_true]

/-! ## Lines -/

def firstLine (name height : List Char) : List Char :=
  opening.toList ++ name ++ styling.toList ++ height ++ "px\"></div>".toList

/-- A drawing behind the line of the data. -/
def lastLines (name height : List Char) : List Char :=
  "  const DASHED = ".toList ++ scriptData dashed ++ finding.toList ++ name ++ sizing.toList
    ++ height ++ closing.toList

/-- The line of the data is the fourth of a drawing. -/
theorem fragment_eq_lines (name height data : List Char) :
    fragment name height data
      = firstLine name height ++ '\n' :: ("<script>".toList ++ '\n' :: ("(function () \x7b".toList
        ++ '\n' :: (("  const data = ".toList ++ data ++ [';']) ++ '\n'
          :: lastLines name height))) := by
  unfold fragment firstLine lastLines
  -- Not to be evaluated on the way.
  generalize closing.toList = closing
  simp [scripting, dashing]

/-- The name of a container is made of letters, digits and hyphens. -/
theorem isNameChar_of_mem_containerName {id : List Char} {c : Char}
    (h : c ∈ containerName id) : isNameChar c = true := by
  rcases List.mem_append.mp h with hfixed | hid
  · have hall : "codegraph-".toList.all isNameChar = true := by decide
    exact List.all_eq_true.mp hall c hfixed
  · obtain ⟨a, -, rfl⟩ := List.mem_map.mp hid
    split
    · assumption
    · decide

/-- The first line is one line. -/
theorem not_mem_firstLine {id height : List Char} (h : '\n' ∉ height) :
    '\n' ∉ firstLine (containerName id) height := by
  have hname : '\n' ∉ containerName id :=
    fun hmem => absurd (isNameChar_of_mem_containerName hmem) (by decide)
  simp only [firstLine, List.mem_append, not_or]
  exact ⟨⟨⟨⟨by decide, hname⟩, by decide⟩, h⟩, by decide⟩

/-! ## Data -/

/-- The data is plain text without signs that a script may not have. -/
theorem mem_scriptData {v : Value} {c : Char} (h : c ∈ scriptData v) :
    isPlain c = true ∧ Text.isScriptSign c = false :=
  ⟨(Json.isPlain_render v 0).scriptSafe c h, Text.not_isScriptSign_of_mem h⟩

/-- The data is one line. -/
theorem not_mem_scriptData (v : Value) : '\n' ∉ scriptData v :=
  fun h => absurd (mem_scriptData h).1 (by decide)

/-- The data stands on the fourth line. -/
theorem getElem?_lines {id height : List Char} (h : '\n' ∉ height) (v : Value) :
    (Text.splitOn '\n' (fragment (containerName id) height (scriptData v)))[3]?
      = some ("  const data = ".toList ++ scriptData v ++ [';']) := by
  have hline : '\n' ∉ "  const data = ".toList ++ scriptData v ++ [';'] := by
    simp only [List.mem_append, not_or]
    exact ⟨⟨by decide, not_mem_scriptData v⟩, by decide⟩
  rw [fragment_eq_lines, Text.splitOn_append_sep, Text.splitOn_of_not_mem (not_mem_firstLine h),
    Text.splitOn_append_sep, Text.splitOn_of_not_mem (by decide), Text.splitOn_append_sep,
    Text.splitOn_of_not_mem (by decide), Text.splitOn_append_sep, Text.splitOn_of_not_mem hline]
  rfl

/-- **The data are plain and faithful.** A drawing has data between `const data = ` and the
semicolon that ends the line, the fourth one unless the height brings line breaks of its own.
They are plain text without a sign that could end the script or start a reference. For a view
of values that text brings back unchanged they are read back as its document. -/
theorem draw_data_plain_and_faithful (levels : Nat) (height : Value) (v : View)
    (html : List Char) (h : draw levels height v = .ok html) :
    ∃ before data after,
      html = before ++ "const data = ".toList ++ data ++ ";\n".toList ++ after
      ∧ ('\n' ∉ height.text → (Text.splitOn '\n' html)[3]?
          = some ("  const data = ".toList ++ data ++ [';']))
      ∧ (∀ c ∈ data, c ≠ '<' ∧ c ≠ '>' ∧ c ≠ '&' ∧ 32 ≤ c.toNat ∧ c.toNat < 127)
      ∧ Json.nesting v.document ≤ levels
      ∧ (v.isExact = true → ∀ depth, Json.nesting v.document ≤ depth →
          Json.read depth data = .ok v.document) := by
  obtain ⟨id, hid, hnone, -, rfl⟩ := draw_eq_ok_iff.mp h
  refine ⟨firstLine (containerName id.toList) height.text
      ++ "\n<script>\n(function () \x7b\n  ".toList,
    scriptData v.document, lastLines (containerName id.toList) height.text, ?_,
    fun hheight => getElem?_lines hheight _, ?_, ?_, ?_⟩
  · rw [fragment_eq_lines]
    simp
  · intro c hc
    obtain ⟨hplain, hsign⟩ := mem_scriptData hc
    simp only [isPlain, Bool.and_eq_true, decide_eq_true_eq] at hplain
    simp only [Text.isScriptSign, Bool.or_eq_false_iff, decide_eq_false_iff_not] at hsign
    exact ⟨hsign.1.1, hsign.1.2, hsign.2, hplain⟩
  · exact Json.nesting_le_of_obstacle? _ _ hnone
  · intro hexact depth hdepth
    have hblank : Json.Layout.inline.IsBlank := trivial
    exact Json.read_scriptSafe hblank (View.isExact_document hid hexact) hdepth

/-- A label that closes the script, one that ends in a backslash before a sign, and a
name with a line break. -/
theorem draw_data_plain_and_faithful_signs :
    let v : View :=
      ⟨.str "a<\n", [(.null, ⟨.str "</script>&\\", .list [.str "\\<"], .int 5, .null⟩)], []⟩
    ∃ html data, draw 4 defaultHeight v = .ok html
      ∧ (Text.splitOn '\n' html)[3]? = some ("  const data = ".toList ++ data ++ [';'])
      ∧ '<' ∉ data ∧ '\n' ∉ data ∧ Json.read 4 data = .ok v.document := by
  intro v
  have hdraw : draw 4 defaultHeight v = .ok _ :=
    draw_eq_ok_iff.mpr ⟨_, rfl, Option.isNone_iff_eq_none.mp (by decide +kernel),
      by decide +kernel, rfl⟩
  obtain ⟨before, data, after, -, hline, hplain, hnesting, hread⟩ :=
    draw_data_plain_and_faithful 4 defaultHeight v _ hdraw
  refine ⟨_, data, hdraw, hline (by decide), ?_, ?_, hread (by decide +kernel) 4 hnesting⟩
  · intro hmem
    exact (hplain '<' hmem).1 rfl
  · intro hmem
    exact absurd (hplain '\n' hmem).2.2.2.1 (by decide)

end Drawing

end CodeAtlas
