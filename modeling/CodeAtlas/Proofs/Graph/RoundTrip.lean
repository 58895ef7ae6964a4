/-
CodeAtlas.Proofs.Graph.RoundTrip — a slice survives being written as text.

Two journeys are put together. The document of a slice survives JSON text, with or
without indentation, if it is exact: that needs the fields of all records to be
exact values, and their keys to differ. And the slice is read back from its document,
identifiers and levels included, if the identifiers are texts or null and the levels
are words of their vocabulary or null.

What is left as a condition is about the machine. A number of blanks has to fit into a
signed word, and memory has to hold the blanks and the text. The depths in which a slice
is written and read are two parameters, since the two are not called alike.

The operations are `to_json` and `from_json` of `SliceSerializer`.
-/
import Mathlib
import CodeAtlas.Graph.Format
import CodeAtlas.Proofs.Graph.Document
import CodeAtlas.Proofs.Json.Writer

namespace CodeAtlas.Graph

open Json (areData areData_iff fieldsData fieldsData_iff isData Layout nesting nestingOfFields
  nestingOfItems)

/-! ## Slices that text brings back -/

def isId : Value → Bool
  | .null => true
  | .str _ => true
  | _ => false

/-- The identifier is a text or null, the level a word of its vocabulary or null, and the
other fields are data. -/
def Node.isData (fits : Int → Bool) (n : Node) : Bool :=
  isId n.id && isLevel n.level
    && areData fits [n.displayName, n.cost, n.complexity, n.hotspot, n.packageName, n.className,
      n.methodName, n.signature]

def Edge.isData (fits : Int → Bool) (e : Edge) : Bool :=
  isId e.id && isId e.source && isId e.target && areData fits [e.tag, e.weight]

def Slice.isData (fits : Int → Bool) (s : Slice) : Bool :=
  s.nodes.all (Node.isData fits) && s.edges.all (Edge.isData fits)

/-- Text brings the slice back unchanged. -/
abbrev Slice.isExact (s : Slice) : Bool := s.isData Number.withinLimit

/-- No record of the slice has a floating-point number in it; integers may be of any
length. -/
abbrev Slice.isFloatFree (s : Slice) : Bool := s.isData fun _ => true

section Data

variable {fits : Int → Bool}

theorem idOf?_of_isId {v : Value} (h : isId v = true) : idOf? v = some v := by
  cases v with
  | null => rfl
  | str s =>
    show some (Value.str (String.ofList s.toList)) = some (.str s)
    rw [String.ofList_toList]
  | _ => simp [isId] at h

theorem isData_of_isId {v : Value} (h : isId v = true) : Json.isData fits v = true := by
  cases v with
  | null => rfl
  | str s => rfl
  | _ => simp [isId] at h

/-- The word of a level is data. -/
theorem isData_levelContent {v : Value} (h : isLevel v = true) :
    Json.isData fits (levelContent v) = true := by
  cases v with
  | null => rfl
  | member m =>
    cases m with
    | level l => rfl
    | relation r => simp [isLevel] at h
    | severity s => simp [isLevel] at h
  | _ => simp [isLevel] at h

theorem levelFault?_of_isLevel {v : Value} (h : isLevel v = true) : levelFault? v = none := by
  cases v with
  | null => rfl
  | member m => rfl
  | _ => simp [isLevel] at h

/-- An identifier that is a text already stays as it is. -/
theorem Node.withTextId?_of_isData {n : Node} (h : n.isData fits = true) :
    n.withTextId? = some n := by
  simp only [Node.isData, Bool.and_eq_true] at h
  rw [Node.withTextId?, idOf?_of_isId h.1.1]
  rfl

theorem Edge.withTextIds?_of_isData {e : Edge} (h : e.isData fits = true) :
    e.withTextIds? = some e := by
  simp only [Edge.isData, Bool.and_eq_true] at h
  obtain ⟨⟨⟨hid, hsource⟩, htarget⟩, -⟩ := h
  rw [Edge.withTextIds?, idOf?_of_isId hid, idOf?_of_isId hsource, idOf?_of_isId htarget]
  rfl

theorem Slice.isLevel_of_isData {s : Slice} (h : s.isData fits = true) :
    ∀ n ∈ s.nodes, isLevel n.level = true := by
  intro n hn
  simp only [Slice.isData, Bool.and_eq_true, List.all_eq_true] at h
  have hdata := h.1 n hn
  simp only [Node.isData, Bool.and_eq_true] at hdata
  exact hdata.1.2

/-- A slice of data is what its document says. -/
theorem Slice.ofDocument_of_isData (omitNulls : Bool) {s : Slice} (h : s.isData fits = true) :
    Slice.ofDocument (s.documentWith omitNulls) = .ok s := by
  have hlevels := Slice.isLevel_of_isData h
  simp only [Slice.isData, Bool.and_eq_true, List.all_eq_true] at h
  rw [Slice.ofDocument_documentWith omitNulls hlevels, Slice.withTextIds?,
    mapM_eq_some_self fun n hn => Node.withTextId?_of_isData (h.1 n hn),
    mapM_eq_some_self fun e he => Edge.withTextIds?_of_isData (h.2 e he)]
  rfl

/-! ## The document of such a slice -/

theorem Node.fieldsData_fields {n : Node} (h : n.isData fits = true) :
    fieldsData fits n.fields = true := by
  simp only [Node.isData, areData, Bool.and_eq_true] at h
  obtain ⟨⟨hid, hlevel⟩, hname, hcost, hcomplexity, hhotspot, hpackage, hclass, hmethod,
    hsignature, -⟩ := h
  simp only [Node.fields, fieldsData, Bool.and_eq_true]
  exact ⟨isData_of_isId hid, isData_levelContent hlevel, hname, hpackage, hclass, hmethod,
    hsignature, hcost, hcomplexity, hhotspot, trivial⟩

/-- The document of a node of data is data, with its null fields or without. -/
theorem Node.isData_documentWith (omitNulls : Bool) {n : Node} (h : n.isData fits = true) :
    Json.isData fits (n.documentWith omitNulls) = true := by
  rw [Node.documentWith_eq, Json.isData, Bool.and_eq_true, decide_eq_true_eq]
  refine ⟨n.keys_writtenFields_nodup omitNulls, ?_⟩
  have hfields := Node.fieldsData_fields h
  cases omitNulls with
  | false => exact hfields
  | true =>
    rw [fieldsData_iff] at hfields ⊢
    exact fun f hf => hfields f ((List.mem_filter.mp hf).1)

theorem Edge.isData_document {e : Edge} (h : e.isData fits = true) :
    Json.isData fits e.document = true := by
  have hkeys : e.fields.keys = ["id", "sourceId", "targetId", "type", "weight"] := rfl
  have hnodup : e.fields.keys.Nodup := by
    rw [hkeys]
    decide
  simp only [Edge.isData, areData, Bool.and_eq_true] at h
  obtain ⟨⟨⟨hid, hsource⟩, htarget⟩, htag, hweight, -⟩ := h
  rw [Edge.document_eq, Json.isData, Bool.and_eq_true, decide_eq_true_eq]
  refine ⟨hnodup, ?_⟩
  simp only [Edge.fields, fieldsData, Bool.and_eq_true]
  exact ⟨isData_of_isId hid, isData_of_isId hsource, isData_of_isId htarget, htag, hweight,
    trivial⟩

/-- The document of a slice is data if the fields of its records are. -/
theorem Slice.isData_documentWith (omitNulls : Bool) {s : Slice} (h : s.isData fits = true) :
    Json.isData fits (s.documentWith omitNulls) = true := by
  simp only [Slice.isData, Bool.and_eq_true, List.all_eq_true] at h
  have hnodes : areData fits (s.nodes.map (Node.documentWith omitNulls)) = true := by
    rw [areData_iff, List.forall_mem_map]
    exact fun n hn => Node.isData_documentWith omitNulls (h.1 n hn)
  have hedges : areData fits (s.edges.map Edge.document) = true := by
    rw [areData_iff, List.forall_mem_map]
    exact fun e he => Edge.isData_document (h.2 e he)
  have hnodup : ["nodes", "edges"].Nodup := by decide
  simp only [Slice.documentWith, Json.isData, fieldsData, Bool.and_eq_true, decide_eq_true_eq]
  exact ⟨hnodup, hnodes, hedges, trivial⟩

end Data

/-! ## Depth

Leaving fields out makes no document deeper, so one bound serves both forms. -/

/-- Leaving fields out makes nothing deeper. -/
theorem nestingOfFields_filter_le (p : String × Value → Bool) (es : List (String × Value)) :
    nestingOfFields (es.filter p) ≤ nestingOfFields es := by
  induction es with
  | nil => exact Nat.le_refl _
  | cons f es ih =>
    rw [List.filter_cons, nestingOfFields]
    split
    · rw [nestingOfFields]
      omega
    · omega

theorem nestingOfItems_map_le {α : Type} {f g : α → Value}
    (h : ∀ a, nesting (f a) ≤ nesting (g a)) :
    ∀ as : List α, nestingOfItems (as.map f) ≤ nestingOfItems (as.map g)
  | [] => Nat.le_refl _
  | a :: as => by
    have ih := nestingOfItems_map_le h as
    have ha := h a
    rw [List.map_cons, List.map_cons, nestingOfItems, nestingOfItems]
    omega

theorem Node.nesting_documentWith_le (omitNulls : Bool) (n : Node) :
    nesting (n.documentWith omitNulls) ≤ nesting (n.documentWith false) := by
  cases omitNulls with
  | false => exact Nat.le_refl _
  | true =>
    rw [Node.documentWith_eq, Node.documentWith_eq, nesting, nesting]
    have hfields : nestingOfFields (withoutNulls n.fields) ≤ nestingOfFields n.fields :=
      nestingOfFields_filter_le _ n.fields
    exact Nat.succ_le_succ hfields

/-- A slice nests no deeper without its null fields. -/
theorem Slice.nesting_documentWith_le (omitNulls : Bool) (s : Slice) :
    nesting (s.documentWith omitNulls) ≤ nesting s.document := by
  have hnodes := nestingOfItems_map_le (Node.nesting_documentWith_le omitNulls) s.nodes
  simp only [Slice.document, Slice.documentWith, nesting, nestingOfFields]
  omega

/-! ## Text -/

/-- One line, or lines that are indented by a number of blanks. -/
def indentation : Option Int → Value
  | none => .null
  | some n => .int n

/-- The layout of a text that is indented so. -/
def indented : Option Int → Layout
  | none => .inline
  | some n => .lines (List.replicate n.toNat ' ')

/-- Blanks are white space. -/
theorem isBlank_indented (n? : Option Int) : (indented n?).IsBlank := by
  cases n? with
  | none => exact trivial
  | some n =>
    intro c hc
    rw [List.eq_of_mem_replicate hc]
    decide

theorem fitsIndex_iff {n : Int} : fitsIndex n = true ↔ -2 ^ 63 ≤ n ∧ n < 2 ^ 63 := by
  rw [fitsIndex, Bool.and_eq_true, decide_eq_true_eq, decide_eq_true_eq]
  rfl

section Layouts

variable {memory : Nat} {n : Int}

/-- A number of blanks that is no word of 64 bits is refused first. -/
theorem layoutOf_of_not_fitsIndex (h : fitsIndex n ≠ true) :
    layoutOf memory (.int n) = .error .hugeIndent := by
  rw [layoutOf, Bool.eq_false_iff.mpr h]
  rfl

/-- Blanks that can be counted have to fit into memory. -/
theorem layoutOf_of_memory_lt (hfits : fitsIndex n = true) (h : memory < n.toNat) :
    layoutOf memory (.int n) = .error .outOfMemory := by
  rw [layoutOf, hfits, if_pos h]
  rfl

/-- The blanks of an indentation are made unless there are too many of them to be counted
or to be held. -/
theorem layoutOf_indentation_eq_ok_iff {n? : Option Int} {layout : Layout} :
    layoutOf memory (indentation n?) = .ok layout ↔
      (∀ n ∈ n?, fitsIndex n = true ∧ n.toNat ≤ memory) ∧ layout = indented n? := by
  cases n? with
  | none =>
    constructor
    · rintro ⟨⟩
      exact ⟨by simp, rfl⟩
    · rintro ⟨-, rfl⟩
      rfl
  | some n =>
    constructor
    · intro h
      rw [indentation] at h
      by_cases hfits : fitsIndex n = true
      · by_cases hroom : memory < n.toNat
        · rw [layoutOf_of_memory_lt hfits hroom] at h
          cases h
        · rw [layoutOf, hfits, if_neg hroom] at h
          cases h
          refine ⟨?_, rfl⟩
          rintro m ⟨⟩
          exact ⟨hfits, Nat.le_of_not_lt hroom⟩
      · rw [layoutOf_of_not_fitsIndex hfits] at h
        cases h
    · rintro ⟨h, rfl⟩
      obtain ⟨hfits, hroom⟩ := h n rfl
      rw [indentation, layoutOf, hfits, if_neg (Nat.not_lt.mpr hroom)]
      rfl

end Layouts

/-- Levels from the vocabulary can be written. -/
theorem Format.encode_of_isLevel (f : Format) {s : Slice}
    (h : ∀ n ∈ s.nodes, isLevel n.level = true) :
    f.encode s = .ok (s.documentWith f.omitNone.isTruthy) := by
  have hnone : (s.nodes.findSome? fun n => levelFault? n.level) = none := by
    rw [List.findSome?_eq_none_iff]
    exact fun n hn => levelFault?_of_isLevel (h n hn)
  rw [Format.encode, hnone]

/-- What is wrong with the layout comes up for every slice. -/
theorem Format.write_of_layoutOf_error (f : Format) {memory depth : Nat} {s : Slice}
    {e : FormatError} (hlevels : ∀ n ∈ s.nodes, isLevel n.level = true)
    (h : layoutOf memory f.indent = .error e) : f.write memory depth s = .error e := by
  rw [Format.write, Format.encode_of_isLevel f hlevels, h]

/-- **What is written.** A slice whose levels have a form is written if its layout can be
made, nothing in its document is in the way, and the text is not too long to be held. -/
theorem Format.write_eq_ok_iff {f : Format} {memory depth : Nat} {s : Slice} {text : List Char}
    (hlevels : ∀ n ∈ s.nodes, isLevel n.level = true) :
    f.write memory depth s = .ok text ↔
      ∃ layout, layoutOf memory f.indent = .ok layout
        ∧ Json.obstacle? depth (s.documentWith f.omitNone.isTruthy) = none
        ∧ text = Json.render layout 0 (s.documentWith f.omitNone.isTruthy)
        ∧ text.length ≤ memory := by
  rw [Format.write, Format.encode_of_isLevel f hlevels]
  cases hlayout : layoutOf memory f.indent with
  | error e => simp
  | ok layout =>
    cases hobstacle : Json.obstacle? depth (s.documentWith f.omitNone.isTruthy) with
    | some e => simp [Json.write, hobstacle]
    | none =>
      simp only [Json.write, hobstacle]
      constructor
      · intro h
        split at h
        · cases h
        · next hroom =>
          cases h
          exact ⟨layout, rfl, trivial, rfl, Nat.le_of_not_lt hroom⟩
      · rintro ⟨_, ⟨⟩, -, rfl, hroom⟩
        rw [if_neg (Nat.not_lt.mpr hroom)]

/-- The text of a slice is read as the slice. -/
theorem Slice.read_render (omitNulls : Bool) {fits : Int → Bool} {s : Slice} {layout : Layout}
    {depth : Nat} (hs : s.isData fits = true)
    (hexact : Json.isExact (s.documentWith omitNulls) = true)
    (hdepth : nesting (s.documentWith omitNulls) ≤ depth) (hblank : layout.IsBlank) :
    Slice.read depth (Json.render layout 0 (s.documentWith omitNulls)) = .ok s := by
  rw [Slice.read, Json.read_render hblank hexact hdepth]
  simp only [Slice.ofDocument_of_isData omitNulls hs]

/-- An exact slice is written, with or without its null fields, and read back from its text,
on one line and with every indentation whose blanks can be counted and held, if memory holds
the text too. A number of blanks that is no signed word of 64 bits is refused before all
else, whatever the slice, and then one that memory does not hold. -/
theorem slice_read_write_iff (s : Slice) (omitNone : Value) (indent : Option Int) (memory : Nat)
    (hs : s.isExact = true) :
    (∀ written read, nesting s.document ≤ written → nesting s.document ≤ read →
      ((∃ text, Format.write ⟨omitNone, indentation indent⟩ memory written s = .ok text
          ∧ Slice.read read text = .ok s)
        ↔ (∀ n ∈ indent, -2 ^ 63 ≤ n ∧ n < 2 ^ 63 ∧ n.toNat ≤ memory)
          ∧ (Json.render (indented indent) 0 (s.documentWith omitNone.isTruthy)).length
              ≤ memory))
    ∧ (∀ n written, indent = some n → ¬ (-2 ^ 63 ≤ n ∧ n < 2 ^ 63) →
        Format.write ⟨omitNone, indentation indent⟩ memory written s = .error .hugeIndent)
    ∧ ∀ n written, indent = some n → -2 ^ 63 ≤ n → n < 2 ^ 63 → memory < n.toNat →
        Format.write ⟨omitNone, indentation indent⟩ memory written s = .error .outOfMemory := by
  have hlevels := Slice.isLevel_of_isData hs
  refine ⟨?_, ?_, ?_⟩
  · intro written read hwritten hread
    have hexact := Slice.isData_documentWith omitNone.isTruthy hs
    have hnesting := Slice.nesting_documentWith_le omitNone.isTruthy s
    simp only [Format.write_eq_ok_iff hlevels, layoutOf_indentation_eq_ok_iff, fitsIndex_iff,
      and_assoc]
    constructor
    · rintro ⟨_, ⟨_, hindent, rfl, -, rfl, hroom⟩, -⟩
      exact ⟨hindent, hroom⟩
    · rintro ⟨hindent, hroom⟩
      refine ⟨_, ⟨_, hindent, rfl, ?_, rfl, hroom⟩, ?_⟩
      · exact Json.obstacle?_of_isExact _ written hexact (Nat.le_trans hnesting hwritten)
      · exact Slice.read_render _ hs hexact (Nat.le_trans hnesting hread)
          (isBlank_indented indent)
  · rintro n written rfl hn
    exact Format.write_of_layoutOf_error _ hlevels
      (layoutOf_of_not_fitsIndex (fitsIndex_iff.not.mpr hn))
  · rintro n written rfl hlow hhigh hroom
    exact Format.write_of_layoutOf_error _ hlevels
      (layoutOf_of_memory_lt (fitsIndex_iff.mpr ⟨hlow, hhigh⟩) hroom)

/-- Null fields, a character beyond the basic plane, a quote and a nested value come
back. -/
theorem slice_read_write_escapes :
    let s : Slice :=
      ⟨[{ id := .str "a\"\n", level := .member (.level .cls), displayName := .str "\u00e9😀",
          cost := .int (-12), hotspot := .list [.dict [("k", .null), ("l", .bool true)]] }],
       [⟨.null, .str "a", .str "", .null, .int 0⟩]⟩
    ∃ text, Format.write ⟨.bool true, .int 3⟩ 1000 5 s = .ok text ∧ Slice.read 5 text = .ok s :=
  ((slice_read_write_iff _ _ (some 3) 1000 (by decide +kernel)).1 5 5 (by decide +kernel)
    (by decide +kernel)).mpr
      ⟨fun n hn => by cases hn; decide, by decide +kernel⟩

/-- A number of blanks that cannot be counted leaves even the empty slice without a text,
and so does one that can be counted but not held. -/
theorem empty_not_written_with_huge_indent :
    Slice.empty.isExact = true ∧ nesting Slice.empty.document = 2 ∧
      ∀ memory depth,
        Format.write ⟨.bool true, .int (10 ^ 20)⟩ memory depth Slice.empty = .error .hugeIndent
        ∧ (memory < 2 ^ 63 - 1 →
            Format.write ⟨.bool true, .int (2 ^ 63 - 1)⟩ memory depth Slice.empty
              = .error .outOfMemory) := by
  refine ⟨rfl, rfl, ?_⟩
  intro memory depth
  have hlevels : ∀ n ∈ Slice.empty.nodes, isLevel n.level = true := by
    intro n hn
    cases hn
  refine ⟨Format.write_of_layoutOf_error _ hlevels (layoutOf_of_not_fitsIndex (by decide)), ?_⟩
  intro hmemory
  exact Format.write_of_layoutOf_error _ hlevels (layoutOf_of_memory_lt (by decide) hmemory)

end CodeAtlas.Graph
