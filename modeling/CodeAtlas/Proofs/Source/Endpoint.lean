/-
CodeAtlas.Proofs.Source.Endpoint — names in addresses.

The endpoints of a service ask for a name: the classes of a package, the nodes around a
node. The name stands in the address as one segment, between two words. Whatever it holds,
it changes nothing else of the address, and it can be read back from it, so two names are
never asked for at one address (`endpoints_keep_names_apart`). Only names that are dot
segments cannot be asked for.

A name is written twice on its way, first as a segment and then as part of a URL. The second
time changes nothing, since a segment has only characters that stand for themselves in a
path (`isSegmentChar_percentEncode`).

The operations are those of `GraphSliceClient` that take a name.
-/
import CodeAtlas.Proofs.Source.Outcome

namespace CodeAtlas

open Text (splitOn percentEncode isUnreserved)
open Number (integerText)

namespace Url

/-! ## Bases -/

/-- A base without query, fragment and dot segments. -/
structure IsPlainBase (base : Url) : Prop where
  normal : base.IsNormal
  query : base.query = none
  fragment : base.fragment = none
  names : ∀ piece ∈ splitOn '/' base.path, isName piece = true

namespace IsPlainBase

variable {base b : Url}

theorem isPathChar (h : base.IsPlainBase) :
    ∀ c ∈ slashed (rooted base.path), Url.isPathChar c = true :=
  isPathChar_slashed (isPathChar_rooted h.normal.path)

/-- Behind a plain base, pieces that are names stay the pieces. -/
theorem isName_append (h : base.IsPlainBase) (tail : List Char)
    (htail : ∀ piece ∈ splitOn '/' tail, isName piece = true) :
    ∀ piece ∈ splitOn '/' (slashed (rooted base.path) ++ tail), isName piece = true := by
  have hrooted : ∀ piece ∈ splitOn '/' (rooted base.path), isName piece = true := by
    rw [rooted]
    split
    · decide
    · exact h.names
  obtain ⟨front, hslashed, hpath⟩ := slashed_eq_concat (rooted base.path)
  intro piece hpiece
  rw [hslashed, List.append_assoc, List.singleton_append, Text.splitOn_append_sep] at hpiece
  rcases List.mem_append.mp hpiece with hpiece | hpiece
  · refine hrooted piece ?_
    rcases hpath with hpath | hpath
    · rw [hpath, Text.splitOn_append_sep]
      exact List.mem_append_left _ hpiece
    · rwa [hpath]
  · exact htail piece hpiece

theorem isName (h : base.IsPlainBase) :
    ∀ piece ∈ splitOn '/' (slashed (rooted base.path)), Url.isName piece = true := by
  have hnames := h.isName_append [] (by decide)
  rwa [List.append_nil] at hnames

/-- A base with a slash at its end. -/
theorem asBase_eq (h : base.IsPlainBase) (hb : base.asBase = .ok b) :
    base.SameOrigin b ∧ b.IsNormal ∧ b.fragment = none
      ∧ b.rawPath = slashed (rooted base.path) := by
  rw [asBase, rawPath_of_query_none h.query] at hb
  split at hb
  · next hlast =>
    cases hb
    rw [rawPath_of_query_none h.query, slashed, if_pos hlast]
    exact ⟨SameOrigin.refl base, h.normal, h.fragment, rfl⟩
  · next hlast =>
    have hslashed : slashed (rooted base.path) = rooted base.path ++ ['/'] := if_neg hlast
    rw [← hslashed] at hb
    obtain ⟨horigin, hnormal, hpath, hquery, hfragment⟩ :=
      withPath_of_names h.normal h.isPathChar h.isName hb
    refine ⟨horigin, hnormal, hfragment h.fragment, ?_⟩
    rw [rawPath_of_query_none hquery, hpath, rooted_slashed]

end IsPlainBase

/-! ## Routes -/

def isSegmentChar (c : Char) : Bool := isPlainChar c && c ≠ '/'

def isWord (cs : List Char) : Bool := !cs.isEmpty && cs.all isSegmentChar && isName cs

/-- The path to a name, between two words. -/
def route (before name after : List Char) : List Char :=
  before ++ '/' :: (percentEncode isUnreserved name ++ '/' :: after)

theorem isSegmentChar_of_isUnreserved {c : Char} (h : isUnreserved c = true) :
    isSegmentChar c = true := by
  have hlt : c.toNat < 128 := toNat_lt_of_isHostChar (by simp [isHostChar, h])
  exact Text.of_ascii (p := fun c => isUnreserved c = true → isSegmentChar c = true)
    (by decide +kernel) hlt h

/-- An encoded name is made of characters that stand for themselves. -/
theorem isSegmentChar_percentEncode {name : List Char} :
    ∀ c ∈ percentEncode isUnreserved name, isSegmentChar c = true :=
  fun _ hc => Text.of_mem_percentEncode (q := isSegmentChar)
    (fun _ => isSegmentChar_of_isUnreserved) (by decide) hc

theorem ne_slash_of_isSegmentChar {cs : List Char} (h : ∀ c ∈ cs, isSegmentChar c = true) :
    '/' ∉ cs := fun hmem => absurd (h '/' hmem) (by decide)

/-- A name that is a dot segment stands for itself. -/
theorem dots_of_isName_eq_false {name : List Char} (h : isName name = false) :
    (name = ['.'] ∨ name = ['.', '.']) ∧ percentEncode isUnreserved name = name := by
  have hdots : name = ['.'] ∨ name = ['.', '.'] := by
    simpa [isName, Text.isDot, Text.isDotDot, or_iff_not_imp_left] using h
  refine ⟨hdots, ?_⟩
  rcases hdots with rfl | rfl <;> rfl

section Route

variable {before name after : List Char}

theorem isSegmentChar_of_isWord {cs : List Char} (h : isWord cs = true) :
    ∀ c ∈ cs, isSegmentChar c = true := by
  rw [isWord, Bool.and_eq_true, Bool.and_eq_true] at h
  exact List.all_eq_true.mp h.1.2

/-- A route has three segments, whatever the name. -/
theorem splitOn_route (hbefore : isWord before = true) (hafter : isWord after = true) :
    splitOn '/' (route before name after)
      = [before, percentEncode isUnreserved name, after] := by
  rw [route, Text.splitOn_append_sep, Text.splitOn_append_sep,
    Text.splitOn_of_not_mem (ne_slash_of_isSegmentChar (isSegmentChar_of_isWord hbefore)),
    Text.splitOn_of_not_mem (ne_slash_of_isSegmentChar isSegmentChar_percentEncode),
    Text.splitOn_of_not_mem (ne_slash_of_isSegmentChar (isSegmentChar_of_isWord hafter))]
  rfl

/-- They are names if the name is no dot segment. -/
theorem isName_route (hbefore : isWord before = true) (hafter : isWord after = true)
    (hname : isName name = true) :
    ∀ piece ∈ splitOn '/' (route before name after), isName piece = true := by
  have hword : ∀ cs, isWord cs = true → isName cs = true := by
    intro cs hcs
    rw [isWord, Bool.and_eq_true] at hcs
    exact hcs.2
  rw [splitOn_route hbefore hafter]
  intro piece hpiece
  simp only [List.mem_cons, List.not_mem_nil, or_false] at hpiece
  rcases hpiece with rfl | rfl | rfl
  · exact hword _ hbefore
  · exact isName_percentEncode _ hname
  · exact hword _ hafter

/-- A route is made of plain characters. -/
theorem isPlainChar_route (hbefore : isWord before = true) (hafter : isWord after = true) :
    ∀ c ∈ route before name after, isPlainChar c = true := by
  have hplain : ∀ {cs : List Char}, (∀ c ∈ cs, isSegmentChar c = true) →
      ∀ c ∈ cs, isPlainChar c = true := by
    intro cs hcs c hc
    have hsegment := hcs c hc
    rw [isSegmentChar, Bool.and_eq_true] at hsegment
    exact hsegment.1
  intro c hc
  rw [route] at hc
  simp only [List.mem_append, List.mem_cons] at hc
  rcases hc with hc | rfl | hc | rfl | hc
  · exact hplain (isSegmentChar_of_isWord hbefore) c hc
  · decide
  · exact hplain isSegmentChar_percentEncode c hc
  · decide
  · exact hplain (isSegmentChar_of_isWord hafter) c hc

theorem head?_route (hbefore : isWord before = true) :
    (route before name after).head? ≠ some '/' := by
  cases before with
  | nil => cases hbefore
  | cons c before =>
    intro hhead
    have hc := isSegmentChar_of_isWord hbefore c List.mem_cons_self
    rw [Option.some.inj hhead] at hc
    exact absurd hc (by decide)

end Route

/-- The address continues the base with one segment between two words, and the name can be
read back from the segment. -/
structure AsksFor (base : Url) (before name after : List Char) (query : Option (List Char))
    (u : Url) : Prop where
  origin : base.SameOrigin u
  path : ∃ segment,
    u.path = slashed (rooted base.path) ++ (before ++ '/' :: (segment ++ '/' :: after))
    ∧ (∀ c ∈ segment, c ≠ '/' ∧ c ≠ '?' ∧ c ≠ '#')
    ∧ Text.decodeUtf8 (Text.percentDecode (Text.encodeUtf8 segment)) = .ok name
  query : u.query = query

/-- Decoding the segment gives the name back. -/
theorem percentDecode_segment (name : List Char) :
    Text.decodeUtf8 (Text.percentDecode (Text.encodeUtf8 (percentEncode isUnreserved name)))
      = .ok name := by
  have hpercent : ∀ c ∈ name, isUnreserved c = true → c ≠ '%' := by
    rintro c - hc rfl
    exact absurd hc (by decide)
  rw [Text.percentDecode_percentEncode_all hpercent, Text.decodeUtf8_encodeUtf8]

/-- Names are told apart by the paths at which they are asked for. -/
theorem AsksFor.name_eq {base u u' : Url} {before name name' after : List Char}
    {query query' : Option (List Char)} (h : base.AsksFor before name after query u)
    (h' : base.AsksFor before name' after query' u') (hpath : u.path = u'.path) : name = name' := by
  obtain ⟨segment, hsegment, -, hname⟩ := h.path
  obtain ⟨segment', hsegment', -, hname'⟩ := h'.path
  rw [hsegment, hsegment'] at hpath
  have hsame : segment = segment' := List.append_cancel_right
    (List.cons.inj (List.append_cancel_left (List.append_cancel_left hpath))).2
  rw [hsame, hname'] at hname
  exact (Except.ok.inj hname).symm

end Url

namespace Service

open Url (route isWord slashed rooted)

/-! ## Requests -/

/-- The parameters are written as this query. -/
inductive WrittenAs : Option (Table String Value) → Option (List Char) → Prop
  | none : WrittenAs none none
  | some {table : Table String Value} {query : List Char}
      (hwritable : Url.areWritable table = true) (hquery : Url.queryOf table = .some query)
      (hchars : ∀ c ∈ query, Url.isQueryChar c = true)
      (hlength : query.length ≤ Url.lengthLimit) : WrittenAs (.some table) (.some query)

theorem isUnreserved_of_mem_integerText {n : Int} :
    ∀ c ∈ integerText n, isUnreserved c = true := by
  intro c hc
  rcases Number.mem_integerText hc with hdigit | rfl
  · simp [isUnreserved, Char.isAlphanum, hdigit]
  · decide

/-- An integer within the limit has few characters. -/
theorem length_integerText_le {n : Int} (h : Number.withinLimit n = true) :
    (integerText n).length ≤ Number.digitLimit + 1 := by
  have hdigits := Number.withinLimit_iff.mp h
  rw [integerText]
  split
  · exact Nat.succ_le_succ hdigits
  · exact Nat.le_succ_of_le hdigits

/-- A longer one makes parameters that cannot be written. -/
theorem areWritable_of_not_withinLimit (key : String) {n : Int}
    (h : Number.withinLimit n = false) : Url.areWritable [(key, .int n)] = false := by
  rw [Url.areWritable, List.all_cons, Value.isWritable, h, Bool.false_and]

/-- An integer as a parameter. -/
theorem writtenAs_integer {key : String} (hkey : ∀ c ∈ key.toList, isUnreserved c = true)
    (hlength : key.toList.length + (Number.digitLimit + 2) ≤ Url.lengthLimit) {n : Int}
    (hn : Number.withinLimit n = true) :
    WrittenAs (.some [(key, .int n)]) (.some (key.toList ++ '=' :: integerText n)) := by
  have hfield : Url.formField key (.int n) = key.toList ++ '=' :: integerText n := by
    have htext : Url.parameterText (.int n) = integerText n := rfl
    rw [Url.formField, htext, Text.formEncode_of_isUnreserved hkey,
      Text.formEncode_of_isUnreserved isUnreserved_of_mem_integerText]
  refine .some ?_ ?_ ?_ ?_
  · simp [Url.areWritable, Value.isWritable, hn]
  · rw [← hfield]
    simp [Url.queryOf, Url.parameterValues]
  · have hquery : ∀ c, isUnreserved c = true → Url.isQueryChar c = true := by
      intro c hc
      have hsegment := Url.isSegmentChar_of_isUnreserved hc
      rw [Url.isSegmentChar, Url.isPlainChar, Url.isPathChar, Bool.and_eq_true, Bool.and_eq_true,
        Bool.and_eq_true] at hsegment
      exact hsegment.1.1.1
    intro c hc
    rw [List.mem_append, List.mem_cons] at hc
    rcases hc with hc | rfl | hc
    · exact hquery c (hkey c hc)
    · decide
    · exact hquery c (isUnreserved_of_mem_integerText c hc)
  · have htext := length_integerText_le hn
    rw [List.length_append, List.length_cons]
    omega

section Sending

variable {s : Service} {base b u : Url} {before name after : List Char}
  {params : Option (Table String Value)} {query : Option (List Char)}

/-- Parameters replace the query and leave the rest as it is. -/
theorem withParams_eq {path : List Char} (hb : b.IsNormal) (hfragment : b.fragment = none)
    (hpath : ∀ c ∈ path, Url.isPathChar c = true)
    (hnames : ∀ piece ∈ splitOn '/' path, Url.isName piece = true)
    (h : b.withPath path = .ok u) (hquery : WrittenAs params query) :
    withParams u params = .ok { u with query := query } := by
  cases hquery with
  | none =>
    obtain ⟨-, -, -, hnone, -⟩ := Url.withPath_of_names hb hpath hnames h
    rw [← hnone]
    rfl
  | some hwritable hquery hchars hlength =>
    rw [withParams, if_pos hwritable, hquery,
      Url.withQuery_eq hb hpath hnames hfragment h hchars hlength]

/-- Parameters that cannot be written leave nothing to send. -/
theorem request_of_not_writable {timeout : Value} {path : List Char} {table : Table String Value}
    (hb : s.base = .ok b) (htimeout : readTimeout s.timeout = .ok timeout)
    (hu : target b path = .ok u) (h : Url.areWritable table = false) :
    s.request path (some table) = .error .parameterTooLong := by
  simp only [request, hb, htimeout, hu, bind, Except.bind, withParams, h]
  rfl

/-- Of routes only those to dot segments are refused. -/
theorem resourcePath?_route (hbefore : isWord before = true) (hafter : isWord after = true) :
    resourcePath? (route before name after)
      = if Url.isName name then some (route before name after) else none := by
  have hdrop : (route before name after).dropWhile (· = '/') = route before name after :=
    Text.dropWhile_stop fun c hc => decide_eq_false fun h => Url.head?_route hbefore (h ▸ hc)
  cases hname : Url.isName name with
  | true =>
    have hnames := Url.isName_route hbefore hafter hname
    rw [← hdrop] at hnames
    rw [resourcePath?_of_isName hnames, hdrop]
    rfl
  | false =>
    obtain ⟨hdots, hsame⟩ := Url.dots_of_isName_eq_false hname
    refine resourcePath?_eq_none_iff.mpr ⟨name, ?_, hdots⟩
    rw [hdrop, Url.splitOn_route hbefore hafter, hsame]
    exact List.mem_cons_of_mem _ List.mem_cons_self

variable (hbase : base.IsPlainBase) (hb : s.base = .ok b) (hslash : base.asBase = .ok b)
  (hbefore : isWord before = true) (hafter : isWord after = true)
  (hname : Url.isName name = true) (hquery : WrittenAs params query)

include hbase hbefore hafter in
theorem isPathChar_append_route (name : List Char) :
    ∀ c ∈ slashed (rooted base.path) ++ route before name after, Url.isPathChar c = true := by
  intro c hc
  rcases List.mem_append.mp hc with hc | hc
  · exact hbase.isPathChar c hc
  · exact Url.isPathChar_of_isPlainChar (Url.isPlainChar_route hbefore hafter c hc)

include hbase hb hslash hbefore hafter hname hquery in
/-- A request for a name asks for it. -/
theorem asksFor_of_request {sent : Request}
    (h : s.request (route before name after) params = .ok sent) :
    ∃ u, b.withPath (slashed (rooted base.path) ++ route before name after) = .ok u
      ∧ u.IsNormal ∧ sent.target = { u with query := query }
      ∧ base.AsksFor before name after query sent.target := by
  obtain ⟨horigin, hnormal, hfragment, hraw⟩ := hbase.asBase_eq hslash
  obtain ⟨b', u, hb', -, hu, hparams⟩ := request_eq_ok_iff.mp h
  rw [hb] at hb'
  cases hb'
  have hlength : (route before name after).length ≤ Url.lengthLimit := by
    obtain ⟨r, hr, -⟩ := join_of_target hu
    exact Url.length_le_of_parse hr
  have hwith : b.withPath (slashed (rooted base.path) ++ route before name after) = .ok u := by
    rw [← hraw]
    exact (target_eq_ok_iff (Url.isPlainChar_route hbefore hafter) (Url.head?_route hbefore)
      hlength).mp hu
  have hchars := isPathChar_append_route hbase hbefore hafter name
  have hnames := hbase.isName_append _ (Url.isName_route hbefore hafter hname)
  obtain ⟨horigin', hnormal', hpath, -, -⟩ := Url.withPath_of_names hnormal hchars hnames hwith
  have hsent : sent.target = { u with query := query } := by
    rw [withParams_eq hnormal hfragment hchars hnames hwith hquery] at hparams
    exact (Except.ok.inj hparams).symm
  refine ⟨u, hwith, hnormal', hsent, ?_⟩
  rw [hsent]
  refine ⟨(horigin.trans horigin').trans ⟨rfl, rfl, rfl⟩, ?_, rfl⟩
  refine ⟨percentEncode isUnreserved name, hpath, ?_, Url.percentDecode_segment name⟩
  intro c hc
  have hsegment := Url.isSegmentChar_percentEncode c hc
  refine ⟨?_, ?_, ?_⟩ <;> rintro rfl <;> exact absurd hsegment (by decide)

include hbase hb hslash hbefore hafter hname hquery in
/-- A name can be asked for, if the base can by itself. -/
theorem exists_request_of_route {sent : Request} (hsent : s.request [] none = .ok sent)
    (hlength : (slashed (rooted base.path) ++ route before name after).length
      ≤ Url.lengthLimit) :
    ∃ sent', s.request (route before name after) params = .ok sent' := by
  obtain ⟨-, hnormal, hfragment, hraw⟩ := hbase.asBase_eq hslash
  have hshort : (route before name after).length ≤ Url.lengthLimit :=
    Nat.le_trans (List.sublist_append_right _ _).length_le hlength
  obtain ⟨u, hu⟩ := Url.exists_withPath_append (Or.inr (Url.head?_route hbefore))
    (withPath_of_request hb hsent) (by rwa [hraw])
  obtain ⟨-, -, -, htimeout, -, -⟩ := request_eq_ok_iff.mp hsent
  refine ⟨⟨{ u with query := query }, sent.timeout⟩,
    request_eq_ok_iff.mpr ⟨b, u, hb, htimeout, ?_, ?_⟩⟩
  · exact (target_eq_ok_iff (Url.isPlainChar_route hbefore hafter) (Url.head?_route hbefore)
      hshort).mpr hu
  · rw [hraw] at hu
    exact withParams_eq hnormal hfragment (isPathChar_append_route hbase hbefore hafter name)
      (hbase.isName_append _ (Url.isName_route hbefore hafter hname)) hu hquery

end Sending

/-! ## Endpoints -/

/-- A way to ask a service at a base for names, with something else to choose: each name is
asked for with one request, between two words and with a query, names stay apart, and dot
segments are refused. -/
structure IsEndpoint {α : Type} (base : Url) (before after : String)
    (query : α → Option (List Char)) (fetch : α → String → Fetched) : Prop where
  asks : ∀ a name, name ≠ "." → name ≠ ".." →
    (slashed (rooted base.path) ++ route before.toList name.toList after.toList).length
      ≤ Url.lengthLimit →
    ∃ sent, (fetch a name).requests = [sent]
      ∧ base.AsksFor before.toList name.toList after.toList (query a) sent.target
  apart : ∀ a a' name name', name ≠ name' →
    ∀ sent ∈ (fetch a name).requests, ∀ sent' ∈ (fetch a' name').requests,
      sent.target.text ≠ sent'.target.text
  dots : ∀ a name, name = "." ∨ name = ".." → (fetch a name).requests = []
    ∧ (fetch a name).outcome = .error (.fetch
        ⟨.str (before ++ "/" ++ name ++ "/" ++ after), .null,
          .str "resource escapes the service base path"⟩ none)

/-- Two names are no segments. -/
theorem isName_toList_iff {name : String} :
    Url.isName name.toList = true ↔ name ≠ "." ∧ name ≠ ".." := by
  have hlist : ∀ other : String, name.toList = other.toList ↔ name = other :=
    fun other => String.toList_inj
  simp only [Url.isName, Text.isDot, Text.isDotDot, Bool.not_eq_true', Bool.or_eq_false_iff,
    beq_eq_false_iff_ne]
  exact and_congr (not_congr (hlist ".")) (not_congr (hlist ".."))

section Fetching

variable {s : Service} {base b : Url} {before after : String} (hbase : base.IsPlainBase)
  (hb : s.base = .ok b) (hslash : base.asBase = .ok b) (hbefore : isWord before.toList = true)
  (hafter : isWord after.toList = true) (levels : Nat) (transport : Transport)
  {name resource : String}
  (hresource : resource.toList = route before.toList name.toList after.toList)
  {params : Option (Table String Value)} {query : Option (List Char)}

include hbefore hafter hresource in
/-- Names that are no dot segments are asked for. -/
theorem request_of_mem_requests_route {sent : Request}
    (h : sent ∈ (s.fetchWith levels transport resource params).requests) :
    Url.isName name.toList = true
      ∧ s.request (route before.toList name.toList after.toList) params = .ok sent := by
  obtain ⟨path, hpath, hsent⟩ := request_of_mem_requests h
  rw [hresource, resourcePath?_route hbefore hafter] at hpath
  obtain ⟨hname, hroute⟩ := Option.ite_none_right_eq_some.mp hpath
  cases hroute
  exact ⟨hname, hsent⟩

include hbefore hafter hresource in
/-- Dot segments are refused. -/
theorem fetchWith_of_dots (hname : Url.isName name.toList = false) :
    (s.fetchWith levels transport resource params).requests = []
      ∧ (s.fetchWith levels transport resource params).outcome = .error (.fetch
          ⟨.str (before ++ "/" ++ name ++ "/" ++ after), .null,
            .str "resource escapes the service base path"⟩ none) := by
  have hpath : resourcePath? resource.toList = none := by
    rw [hresource, resourcePath?_route hbefore hafter, hname]
    rfl
  have hplain : resource = before ++ "/" ++ name ++ "/" ++ after := by
    rw [← String.toList_inj, hresource, route, (Url.dots_of_isName_eq_false hname).2]
    simp
  rw [fetchWith, hpath, ← hplain]
  exact ⟨rfl, rfl⟩

/-- With a parameter that is too long to be written nothing is sent. -/
theorem requests_of_not_writable {table : Table String Value}
    (h : Url.areWritable table = false) :
    (s.fetchWith levels transport resource (some table)).requests = [] := by
  refine List.eq_nil_iff_forall_not_mem.mpr fun sent hmem => ?_
  obtain ⟨path, -, hsent⟩ := request_of_mem_requests hmem
  obtain ⟨b, u, -, -, -, hparams⟩ := request_eq_ok_iff.mp hsent
  rw [withParams, h] at hparams
  cases hparams

include hbase hb hslash hbefore hafter hresource in
/-- A name that can be asked for is not, with a parameter that is too long to be written. -/
theorem outcome_of_not_writable (hname : Url.isName name.toList = true) {sent : Request}
    (hsent : s.request [] none = .ok sent)
    (hlength : (slashed (rooted base.path)
      ++ route before.toList name.toList after.toList).length ≤ Url.lengthLimit)
    {table : Table String Value} (h : Url.areWritable table = false) :
    (s.fetchWith levels transport resource (some table)).outcome
      = .error .parameterTooLong := by
  obtain ⟨sent', hsent'⟩ :=
    exists_request_of_route hbase hb hslash hbefore hafter hname .none hsent hlength
  obtain ⟨b', u, hb', htimeout, hu, -⟩ := request_eq_ok_iff.mp hsent'
  have hpath : resourcePath? resource.toList
      = some (route before.toList name.toList after.toList) := by
    rw [hresource, resourcePath?_route hbefore hafter, if_pos hname]
  rw [fetchWith, hpath]
  dsimp only
  rw [request_of_not_writable hb' htimeout hu h]

include hbase hb hslash hbefore hafter in
/-- A fetch by route is an endpoint. -/
theorem isEndpoint_of_route {α : Type} {resource : String → String}
    {params : α → Option (Table String Value)} {query : α → Option (List Char)} {sent : Request}
    (hresource : ∀ name, (resource name).toList
      = route before.toList name.toList after.toList)
    (hquery : ∀ a, WrittenAs (params a) (query a)) (hsent : s.request [] none = .ok sent) :
    IsEndpoint base before after query
      fun a name => s.fetchWith levels transport (resource name) (params a) where
  asks := by
    intro a name hdot hdots hlength
    have hname := isName_toList_iff.mpr ⟨hdot, hdots⟩
    obtain ⟨sent', hsent'⟩ :=
      exists_request_of_route hbase hb hslash hbefore hafter hname (hquery a) hsent hlength
    obtain ⟨-, -, -, -, hasks⟩ :=
      asksFor_of_request hbase hb hslash hbefore hafter hname (hquery a) hsent'
    refine ⟨sent', requests_of_request levels transport ?_ hsent', hasks⟩
    rw [hresource, resourcePath?_route hbefore hafter, if_pos hname]
  apart := by
    intro a a' name name' hne sent hsent sent' hsent' htext
    obtain ⟨hname, hrequest⟩ :=
      request_of_mem_requests_route hbefore hafter levels transport (hresource name) hsent
    obtain ⟨hname', hrequest'⟩ :=
      request_of_mem_requests_route hbefore hafter levels transport (hresource name') hsent'
    obtain ⟨u, hu, hnormal, htarget, hasks⟩ :=
      asksFor_of_request hbase hb hslash hbefore hafter hname (hquery a) hrequest
    obtain ⟨u', hu', hnormal', htarget', hasks'⟩ :=
      asksFor_of_request hbase hb hslash hbefore hafter hname' (hquery a') hrequest'
    have hpath : sent.target.path = sent'.target.path := by
      refine Url.path_of_text_eq ?_ ?_ ?_ htext
      · rw [htarget]
        exact hnormal.path
      · rw [htarget']
        exact hnormal'.path
      · rw [htarget, htarget', Url.withPath_congr hu hu']
    exact hne (String.toList_inj.mp (hasks.name_eq hasks' hpath))
  dots := by
    intro a name hname
    refine fetchWith_of_dots hbefore hafter levels transport (hresource name) ?_
    rcases hname with rfl | rfl <;> rfl

end Fetching

/-- **Names stay apart.** A service at a base without query, fragment and dot segments, which
can be asked for by itself, sends one request for the classes of a package, and one for the
nodes around a node if the depth can be written. The request goes to the origin of the base.
Its path continues that of the base with one segment between two words, from which the name
can be read back, and its query is none or the depth. Distinct names are asked for at distinct
addresses. Dot segments are refused, and nothing is sent. Nor is it for a depth that is too long
to be written, which is what comes of it if the name could be asked for. -/
theorem endpoints_keep_names_apart (s : Service) (levels : Nat) (transport : Transport)
    (text : String) (base : Url) (sent : Request) (hs : s.baseUrl = .str text)
    (hparse : Url.parse text.toList = .ok base) (hquery : base.query = none)
    (hfragment : base.fragment = none)
    (hnames : ∀ piece ∈ splitOn '/' base.path, piece ≠ ['.'] ∧ piece ≠ ['.', '.'])
    (hsent : s.request [] none = .ok sent) :
    IsEndpoint base "packages" "classes" (fun _ : Unit => none)
        (fun _ name => s.fetchClasses levels transport (.str name))
      ∧ IsEndpoint base "nodes" "neighborhood"
          (fun depth : { n : Int // Number.withinLimit n = true } =>
            some ("depth=".toList ++ integerText depth))
          (fun depth name => s.fetchNeighborhood levels transport (.str name) (.int depth))
      ∧ ∀ (depth : Int) (name : String), Number.withinLimit depth = false →
          (s.fetchNeighborhood levels transport (.str name) (.int depth)).requests = []
            ∧ (name ≠ "." → name ≠ ".." →
              (slashed (rooted base.path)
                ++ route "nodes".toList name.toList "neighborhood".toList).length
                  ≤ Url.lengthLimit →
              (s.fetchNeighborhood levels transport (.str name) (.int depth)).outcome
                = .error .parameterTooLong) := by
  obtain ⟨b, -, hb, -, -, -⟩ := request_eq_ok_iff.mp hsent
  have hslash := asBase_of_base hs hparse hb
  have hbase : base.IsPlainBase := by
    refine ⟨Url.isNormal_of_parse hparse, hquery, hfragment, fun piece hpiece => ?_⟩
    simpa [Url.isName, Text.isDot, Text.isDotDot] using hnames piece hpiece
  have hclasses : ∀ name : String, ("packages/" ++ segment name ++ "/classes").toList
      = route "packages".toList name.toList "classes".toList := by
    intro name
    simp [segment, route]
  have hneighborhood : ∀ name : String, ("nodes/" ++ segment name ++ "/neighborhood").toList
      = route "nodes".toList name.toList "neighborhood".toList := by
    intro name
    simp [segment, route]
  have hdepth : ∀ depth : { n : Int // Number.withinLimit n = true },
      WrittenAs (some [("depth", .int depth)]) (some ("depth=".toList ++ integerText depth)) :=
    fun depth => writtenAs_integer (List.all_eq_true.mp (by decide)) (by decide) depth.property
  have hpackages := isEndpoint_of_route hbase hb hslash (by decide) (by decide) levels transport
    hclasses (fun _ : Unit => .none) hsent
  have hnodes := isEndpoint_of_route hbase hb hslash (by decide) (by decide) levels transport
    hneighborhood hdepth hsent
  refine ⟨hpackages, hnodes, fun depth name hlong => ?_⟩
  have hwritable := areWritable_of_not_withinLimit "depth" hlong
  rw [fetchNeighborhood]
  refine ⟨requests_of_not_writable levels transport hwritable, fun hdot hdots hlength => ?_⟩
  exact outcome_of_not_writable hbase hb hslash (by decide) (by decide) levels transport
    (hneighborhood name) (isName_toList_iff.mpr ⟨hdot, hdots⟩) hsent hlength hwritable

/-- Names that look like paths, queries and fragments. -/
theorem endpoints_keep_names_apart_marks :
    ∃ base sent sent', Url.parse "http://graph.test/api/graph".toList = .ok base
      ∧ (Service.fetchClasses { baseUrl := .str "http://graph.test/api/graph" } 1000
          (fun _ => .answer 200 []) (.str "a/../b?c#d%2Fé")).requests = [sent]
      ∧ base.AsksFor "packages".toList "a/../b?c#d%2Fé".toList "classes".toList none sent.target
      ∧ (Service.fetchNeighborhood { baseUrl := .str "http://graph.test/api/graph" } 1000
          (fun _ => .answer 200 []) (.str "http://x:y") (.int (-1))).requests = [sent']
      ∧ base.AsksFor "nodes".toList "http://x:y".toList "neighborhood".toList
          (some "depth=-1".toList) sent'.target := by
  obtain ⟨hclasses, hneighborhood, -⟩ := endpoints_keep_names_apart
    { baseUrl := .str "http://graph.test/api/graph" } 1000 (fun _ => .answer 200 [])
    "http://graph.test/api/graph" _ _ rfl rfl rfl rfl (by decide) rfl
  obtain ⟨sent, hsent, hasks⟩ :=
    hclasses.asks () "a/../b?c#d%2Fé" (by decide) (by decide) (by decide +kernel)
  obtain ⟨sent', hsent', hasks'⟩ :=
    hneighborhood.asks ⟨-1, by decide +kernel⟩ "http://x:y" (by decide) (by decide)
      (by decide +kernel)
  exact ⟨_, sent, sent', rfl, hsent, hasks, hsent', hasks'⟩

/-- A depth of more digits than are written: nothing is sent, and what comes is no failure
to fetch. -/
theorem endless_depth_sends_nothing :
    (Service.fetchNeighborhood { baseUrl := .str "http://graph.test/api/graph" } 1000
        (fun _ => .answer 200 [123, 125]) (.str "a")
        (.int (Nat.pow 10 Number.digitLimit))).requests = []
      ∧ (Service.fetchNeighborhood { baseUrl := .str "http://graph.test/api/graph" } 1000
          (fun _ => .answer 200 [123, 125]) (.str "a")
          (.int (Nat.pow 10 Number.digitLimit))).outcome = .error .parameterTooLong := by
  have hlimit : Number.withinLimit (Nat.pow 10 Number.digitLimit) = false := by
    rw [Number.withinLimit, decide_eq_false_iff_not, Int.natAbs_natCast]
    exact Nat.lt_irrefl _
  have hpath : resourcePath? ("nodes/" ++ segment "a" ++ "/neighborhood").toList
      = some "nodes/a/neighborhood".toList := by decide
  have hrequest : Service.request { baseUrl := .str "http://graph.test/api/graph" }
      "nodes/a/neighborhood".toList (some [("depth", .int (Nat.pow 10 Number.digitLimit))])
        = .error .parameterTooLong :=
    request_of_not_writable rfl rfl rfl (areWritable_of_not_withinLimit "depth" hlimit)
  rw [fetchNeighborhood, fetchWith, hpath]
  dsimp only
  rw [hrequest]
  exact ⟨rfl, rfl⟩

end Service

end CodeAtlas
