/-
CodeAtlas.Proofs.Source.Addressing — the addresses of plain resources.

A resource is written into a URL several times over. It is read as a URL by itself, it is put
behind the path of the base, and the whole is normalized again. A plain resource, one without
marks and dot segments, comes through all this without loss: the path of the address stands
for the path of the base followed by the resource (`LeadsTo`), whatever blanks, quotes, braces
and letters are in it. So two plain resources are asked for at two addresses
(`plain_resources_are_addressed_exactly`).

One kind of base is left out, though a URL is made of it: a host of four numbers that is no
address, with points outside ASCII between them. It is refused when a resource is put below it
(`false_address_is_not_asked`).

The operation is `fetch_slice` of `GraphSliceClient`.
-/
import CodeAtlas.Proofs.Source.Endpoint
import CodeAtlas.Proofs.Url.Changeable

namespace CodeAtlas

open Text (splitOn percentEncode percentDecode encodeUtf8)

namespace Url

/-! ## Plain resources -/

def unslashed (resource : List Char) : List Char := resource.dropWhile (· = '/')

/-- A resource that fits below a base as it is: it has no marks, no percent signs, no control
characters and no dot segments, and behind the path of the base it is not too long. -/
structure Takes (base : Url) (resource : List Char) : Prop where
  chars : ∀ c ∈ resource, c ∉ [':', '?', '#', '%'] ∧ 32 ≤ c.toNat ∧ c.toNat ≠ 127
  names : ∀ piece ∈ splitOn '/' (unslashed resource), piece ≠ ['.'] ∧ piece ≠ ['.', '.']
  length : (slashed (rooted base.path) ++ percentEncode isPathChar (unslashed resource)).length
    ≤ lengthLimit

/-- The address continues a base with a resource: with the origin of the base, without a query,
and with a path that stands for the path of the base and a slash, followed by the resource. -/
structure LeadsTo (base : Url) (resource : List Char) (u : Url) : Prop where
  origin : base.SameOrigin u
  query : u.query = none
  path : percentDecode (encodeUtf8 u.path)
    = percentDecode (encodeUtf8 (slashed (rooted base.path))) ++ encodeUtf8 (unslashed resource)

section Takes

variable {base : Url} {resource : List Char}

/-- Nothing in such a resource marks a part of a URL. -/
theorem Takes.isUnmarked (h : base.Takes resource) :
    ∀ c ∈ unslashed resource, Url.isUnmarked c = true := by
  intro c hc
  obtain ⟨hmarks, hlow, hdelete⟩ := h.chars c (List.dropWhile_subset _ hc)
  have hprintable : 128 ≤ c.toNat ∨ isPrintable c = true := by
    rw [isPrintable, Bool.and_eq_true, decide_eq_true_eq, decide_eq_true_eq]
    omega
  simp only [List.mem_cons, List.not_mem_nil, or_false, not_or] at hmarks
  simp [Url.isUnmarked, hmarks, hprintable]

theorem Takes.ne_percent (h : base.Takes resource) : ∀ c ∈ unslashed resource, c ≠ '%' := by
  rintro c hc rfl
  exact (h.chars '%' (List.dropWhile_subset _ hc)).1 (by decide)

/-- Its pieces are names, so no piece leads up. -/
theorem Takes.isName (h : base.Takes resource) :
    ∀ piece ∈ splitOn '/' (unslashed resource), Url.isName piece = true := by
  intro piece hpiece
  simpa [Url.isName, Text.isDot, Text.isDotDot] using h.names piece hpiece

/-- Encoding keeps them names. -/
theorem Takes.isName_percentEncode (h : base.Takes resource) :
    ∀ piece ∈ splitOn '/' (percentEncode isPathChar (unslashed resource)),
      Url.isName piece = true := by
  intro piece hpiece
  rw [Text.splitOn_percentEncode (by decide) (by decide)] at hpiece
  obtain ⟨raw, hraw, rfl⟩ := List.mem_map.mp hpiece
  exact Url.isName_percentEncode _ (h.isName raw hraw)

/-- A service does not refuse it. -/
theorem Takes.resourcePath? (h : base.Takes resource) :
    Service.resourcePath? resource = some (unslashed resource) :=
  Service.resourcePath?_of_isName h.isName

end Takes

/-! ## Paths -/

/-- The path of a base and a resource behind it are read apart. -/
theorem percentDecode_slashed_append (path : List Char) {tail : List Char}
    (htail : ∀ c ∈ tail, c ≠ '%') :
    percentDecode (encodeUtf8 (slashed path ++ percentEncode isPathChar tail))
      = percentDecode (encodeUtf8 (slashed path)) ++ encodeUtf8 tail := by
  obtain ⟨front, hslashed, -⟩ := slashed_eq_concat path
  have hslash : encodeUtf8 ['/'] = [0x2F] := by decide
  rw [hslashed, Text.encodeUtf8_append, Text.encodeUtf8_append, hslash, List.append_assoc,
    List.singleton_append, Text.percentDecode_append_break (by decide) (by decide),
    Text.percentDecode_percentEncode_all fun c hc _ => htail c hc]

/-- Resources are told apart by the paths that lead to them. -/
theorem LeadsTo.unslashed_eq {base u u' : Url} {resource resource' : List Char}
    (h : base.LeadsTo resource u) (h' : base.LeadsTo resource' u') (hpath : u.path = u'.path) :
    unslashed resource = unslashed resource' := by
  have hbytes : encodeUtf8 (unslashed resource) = encodeUtf8 (unslashed resource') := by
    have hdecode := h.path
    rw [hpath, h'.path] at hdecode
    exact (List.append_cancel_left hdecode).symm
  have hread := Text.decodeUtf8_encodeUtf8 (unslashed resource)
  rw [hbytes, Text.decodeUtf8_encodeUtf8] at hread
  exact (Except.ok.inj hread).symm

/-! ## Addresses -/

/-- The address of a plain resource leads to it. -/
theorem Takes.leadsTo {base b u : Url} {resource : List Char} (h : base.Takes resource)
    (hbase : base.IsPlainBase) (hb : base.asBase = .ok b)
    (hu : b.withPath (b.rawPath ++ percentEncode isPathChar (unslashed resource)) = .ok u) :
    u.IsNormal ∧ base.LeadsTo resource u := by
  obtain ⟨horigin, hnormal, -, hraw⟩ := hbase.asBase_eq hb
  rw [hraw] at hu
  have hchars : ∀ c ∈ slashed (rooted base.path) ++ percentEncode isPathChar (unslashed resource),
      isPathChar c = true := by
    intro c hc
    rcases List.mem_append.mp hc with hc | hc
    · exact hbase.isPathChar c hc
    · exact Text.keep_of_mem_percentEncode (by decide) hc
  obtain ⟨horigin', hnormal', hpath, hquery, -⟩ :=
    withPath_of_names hnormal hchars (hbase.isName_append _ h.isName_percentEncode) hu
  refine ⟨hnormal', horigin.trans horigin', hquery, ?_⟩
  rw [hpath, percentDecode_slashed_append _ h.ne_percent]

end Url

namespace Service

open Url (unslashed slashed rooted)

variable {s : Service} {base b u : Url} {resource : List Char} {text : String}

/-- Where it leads is the path of the base with the encoded resource behind it. -/
theorem target_of_takes (h : base.Takes resource) :
    target b (unslashed resource) = .ok u ↔
      b.withPath (b.rawPath ++ percentEncode Url.isPathChar (unslashed resource)) = .ok u := by
  have hlength : (unslashed resource).length ≤ Url.lengthLimit :=
    calc (unslashed resource).length
        ≤ (percentEncode Url.isPathChar (unslashed resource)).length :=
          Text.length_le_percentEncode _
      _ ≤ (slashed (rooted base.path)
            ++ percentEncode Url.isPathChar (unslashed resource)).length :=
          (List.sublist_append_right _ _).length_le
      _ ≤ Url.lengthLimit := h.length
  exact target_of_unmarked h.isUnmarked (head?_dropWhile_slash resource) hlength

theorem base_eq_ok (hs : s.baseUrl = .str text)
    (hparse : Url.parse text.toList = .ok base) (hb : base.asBase = .ok b) : s.base = .ok b := by
  simp only [Service.base, hs, hparse, hb]

/-- A plain resource has an address below a changeable base. -/
theorem exists_request_of_takes {timeout : Value} (h : base.Takes resource)
    (hs : s.baseUrl = .str text) (htimeout : readTimeout s.timeout = .ok timeout)
    (hparse : Url.parse text.toList = .ok base) (hbase : base.IsPlainBase)
    (hchange : base.Changeable) :
    ∃ sent, s.request (unslashed resource) none = .ok sent := by
  have hraw : base.rawPath = rooted base.path := Url.rawPath_of_query_none hbase.query
  have hlength : (slashed base.rawPath).length ≤ Url.lengthLimit :=
    hraw ▸ Nat.le_trans (List.sublist_append_left _ _).length_le h.length
  obtain ⟨b, hb, hchange'⟩ := hchange.exists_asBase hlength
  obtain ⟨-, -, -, hslashed⟩ := hbase.asBase_eq hb
  have hchars : ∀ c ∈ percentEncode Url.isPathChar (unslashed resource), Url.isPathChar c = true :=
    fun c hc => Text.keep_of_mem_percentEncode (by decide) hc
  have hhead : (percentEncode Url.isPathChar (unslashed resource)).head? ≠ some '/' :=
    mt (Text.head?_of_percentEncode (by decide)) (head?_dropWhile_slash resource)
  obtain ⟨u, hu⟩ := hchange'.exists_withPath hchars (Or.inr hhead) (hslashed ▸ h.length)
  exact ⟨⟨u, timeout⟩,
    request_eq_ok (base_eq_ok hs hparse hb) htimeout ((target_of_takes h).mpr hu)⟩

/-- What is sent for a plain resource leads to it. -/
theorem leadsTo_of_request {sent : Request} (h : base.Takes resource)
    (hs : s.baseUrl = .str text) (hparse : Url.parse text.toList = .ok base)
    (hbase : base.IsPlainBase) (hsent : s.request (unslashed resource) none = .ok sent) :
    sent.target.IsNormal ∧ base.LeadsTo resource sent.target
      ∧ ∃ b raw, s.base = .ok b ∧ b.withPath raw = .ok sent.target := by
  obtain ⟨b, hb, htarget⟩ := target_of_request hsent
  have hu := (target_of_takes h).mp htarget
  obtain ⟨hnormal, hleads⟩ := h.leadsTo hbase (asBase_of_base hs hparse hb) hu
  exact ⟨hnormal, hleads, b, _, hb, hu⟩

/-- **Plain resources are addressed exactly.** Below a base without query, fragment and dot
segments, whose host is an address if it is four numbers, each plain resource is asked for with
one request. The request goes to the origin of the base, without a query, and its path stands
for the path of the base followed by the resource without slashes in front. So resources that
differ in more than these slashes are never asked for at one address. -/
theorem plain_resources_are_addressed_exactly (s : Service) (levels : Nat) (transport : Transport)
    (text : String) (base : Url) (timeout : Value) (hs : s.baseUrl = .str text)
    (htimeout : readTimeout s.timeout = .ok timeout)
    (hparse : Url.parse text.toList = .ok base) (hquery : base.query = none)
    (hfragment : base.fragment = none)
    (hnames : ∀ piece ∈ splitOn '/' base.path, piece ≠ ['.'] ∧ piece ≠ ['.', '.'])
    (hhost : Url.looksNumeric base.host = true → Url.isAddress4 base.host = true)
    (hauthority : base.authority.length ≤ Url.lengthLimit) :
    (∀ resource : String, base.Takes resource.toList →
        ∃ sent, (s.fetchWith levels transport resource none).requests = [sent]
          ∧ base.LeadsTo resource.toList sent.target)
      ∧ ∀ resource resource' : String, base.Takes resource.toList → base.Takes resource'.toList →
          unslashed resource.toList ≠ unslashed resource'.toList →
          ∀ sent ∈ (s.fetchWith levels transport resource none).requests,
          ∀ sent' ∈ (s.fetchWith levels transport resource' none).requests,
            sent.target.text ≠ sent'.target.text := by
  have hbase : base.IsPlainBase := by
    refine ⟨Url.isNormal_of_parse hparse, hquery, hfragment, fun piece hpiece => ?_⟩
    simpa [Url.isName, Text.isDot, Text.isDotDot] using hnames piece hpiece
  have hchange := Url.Changeable.of_parse hparse hquery hfragment hhost hauthority
  constructor
  · intro resource h
    obtain ⟨sent, hsent⟩ := exists_request_of_takes h hs htimeout hparse hbase hchange
    obtain ⟨-, hleads, -⟩ := leadsTo_of_request h hs hparse hbase hsent
    exact ⟨sent, requests_of_request levels transport h.resourcePath? hsent, hleads⟩
  · intro resource resource' h h' hne sent hsent sent' hsent' htext
    obtain ⟨path, hpath, hrequest⟩ := request_of_mem_requests hsent
    obtain ⟨path', hpath', hrequest'⟩ := request_of_mem_requests hsent'
    rw [h.resourcePath?] at hpath
    rw [h'.resourcePath?] at hpath'
    cases hpath
    cases hpath'
    obtain ⟨hnormal, hleads, b, raw, hb, hu⟩ := leadsTo_of_request h hs hparse hbase hrequest
    obtain ⟨hnormal', hleads', b', raw', hb', hu'⟩ :=
      leadsTo_of_request h' hs hparse hbase hrequest'
    rw [hb] at hb'
    cases hb'
    have hpath := Url.path_of_text_eq hnormal.path hnormal'.path (Url.withPath_congr hu hu') htext
    exact hne (hleads.unslashed_eq hleads' hpath)

/-- Blanks, quotes, braces, empty segments and dots inside a name. -/
theorem plain_resources_are_addressed_exactly_quotes :
    let base : Url := ⟨"http".toList, [], "graph.test".toList, none, "/api/graph".toList, none, none⟩
    base.Takes "//a \"b\"//\x7bé\x7d/v1..".toList
      ∧ ∃ sent, (Service.fetchWith { baseUrl := .str "http://graph.test/api/graph" } 1000
          (fun _ => .answer 200 []) "//a \"b\"//\x7bé\x7d/v1.." none).requests = [sent]
        ∧ base.LeadsTo "//a \"b\"//\x7bé\x7d/v1..".toList sent.target := by
  intro base
  have hchars : ("//a \"b\"//\x7bé\x7d/v1..".toList.all fun c =>
      decide (c ∉ [':', '?', '#', '%'] ∧ 32 ≤ c.toNat ∧ c.toNat ≠ 127)) = true := by decide
  have htakes : base.Takes "//a \"b\"//\x7bé\x7d/v1..".toList :=
    ⟨fun c hc => of_decide_eq_true (List.all_eq_true.mp hchars c hc), by decide,
      by decide +kernel⟩
  have haddressed := plain_resources_are_addressed_exactly
    { baseUrl := .str "http://graph.test/api/graph" } 1000 (fun _ => .answer 200 [])
    "http://graph.test/api/graph" base _ rfl rfl rfl rfl rfl (by decide) (by decide) (by decide)
  exact ⟨htakes, haddressed.1 _ htakes⟩

/-- Four numbers that are no address are taken for a name, if a point outside ASCII stands
between them. Only when a resource is put below them they are refused, and nothing is sent. -/
theorem false_address_is_not_asked :
    (∃ base, Url.parse "http://1.2.3。256/api".toList = .ok base ∧ base.query = none
        ∧ base.fragment = none ∧ base.path = "/api".toList ∧ base.Takes ['a'])
      ∧ (Service.fetchWith { baseUrl := .str "http://1.2.3。256/api" } 1000
          (fun _ => .answer 200 [123, 125]) "a" none).requests = []
      ∧ (Service.fetchWith { baseUrl := .str "http://1.2.3。256/api" } 1000
          (fun _ => .answer 200 [123, 125]) "a" none).outcome
          = .error (.url (.badAddress4 "1.2.3.256".toList)) := by
  have hname : Url.Domain.ascii? "1.2.3。256".toList = some "1.2.3.256".toList := by
    decide +kernel
  have hhost : Url.normalHost "1.2.3。256".toList = .ok "1.2.3.256".toList := by
    rw [Url.normalHost, if_neg (by decide), if_neg (by decide), if_neg (by decide),
      if_neg (by decide), hname]
  have hsplit : Url.split "http://1.2.3。256/api".toList
      = ⟨"http".toList, "1.2.3。256".toList, "/api".toList, none, none⟩ := rfl
  have hgives : Url.Components.Gives
      ⟨"http".toList, "1.2.3。256".toList, "/api".toList, none, none⟩
      ⟨"http".toList, [], "1.2.3.256".toList, none, "/api".toList, none, none⟩ :=
    ⟨rfl, rfl, hhost, rfl, rfl, rfl, rfl, rfl⟩
  have hparse : Url.parse "http://1.2.3。256/api".toList
      = .ok ⟨"http".toList, [], "1.2.3.256".toList, none, "/api".toList, none, none⟩ := by
    have hcontrol : Url.controlCharacter? "http://1.2.3。256/api".toList = none := rfl
    rw [Url.parse, if_neg (by decide), hcontrol, hsplit]
    exact hgives.normalize_eq
  have hrequest : Service.request { baseUrl := .str "http://1.2.3。256/api" } ['a'] none
      = .error (.url (.badAddress4 "1.2.3.256".toList)) := by
    simp only [request, base, hparse, bind, Except.bind]
    rfl
  have hpath : resourcePath? "a".toList = some ['a'] := by decide
  have htakes : ∀ c ∈ ['a'], c ∉ [':', '?', '#', '%'] ∧ 32 ≤ c.toNat ∧ c.toNat ≠ 127 :=
    List.forall_mem_singleton.mpr (by decide)
  refine ⟨⟨_, hparse, rfl, rfl, rfl, htakes, by decide, by decide⟩, ?_⟩
  rw [fetchWith, hpath]
  dsimp only
  rw [hrequest]
  exact ⟨rfl, rfl⟩

end Service

end CodeAtlas
