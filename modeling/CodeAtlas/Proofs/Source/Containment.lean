/-
CodeAtlas.Proofs.Source.Containment — which requests stay below the base of a service.

A service refuses resources with a dot segment. It looks for them in the text of the
resource, while the address is made from the parts of the URL that the text is read as,
and these are two different divisions of the text. So the check is enough for resources
without the marks that divide a URL, but not for all.

`request_isBelow_iff` says exactly when a request stays below the base. A resource that is
a URL of its own replaces the base, and has to be below it by itself. Of any other resource
the path counts, as far as it is read from the text: where it leads from the segments of
the base has to be below them.

The operation is `fetch_slice` of `GraphSliceClient`.
-/
import CodeAtlas.Source.Service
import CodeAtlas.Proofs.Url.Join

namespace CodeAtlas

open Text (splitOn percentEncode)
open Url (isName isPathChar StaysBelow)

namespace Service

/-! ## What is sent -/

theorem head?_dropWhile_slash (cs : List Char) : (cs.dropWhile (· = '/')).head? ≠ some '/' := by
  intro h
  have hnot := List.head?_dropWhile_not (fun c => decide (c = '/')) cs
  rw [h] at hnot
  exact absurd hnot (by decide)

/-- A resource that is not refused has no dot segments. -/
theorem isName_of_resourcePath? {resource path : List Char}
    (h : resourcePath? resource = some path) :
    path = resource.dropWhile (· = '/') ∧ ∀ piece ∈ splitOn '/' path, isName piece = true := by
  rw [resourcePath?] at h
  obtain ⟨hnone, hpath⟩ := Option.ite_none_left_eq_some.mp h
  cases hpath
  refine ⟨rfl, fun piece hpiece => ?_⟩
  rw [isName, Bool.not_eq_true', Bool.eq_false_iff]
  exact fun hdots => hnone (List.any_eq_true.mpr ⟨piece, hpiece, hdots⟩)

/-- What is sent for a resource is the request for its path. -/
theorem request_of_mem_requests {s : Service} {levels : Nat} {transport : Transport}
    {resource : String} {params : Option (Table String Value)} {sent : Request}
    (h : sent ∈ (s.fetchWith levels transport resource params).requests) :
    ∃ path, resourcePath? resource.toList = some path ∧ s.request path params = .ok sent := by
  rw [fetchWith] at h
  split at h
  · exact absurd h List.not_mem_nil
  · next path hpath =>
    split at h
    · exact absurd h List.not_mem_nil
    · next sent' hsent =>
      split at h
      · rw [List.mem_singleton.mp h]
        exact ⟨path, hpath, hsent⟩
      · rw [List.mem_singleton.mp h]
        exact ⟨path, hpath, hsent⟩

/-- A request takes four steps, each of which can fail. -/
theorem request_eq_ok_iff {s : Service} {path : List Char} {params : Option (Table String Value)}
    {sent : Request} :
    s.request path params = .ok sent ↔
      ∃ b u, s.base = .ok b ∧ readTimeout s.timeout = .ok sent.timeout ∧ target b path = .ok u
        ∧ withParams u params = .ok sent.target := by
  simp only [request, bind, Except.bind]
  constructor
  · intro h
    split at h
    · cases h
    · next b hb =>
      split at h
      · cases h
      · next timeout htimeout =>
        split at h
        · cases h
        · next u hu =>
          split at h
          · cases h
          · next v hv =>
            cases h
            exact ⟨b, u, hb, htimeout, hu, hv⟩
  · rintro ⟨b, u, hb, htimeout, hu, hv⟩
    simp only [hb, htimeout, hu, hv]
    rfl

theorem target_of_request {s : Service} {path : List Char} {sent : Request}
    (h : s.request path none = .ok sent) :
    ∃ b, s.base = .ok b ∧ target b path = .ok sent.target := by
  obtain ⟨b, u, hb, -, hu, hsent⟩ := request_eq_ok_iff.mp h
  cases hsent
  exact ⟨b, hb, hu⟩

/-- Where a path leads is the base joined with the path as a URL. -/
theorem join_of_target {b u : Url} {path : List Char} (h : target b path = .ok u) :
    ∃ r, Url.parse path = .ok r ∧ b.join r = .ok u := by
  rw [target] at h
  split at h
  · cases h
  · next r hr =>
    split at h
    · cases h
    · next hjoin =>
      cases h
      exact ⟨r, hr, hjoin⟩

/-- The base of a service is its URL, made a base. -/
theorem asBase_of_base {s : Service} {text : String} {base b : Url}
    (hs : s.baseUrl = .str text) (hparse : Url.parse text.toList = .ok base)
    (h : s.base = .ok b) : base.asBase = .ok b := by
  rw [Service.base, hs] at h
  simp only [hparse] at h
  split at h
  · cases h
  · next hb =>
    cases h
    exact hb

end Service

/-! ## Resources without marks -/

namespace Url

/-- A text without marks, and without a slash in front, is a path. -/
theorem split_of_plain {cs : List Char} (hplain : ∀ c ∈ cs, c ≠ ':' ∧ c ≠ '?' ∧ c ≠ '#')
    (hhead : cs.head? ≠ some '/') : split cs = ⟨[], [], cs, none, none⟩ := by
  have hscheme : splitScheme cs = ([], cs) := by
    have hcolon : cs.dropWhile (· ≠ ':') = [] :=
      Text.dropWhile_all fun c hc => decide_eq_true (hplain c hc).1
    rw [splitScheme, hcolon]
  have hauthority : splitAuthority cs = ([], cs) := by
    rw [splitAuthority.eq_def]
    split
    · exact absurd rfl hhead
    · rfl
  have hmarks : ∀ c ∈ cs, (decide (c ≠ '?') && decide (c ≠ '#')) = true := fun c hc => by
    simp [hplain c hc]
  simp only [split, hscheme, hauthority, Text.takeWhile_all hmarks, Text.dropWhile_all hmarks]
  rfl

/-- A path without marks and dot segments stays below the base from the start. -/
theorem staysBelow_of_plain {cs : List Char} {r : Url} (segments : List (List Char))
    (hplain : ∀ c ∈ cs, c ≠ ':' ∧ c ≠ '?' ∧ c ≠ '#') (hhead : cs.head? ≠ some '/')
    (hnames : ∀ piece ∈ splitOn '/' cs, isName piece = true) (h : parse cs = .ok r) :
    r.isAbsolute = false ∧ StaysBelow segments (splitOn '/' (r.path.dropWhile (· = '/'))) := by
  have hgives := gives_of_parse h
  rw [split_of_plain hplain hhead] at hgives
  have hscheme : r.scheme = [] := hgives.scheme
  have hpath : r.path = percentEncode isPathChar cs := hgives.bare rfl rfl
  refine ⟨by simp [isAbsolute, hscheme], ?_⟩
  refine staysBelow_of_isName segments (Text.splitOn_ne_nil _ _) fun piece hpiece => ?_
  have hmem := Text.splitOn_dropWhile_subset '/' r.path hpiece
  rw [hpath, Text.splitOn_percentEncode (by decide) (by decide)] at hmem
  obtain ⟨raw, hraw, rfl⟩ := List.mem_map.mp hmem
  exact isName_percentEncode _ (hnames raw hraw)

end Url

/-! ## Containment -/

/-- A resource leads below a base: it is a URL of its own that is there, or the pieces of
its path lead there from the segments of the base. -/
def Url.LeadsBelow (base r : Url) : Prop :=
  if r.isAbsolute then base.IsBelow r
  else StaysBelow base.baseSegments (splitOn '/' (r.path.dropWhile (· = '/')))

/-- Joined with a base, a resource is below it exactly if it leads there. -/
theorem Url.isBelow_iff_leadsBelow {base b r u : Url} (hbase : base.IsBase)
    (hb : base.asBase = .ok b) (hr : r.IsNormal) (h : b.join r = .ok u) :
    base.IsBelow u ↔ base.LeadsBelow r := by
  cases hrel : r.isAbsolute with
  | true =>
    rw [Url.join, hrel, if_pos rfl] at h
    cases h
    rw [Url.LeadsBelow, hrel, if_pos rfl]
  | false =>
    rw [Url.LeadsBelow, hrel, if_neg Bool.false_ne_true]
    exact Url.isBelow_join_iff hbase hb hr hrel h

/-- An absolute URL without a query may be a base. -/
theorem Url.isBase_of_parse {text : List Char} {base : Url} (h : Url.parse text = .ok base)
    (habs : base.isAbsolute = true) (hquery : base.query = none) : base.IsBase := by
  simp only [Url.isAbsolute, Bool.and_eq_true, Bool.not_eq_true', List.isEmpty_eq_false_iff] at habs
  exact ⟨Url.isNormal_of_parse h, habs.1, habs.2, hquery⟩

/-- A request that is sent for a resource stays below the base of the service exactly if
the URL that the resource is read as leads there; for a resource without colons, question
marks and hash signs it always does. -/
theorem Service.request_isBelow_iff (s : Service) (levels : Nat) (transport : Transport)
    (resource text : String) (base : Url) (sent : Request) (hs : s.baseUrl = .str text)
    (hparse : Url.parse text.toList = .ok base) (habs : base.isAbsolute = true)
    (hquery : base.query = none)
    (hsent : sent ∈ (s.fetchWith levels transport resource none).requests) :
    (∃ r, Url.parse (resource.toList.dropWhile (· = '/')) = .ok r
        ∧ (base.IsBelow sent.target ↔ base.LeadsBelow r))
      ∧ ((∀ c ∈ resource.toList, c ≠ ':' ∧ c ≠ '?' ∧ c ≠ '#') → base.IsBelow sent.target) := by
  obtain ⟨path, hpath, hrequest⟩ := request_of_mem_requests hsent
  obtain ⟨b, hb, htarget⟩ := target_of_request hrequest
  obtain ⟨r, hr, hjoin⟩ := join_of_target htarget
  obtain ⟨rfl, hnames⟩ := isName_of_resourcePath? hpath
  have hiff : base.IsBelow sent.target ↔ base.LeadsBelow r :=
    Url.isBelow_iff_leadsBelow (Url.isBase_of_parse hparse habs hquery)
      (asBase_of_base hs hparse hb) (Url.isNormal_of_parse hr) hjoin
  refine ⟨⟨r, hr, hiff⟩, fun hplain => hiff.mpr ?_⟩
  obtain ⟨hrel, hbelow⟩ := Url.staysBelow_of_plain base.baseSegments
    (fun c hc => hplain c (List.dropWhile_subset _ hc)) (head?_dropWhile_slash _) hnames hr
  rw [Url.LeadsBelow, hrel, if_neg Bool.false_ne_true]
  exact hbelow

/-- A resource that leaves the base, behind a colon that hides it from the check, and
comes back. -/
theorem Service.request_isBelow_behind_colon :
    let base : Url := ⟨"http".toList, [], "graph.test".toList, none, "/api/graph".toList, none, none⟩
    let sent : Request := ⟨{ base with path := "/api/graph/x".toList }, .null⟩
    ∃ r, Url.parse ":../graph/x".toList = .ok r ∧ (base.IsBelow sent.target ↔ base.LeadsBelow r) :=
  (Service.request_isBelow_iff { baseUrl := .str "http://graph.test/api/graph" } 1000
    (fun _ => .answer 200 []) ":../graph/x" "http://graph.test/api/graph" _ _
    rfl rfl rfl rfl (by decide +kernel)).1

/-- A resource that is a URL of its own takes a request to another host. -/
theorem Service.absolute_resource_leaves_base :
    ∃ base sent, Url.parse "http://graph.test/api/graph".toList = .ok base
      ∧ base.isAbsolute = true ∧ base.query = none
      ∧ sent ∈ (Service.fetchWith { baseUrl := .str "http://graph.test/api/graph" } 1000
          (fun _ => .answer 200 []) "http://evil.test/x" none).requests
      ∧ ¬ base.IsBelow sent.target := by
  refine ⟨⟨"http".toList, [], "graph.test".toList, none, "/api/graph".toList, none, none⟩,
    ⟨⟨"http".toList, [], "evil.test".toList, none, "/x".toList, none, none⟩, .null⟩,
    rfl, rfl, rfl, by decide +kernel, fun hbelow => ?_⟩
  exact absurd hbelow.origin.host (by decide)

end CodeAtlas
