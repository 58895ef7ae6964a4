/-
CodeAtlas.Proofs.Url.Change — what a change of path or query makes of a URL.

A path can be continued wherever it can be replaced by itself, as long as the result is not
too long (`exists_withPath_append`). A path of names stays as it is written
(`withPath_of_names`).

A change normalizes a URL once more. The second time small letters and implied ports are
settled, so from then on a change of the query changes nothing else (`withQuery_eq`). And
whatever two changes of one URL do, they differ in path and query alone
(`withPath_congr`), and the texts of the results tell their paths apart (`path_of_text_eq`).
-/
import CodeAtlas.Proofs.Url.Join

namespace CodeAtlas.Url

open Text (splitOn percentEncode of_ascii)

/-! ## Lengths -/

/-- Only short text is parsed. -/
theorem length_le_of_parse {cs : List Char} {u : Url} (h : parse cs = .ok u) :
    cs.length ≤ lengthLimit := by
  rw [parse] at h
  split at h
  · cases h
  · next hshort => exact Nat.not_lt.mp hshort

theorem length_afterMark {mark : Char} {cs rest : List Char} (h : afterMark mark cs = some rest) :
    rest.length ≤ cs.length := by
  cases cs with
  | nil => cases h
  | cons c cs =>
    rw [afterMark, Option.ite_none_right_eq_some] at h
    cases h.2
    exact Nat.le_succ _

/-- The limit is on every component by itself. -/
theorem tooLong?_eq_none_iff {c : Components} :
    c.tooLong? = none ↔ c.scheme.length ≤ lengthLimit ∧ c.authority.length ≤ lengthLimit
      ∧ c.path.length ≤ lengthLimit ∧ (∀ q ∈ c.query, q.length ≤ lengthLimit)
      ∧ ∀ f ∈ c.fragment, f.length ≤ lengthLimit := by
  cases hquery : c.query <;> cases hfragment : c.fragment <;>
    simp [Components.tooLong?, hquery, hfragment]

/-- Components are assembled if none is too long and they can be normalized. -/
theorem assemble_eq_ok_iff {c : Components} {u : Url} :
    c.assemble = .ok u ↔ c.tooLong? = none ∧ c.Gives u := by
  unfold Components.assemble
  cases c.tooLong? with
  | some e => simp
  | none => exact ⟨fun h => ⟨rfl, gives_of_normalize h⟩, fun h => h.2.normalize_eq⟩

/-- The components of a URL with another path and query. -/
def withRawPath (u : Url) (raw : List Char) : Components :=
  { u.components with
    path := raw.takeWhile (· ≠ '?')
    query := afterMark '?' (raw.dropWhile (· ≠ '?')) }

/-- Another short path does no harm. -/
theorem tooLong?_withRawPath {u : Url} {raw raw' : List Char}
    (h : (u.withRawPath raw).tooLong? = none) (hlength : raw'.length ≤ lengthLimit) :
    (u.withRawPath raw').tooLong? = none := by
  obtain ⟨hscheme, hauthority, -, -, hfragment⟩ := tooLong?_eq_none_iff.mp h
  refine tooLong?_eq_none_iff.mpr ⟨hscheme, hauthority, ?_, ?_, hfragment⟩
  · exact Nat.le_trans (List.takeWhile_sublist _).length_le hlength
  · intro q hq
    calc q.length
        ≤ (raw'.dropWhile (· ≠ '?')).length := length_afterMark hq
      _ ≤ raw'.length := (List.dropWhile_sublist _).length_le
      _ ≤ lengthLimit := hlength

/-! ## Longer paths -/

/-- There is always a path to ask for. -/
theorem rawPath_ne_nil (u : Url) : u.rawPath ≠ [] := by
  unfold rawPath
  split
  · simp
  · next hpath =>
    intro hnil
    exact hpath (by simpa using (List.append_eq_nil_iff.mp hnil).1)

/-- A path that is continued begins well if it does by itself. Only two slashes have to be
kept from coming together. -/
theorem checkPath_append {hasScheme hasAuthority : Bool} {path tail : List Char}
    (hne : path = [] → tail = [])
    (htail : hasScheme = true ∨ path ≠ ['/'] ∨ tail.head? ≠ some '/')
    (h : checkPath hasScheme hasAuthority path = .ok ()) :
    checkPath hasScheme hasAuthority (path ++ tail) = .ok () := by
  rw [checkPath_eq_ok_iff] at h ⊢
  match path with
  | [] => rwa [hne rfl, List.append_nil]
  | [c] =>
    refine ⟨fun hauthority _ => h.1 hauthority (List.cons_ne_nil c []),
      fun hscheme hauthority => ?_⟩
    refine ⟨fun hpair => ?_, (h.2 hscheme hauthority).2⟩
    cases tail with
    | nil => cases hpair
    | cons d tail =>
      cases hpair
      rcases htail with hscheme' | hroot | hslash
      · rw [hscheme] at hscheme'
        cases hscheme'
      · exact hroot rfl
      · exact hslash rfl
  | c :: d :: path => exact ⟨fun hauthority _ => h.1 hauthority (List.cons_ne_nil c _), h.2⟩

/-- Components have a normal form with a longer path and any query if they have one. -/
theorem Components.Gives.append {c : Components} {u : Url} (h : c.Gives u) {tail : List Char}
    (hne : c.path = [] → tail = []) (htail : c.scheme ≠ [] ∨ tail.head? ≠ some '/')
    (query : Option (List Char)) :
    ∃ v, Gives { c with path := c.path ++ tail, query := query } v := by
  refine ⟨{ u with
    path := percentEncode isPathChar (if !c.scheme.isEmpty || c.hasAuthority u then
      resolveDots (c.path ++ tail) else c.path ++ tail)
    query := query.map (percentEncode isQueryChar) },
    h.scheme, h.userinfo, h.host, h.port, ?_, rfl, rfl, h.fragment⟩
  exact checkPath_append hne (htail.imp (fun hscheme => by simpa using hscheme) Or.inr) h.check

/-- A path that is continued is so before its query, or not at all. -/
theorem exists_takeWhile_append (p : Char → Bool) {front : List Char} (hne : front ≠ [])
    (tail : List Char) :
    ∃ more, (front ++ tail).takeWhile p = front.takeWhile p ++ more
      ∧ (front.takeWhile p = [] → more = []) ∧ ∀ c ∈ more.head?, c ∈ tail.head? := by
  rw [List.takeWhile_append]
  split
  · next hlength =>
    have hall : front.takeWhile p = front := (List.takeWhile_prefix p).eq_of_length hlength
    refine ⟨tail.takeWhile p, by rw [hall], fun hnil => absurd (hall ▸ hnil) hne, ?_⟩
    cases tail with
    | nil => exact fun c hc => hc
    | cons d tail =>
      intro c hc
      rw [List.takeWhile_cons] at hc
      split at hc
      · exact hc
      · cases hc
  · exact ⟨[], (List.append_nil _).symm, fun _ => rfl, fun c hc => by cases hc⟩

/-- A URL whose path can be replaced by its own can have its path continued, as long as
the result is not too long. -/
theorem exists_withPath_append {u v : Url} {tail : List Char}
    (htail : u.scheme ≠ [] ∨ tail.head? ≠ some '/') (h : u.withPath u.rawPath = .ok v)
    (hlength : (u.rawPath ++ tail).length ≤ lengthLimit) :
    ∃ w, u.withPath (u.rawPath ++ tail) = .ok w := by
  change (u.withRawPath u.rawPath).assemble = .ok v at h
  show ∃ w, (u.withRawPath (u.rawPath ++ tail)).assemble = .ok w
  obtain ⟨hfits, hgives⟩ := assemble_eq_ok_iff.mp h
  obtain ⟨more, hpath, hnil, hhead⟩ := exists_takeWhile_append (· ≠ '?') u.rawPath_ne_nil tail
  have hmore : u.scheme ≠ [] ∨ more.head? ≠ some '/' :=
    htail.imp_right fun htail hslash => htail (hhead '/' hslash)
  obtain ⟨w, hw⟩ := hgives.append hnil hmore (u.withRawPath (u.rawPath ++ tail)).query
  refine ⟨w, assemble_eq_ok_iff.mpr ⟨tooLong?_withRawPath hfits hlength, ?_⟩⟩
  have hsame : u.withRawPath (u.rawPath ++ tail)
      = { u.withRawPath u.rawPath with
          path := (u.withRawPath u.rawPath).path ++ more
          query := (u.withRawPath (u.rawPath ++ tail)).query } := by
    unfold withRawPath
    rw [hpath]
  rwa [hsame]

/-! ## Paths of names -/

/-- Without dot segments there is nothing to resolve. -/
theorem resolveDots_of_isName {path : List Char}
    (h : ∀ piece ∈ splitOn '/' path, isName piece = true) : resolveDots path = path := by
  rw [resolveDots_eq, foldl_walk_of_isName [] h, List.nil_append, Text.joinWith_splitOn]

/-- A path of path characters is put in as it is. -/
theorem withPath_eq_assemble_of_isPathChar (u : Url) {path : List Char}
    (hpath : ∀ c ∈ path, isPathChar c = true) :
    u.withPath path = Components.assemble { u.components with path := path, query := none } := by
  have happend := withPath_eq_assemble u hpath (fun c (hc : c ∈ [].head?) => by cases hc)
  rwa [List.append_nil] at happend

/-- A path of names stays as it is written, whatever the URL. -/
theorem withPath_of_names {u v : Url} {path : List Char} (hu : u.IsNormal)
    (hpath : ∀ c ∈ path, isPathChar c = true)
    (hnames : ∀ piece ∈ splitOn '/' path, isName piece = true) (h : u.withPath path = .ok v) :
    u.SameOrigin v ∧ v.IsNormal ∧ v.path = path ∧ v.query = none
      ∧ (u.fragment = none → v.fragment = none) := by
  rw [withPath_eq_assemble_of_isPathChar u hpath] at h
  have hgives := gives_of_assemble h
  refine ⟨sameOrigin_of_gives hu rfl rfl hgives, isNormal_of_gives hgives, ?_, hgives.query, ?_⟩
  · have hresolved := hgives.path
    rwa [resolveDots_of_isName hnames, ite_self, Text.percentEncode_of_keep hpath] at hresolved
  · intro hnone
    rw [hgives.fragment, show u.components.fragment = none from hnone]
    rfl

/-! ## Once more -/

theorem toLower_of_digit {c : Char} (h : c.toLower = '.' ∨ c.toLower.isDigit = true) :
    c.toLower = c := by
  rcases toLower_cases c with hsame | hlt
  · exact hsame
  · exact of_ascii
      (p := fun c => (c.toLower = '.' ∨ c.toLower.isDigit = true) → c.toLower = c)
      (by decide +kernel) hlt h

/-- Small letters keep a host name one. -/
theorem isHostChar_map_toLower {host : List Char} (h : ∀ c ∈ host, isHostChar c = true) :
    ∀ c ∈ host.map Char.toLower, isHostChar c = true :=
  List.forall_mem_map.mpr fun c hc => isHostChar_toLower (h c hc)

/-- A name that is no number is found again in small letters. -/
theorem normalHost_of_not_numeric {host : List Char} (hname : ∀ c ∈ host, isHostChar c = true)
    (hnumeric : ¬ looksNumeric host = true) :
    normalHost host = .ok (host.map Char.toLower) := by
  by_cases hempty : host.isEmpty = true
  · rw [List.isEmpty_iff.mp hempty]
    rfl
  · have hbracket : host.head? ≠ some '[' := fun hhead =>
      absurd (hname '[' (List.mem_of_mem_head? hhead)) (by decide)
    have hascii : host.all (fun c => c.toNat < 128) = true :=
      List.all_eq_true.mpr fun c hc => decide_eq_true (toNat_lt_of_isHostChar (hname c hc))
    rw [normalHost, if_neg hempty, if_neg hnumeric, decide_eq_false hbracket, Bool.false_and,
      Bool.false_and, if_neg Bool.false_ne_true, if_pos hascii,
      Text.percentEncode_of_keep (isHostChar_map_toLower hname)]

/-- A host that was found again is found so each time. -/
theorem normalHost_again {host host' : List Char} (hh : IsHost host)
    (h : normalHost (hostText host) = .ok host') : normalHost (hostText host') = .ok host' := by
  rcases normalHost_hostText hh h with rfl | ⟨hname, rfl⟩
  · exact h
  · by_cases hsame : host.map Char.toLower = host
    · rwa [hsame] at h ⊢
    · have hlower := isHostChar_map_toLower hname
      -- The letter that was made small keeps the host from being a number.
      have hnumeric : ¬ looksNumeric (host.map Char.toLower) = true := by
        intro hnumeric
        have hdigits := isDigit_of_looksNumeric hnumeric
        have hsmall : ∀ c ∈ host, c.toLower = c := fun c hc =>
          toLower_of_digit (hdigits c.toLower (List.mem_map_of_mem hc))
        exact hsame ((List.map_congr_left hsmall).trans (List.map_id host))
      rw [hostText, not_contains_colon hlower, if_neg Bool.false_ne_true,
        normalHost_of_not_numeric hlower hnumeric, map_toLower_toLower]

/-- Normalizing once more, with the same path, changes nothing. -/
theorem gives_again {u v : Url} {c c' : Components} (hu : u.IsNormal)
    (hscheme : c.scheme = u.scheme) (hauthority : c.authority = u.authority) (h : c.Gives v)
    (hscheme' : c'.scheme = v.scheme) (hauthority' : c'.authority = v.authority)
    (hpath : c'.path = c.path) :
    c'.Gives { v with
      query := c'.query.map (percentEncode isQueryChar)
      fragment := c'.fragment.map (percentEncode isFragmentChar) } := by
  have hv := isNormal_of_gives h
  have hsame : v.scheme = c.scheme := by rw [h.scheme, hscheme, hu.scheme]
  have huser : (splitUserinfo c.authority).1 = u.userinfo := by
    rw [hauthority, splitUserinfo_authority hu.host]
  have huser' : (splitUserinfo c'.authority).1 = v.userinfo := by
    rw [hauthority', splitUserinfo_authority hv.host]
  have hkept : v.userinfo = u.userinfo := by
    rw [h.userinfo, huser, Text.percentEncode_of_keep hu.userinfo]
  have hhas : ∀ query fragment, c'.hasAuthority { v with query := query, fragment := fragment }
      = c.hasAuthority v := by
    intro query fragment
    rw [Components.hasAuthority, Components.hasAuthority, huser, huser', hkept]
  refine ⟨?_, ?_, ?_, ?_, ?_, ?_, rfl, rfl⟩
  · rw [hscheme', hv.scheme]
  · rw [huser', Text.percentEncode_of_keep hv.userinfo]
  · have hhost := h.host
    rw [rawHost_eq hu.host hauthority] at hhost
    rw [rawHost_eq hv.host hauthority']
    exact normalHost_again hu.host hhost
  · have hport := port_of_gives hu hauthority h
    rw [rawPort_eq hv.host hauthority']
    cases hp : v.port with
    | none => rfl
    | some n =>
      have hnot : impliedPort (String.ofList c.scheme) ≠ some n := by
        rw [hp] at hport
        split at hport
        · cases hport
        · next hother => exact hport ▸ hother
      refine (normalPort_integerText c'.scheme (hv.port n hp)).trans ?_
      rw [hscheme', hsame, if_neg hnot]
  · rw [hhas, hpath, hscheme', hsame]
    exact h.check
  · rw [hhas, hpath, hscheme', hsame]
    exact h.path

/-- Normalizing a host again keeps its length. -/
theorem length_hostText_again {host host' : List Char} (hh : IsHost host)
    (h : normalHost (hostText host) = .ok host') :
    (hostText host').length = (hostText host).length := by
  rcases normalHost_hostText hh h with rfl | ⟨hname, rfl⟩
  · rfl
  · rw [hostText, hostText, not_contains_colon hname,
      not_contains_colon (isHostChar_map_toLower hname), if_neg Bool.false_ne_true,
      if_neg Bool.false_ne_true, List.length_map]

/-- An authority that is found again is not longer. -/
theorem length_authority_le {u v : Url} {c : Components} (hu : u.IsNormal)
    (hauthority : c.authority = u.authority) (h : c.Gives v) :
    v.authority.length ≤ u.authority.length := by
  have huser : v.userinfo = u.userinfo := by
    rw [h.userinfo, hauthority, splitUserinfo_authority hu.host,
      Text.percentEncode_of_keep hu.userinfo]
  have hhost := h.host
  rw [rawHost_eq hu.host hauthority] at hhost
  have hport : (portText v.port).length ≤ (portText u.port).length := by
    rw [port_of_gives hu hauthority h]
    split
    · exact Nat.zero_le _
    · exact Nat.le_refl _
  rw [authority_eq, authority_eq, huser, List.length_append, List.length_append,
    List.length_append, List.length_append, length_hostText_again hu.host hhost]
  omega

/-- A query can be added to a URL whose path was changed, and changes nothing else. -/
theorem withQuery_eq {u v : Url} {path query : List Char} (hu : u.IsNormal)
    (hpath : ∀ c ∈ path, isPathChar c = true)
    (hnames : ∀ piece ∈ splitOn '/' path, isName piece = true) (hfragment : u.fragment = none)
    (h : u.withPath path = .ok v) (hquery : ∀ c ∈ query, isQueryChar c = true)
    (hlength : query.length ≤ lengthLimit) :
    v.withQuery (some query) = .ok { v with query := some query } := by
  obtain ⟨horigin, -, hvpath, -, hnone⟩ := withPath_of_names hu hpath hnames h
  replace hnone := hnone hfragment
  rw [withPath_eq_assemble_of_isPathChar u hpath] at h
  obtain ⟨hfits, hgives⟩ := assemble_eq_ok_iff.mp h
  obtain ⟨hscheme, hauthority, hlong, -, -⟩ := tooLong?_eq_none_iff.mp hfits
  have hagain : Components.Gives { v.components with query := some query } _ :=
    gives_again hu rfl rfl hgives rfl rfl hvpath
  refine assemble_eq_ok_iff.mpr ⟨tooLong?_eq_none_iff.mpr ⟨?_, ?_, ?_, ?_, ?_⟩, ?_⟩
  · exact Nat.le_trans (Nat.le_of_eq (congrArg List.length horigin.scheme)) hscheme
  · exact Nat.le_trans (length_authority_le hu rfl hgives) hauthority
  · exact Nat.le_trans (Nat.le_of_eq (congrArg List.length hvpath)) hlong
  · intro q hq
    cases hq
    exact hlength
  · intro f hf
    rw [show v.components.fragment = none from hnone] at hf
    cases hf
  · have hsame : ({ v with
          query := (some query).map (percentEncode isQueryChar)
          fragment := v.fragment.map (percentEncode isFragmentChar) } : Url)
        = { v with query := some query } := by
      rw [hnone, Option.map_some, Text.percentEncode_of_keep hquery, Option.map_none]
    exact hsame ▸ hagain

/-! ## Texts -/

def siteText (u : Url) : List Char :=
  (if u.scheme.isEmpty then [] else u.scheme ++ [':'])
    ++ (if u.authority.isEmpty then [] else '/' :: '/' :: u.authority)

/-- What stands behind the query of a URL. -/
def fragmentText (u : Url) : List Char :=
  match u.fragment with
  | some f => '#' :: f
  | none => []

theorem text_eq (u : Url) :
    u.text = u.siteText ++ (u.path ++ (u.queryText ++ u.fragmentText)) := by
  rw [← List.append_assoc, ← List.append_assoc]
  rfl

/-- Components that differ in path and query give URLs that do. -/
theorem Components.Gives.congr {c c' : Components} {u u' : Url} (h : c.Gives u)
    (h' : c'.Gives u') (hscheme : c'.scheme = c.scheme) (hauthority : c'.authority = c.authority)
    (hfragment : c'.fragment = c.fragment) :
    u' = { u with path := u'.path, query := u'.query } := by
  have hhost : u'.host = u.host := by
    have hraw := h'.host
    rw [rawHost, hauthority] at hraw
    exact Except.ok.inj (hraw.symm.trans h.host)
  have hport : u'.port = u.port := by
    have hraw := h'.port
    rw [rawPort, hauthority, hscheme] at hraw
    exact Except.ok.inj (hraw.symm.trans h.port)
  have huser : u'.userinfo = u.userinfo := by rw [h'.userinfo, hauthority, h.userinfo]
  have hsame : u'.scheme = u.scheme := by rw [h'.scheme, hscheme, h.scheme]
  have hbehind : u'.fragment = u.fragment := by rw [h'.fragment, hfragment, h.fragment]
  rw [← hhost, ← hport, ← huser, ← hsame, ← hbehind]

/-- Another path changes nothing but path and query. -/
theorem withPath_congr {u v w : Url} {raw raw' : List Char} (h : u.withPath raw = .ok v)
    (h' : u.withPath raw' = .ok w) : w = { v with path := w.path, query := w.query } :=
  (gives_of_assemble h).congr (gives_of_assemble h') rfl rfl rfl

/-- A path ends where a query or a fragment begins. -/
theorem takeWhile_path {u : Url} (hu : ∀ c ∈ u.path, isPathChar c = true) :
    (u.path ++ (u.queryText ++ u.fragmentText)).takeWhile (fun c => c ≠ '?' && c ≠ '#')
      = u.path := by
  refine Text.takeWhile_append_stop ?_ ?_
  · intro c hc
    rw [Bool.and_eq_true, decide_eq_true_eq, decide_eq_true_eq]
    constructor
    · rintro rfl
      exact absurd (hu '?' hc) (by decide)
    · rintro rfl
      exact absurd (hu '#' hc) (by decide)
  · intro c hc
    rw [queryText, fragmentText] at hc
    cases hquery : u.query with
    | some q =>
      rw [hquery] at hc
      cases hc
      rfl
    | none =>
      cases hfragment : u.fragment with
      | some f =>
        rw [hquery, hfragment] at hc
        cases hc
        rfl
      | none =>
        rw [hquery, hfragment] at hc
        cases hc

/-- The texts of two URLs that differ in path and query alone tell their paths apart. -/
theorem path_of_text_eq {u v : Url} (hu : ∀ c ∈ u.path, isPathChar c = true)
    (hv : ∀ c ∈ v.path, isPathChar c = true)
    (hsame : v = { u with path := v.path, query := v.query }) (h : u.text = v.text) :
    u.path = v.path := by
  have hsite : v.siteText = u.siteText := by
    rw [hsame]
    rfl
  rw [text_eq, text_eq, hsite] at h
  rw [← takeWhile_path hu, ← takeWhile_path hv, List.append_cancel_left h]

end CodeAtlas.Url
