/-
CodeAtlas.Proofs.Url.Changeable — URLs whose path can be replaced.

A change of its path takes a URL apart and normalizes it once more, and what comes out of
normalizing need not be taken a second time. Components become longer when they are encoded.
And a host outside ASCII is not checked for being a number, since its points may be written as
other characters that stand for points. If it turns out to be four numbers it has to be an
address when it is read again.

`Changeable` says that nothing of this stands in the way. It is enough for any longer path to
be put in (`Changeable.exists_withPath`), and the result is changeable again
(`Changeable.of_withPath`).
-/
import CodeAtlas.Proofs.Url.Change

namespace CodeAtlas.Url

open Text (percentEncode)

/-! ## Authorities -/

theorem hostText_eq_nil_iff {host : List Char} : hostText host = [] ↔ host = [] := by
  unfold hostText
  split
  · next hcolon =>
    refine iff_of_false (by simp) ?_
    rintro rfl
    cases hcolon
  · exact Iff.rfl

/-- An authority is empty if all its parts are. -/
theorem authority_eq_nil_iff {u : Url} :
    u.authority = [] ↔ u.userinfo = [] ∧ u.host = [] ∧ u.port = none := by
  have huser : (if u.userinfo.isEmpty then [] else u.userinfo ++ ['@']) = []
      ↔ u.userinfo = [] := by
    split
    · next hempty => simpa using hempty
    · next hempty => simpa using hempty
  have hport : portText u.port = [] ↔ u.port = none := by
    cases u.port <;> simp [portText]
  rw [authority_eq, List.append_eq_nil_iff, List.append_eq_nil_iff, huser, hostText_eq_nil_iff,
    hport]

/-- Normalizing keeps an authority, and makes none. -/
theorem Components.Gives.hasAuthority_eq {c : Components} {u : Url} (h : c.Gives u) :
    c.hasAuthority u = !u.authority.isEmpty := by
  have huser : (splitUserinfo c.authority).1 = [] ↔ u.userinfo = [] := by
    rw [h.userinfo, Text.percentEncode_eq_nil_iff]
  rw [Bool.eq_iff_iff]
  simp [Components.hasAuthority, authority_eq_nil_iff, huser, Option.isSome_iff_ne_none,
    or_iff_not_imp_left]

/-! ## Beginnings of paths -/

/-- Two slashes in front are not made by encoding. -/
theorem take_two_of_percentEncode {keep : Char → Bool} {path : List Char}
    (h : (percentEncode keep path).take 2 = ['/', '/']) : path.take 2 = ['/', '/'] := by
  obtain ⟨rest, hrest⟩ : ∃ rest, percentEncode keep path = '/' :: '/' :: rest := by
    rw [← List.take_append_drop 2 (percentEncode keep path), h]
    exact ⟨_, rfl⟩
  obtain ⟨ds, rfl, hds⟩ := Text.exists_of_percentEncode_eq_cons (by decide) hrest
  obtain ⟨es, rfl, -⟩ := Text.exists_of_percentEncode_eq_cons (by decide) hds
  rfl

/-- The path of a URL in normal form begins as it has to when it is read again. -/
theorem Components.Gives.check_again {c : Components} {u : Url} (h : c.Gives u) :
    checkPath (!u.scheme.isEmpty) (!u.authority.isEmpty) (Url.rooted u.path) = .ok () := by
  have hscheme : u.scheme.isEmpty = c.scheme.isEmpty := by
    rw [h.scheme]
    cases c.scheme <;> rfl
  by_cases hempty : u.path = []
  · rw [hempty, checkPath_eq_ok_iff]
    simp [Url.rooted]
  · have hrooted : Url.rooted u.path = u.path := if_neg (by simpa using hempty)
    obtain ⟨hslash, hrelative⟩ := checkPath_eq_ok_iff.mp h.check
    have hpath := h.path
    rw [hrooted, ← h.hasAuthority_eq, hscheme, checkPath_eq_ok_iff]
    constructor
    · intro hauthority _
      rw [hauthority, Bool.or_true, if_pos rfl] at hpath
      have hne : resolveDots c.path ≠ [] := fun hnil => hempty (by rw [hpath, hnil]; rfl)
      have hhead := head?_resolveDots (hslash hauthority) hne
      obtain ⟨rest, hrest⟩ := List.head?_eq_some_iff.mp hhead
      rw [hpath, hrest]
      rfl
    · intro hnone hauthority
      rw [hnone, hauthority, Bool.or_false, if_neg Bool.false_ne_true] at hpath
      obtain ⟨hpair, hcolon⟩ := hrelative hnone hauthority
      rw [hpath]
      exact ⟨mt take_two_of_percentEncode hpair,
        mt (Text.head?_of_percentEncode (by decide)) hcolon⟩

/-- Less of an authority asks for less of a path, where a scheme stands in front. -/
theorem checkPath_of_authority {hasScheme hasAuthority hasAuthority' : Bool} {path : List Char}
    (h : checkPath hasScheme hasAuthority path = .ok ())
    (hless : hasAuthority = false → hasAuthority' = false)
    (hsame : hasScheme = false → hasAuthority' = false → hasAuthority = false) :
    checkPath hasScheme hasAuthority' path = .ok () := by
  rw [checkPath_eq_ok_iff] at h ⊢
  constructor
  · intro hauthority
    refine h.1 (Bool.eq_true_of_not_eq_false fun hnone => ?_)
    rw [hless hnone] at hauthority
    cases hauthority
  · exact fun hscheme hauthority => h.2 hscheme (hsame hscheme hauthority)

/-! ## Hosts -/

/-- A host in normal form is found again, if it is an address where it is four numbers. -/
theorem exists_normalHost {host : List Char} (hh : IsHost host)
    (h : looksNumeric host = true → isAddress4 host = true) :
    ∃ host', normalHost (hostText host) = .ok host' := by
  rcases hh with hname | ⟨haddress, -⟩
  · rw [hostText, not_contains_colon hname, if_neg Bool.false_ne_true]
    by_cases hnumeric : looksNumeric host = true
    · have hne : ¬ host.isEmpty = true := by
        rw [List.isEmpty_iff]
        rintro rfl
        cases hnumeric
      rw [normalHost, if_neg hne, if_pos hnumeric, if_pos (h hnumeric)]
      exact ⟨host, rfl⟩
    · exact ⟨_, normalHost_of_not_numeric hname hnumeric⟩
  · rw [hostText, contains_colon_of_isAddress6 haddress, if_pos rfl]
    exact ⟨host, normalHost_bracketed haddress⟩

/-- Normalizing makes no host empty, and none out of nothing. -/
theorem eq_nil_of_normalHost {host host' : List Char} (hh : IsHost host)
    (h : normalHost (hostText host) = .ok host') : host' = [] ↔ host = [] := by
  rcases normalHost_hostText hh h with rfl | ⟨-, rfl⟩
  · exact Iff.rfl
  · exact List.map_eq_nil_iff

/-! ## Changes -/

/-- No authority: no user, host or port. -/
theorem Components.hasAuthority_eq_false_iff {c : Components} {u : Url} :
    c.hasAuthority u = false
      ↔ (splitUserinfo c.authority).1 = [] ∧ u.host = [] ∧ u.port = none := by
  simp [Components.hasAuthority, and_assoc]

/-- Components with the scheme and the authority of a URL in normal form have a normal form,
if its host is found again and their path begins well. -/
theorem exists_gives {u : Url} {c : Components} (hu : u.IsNormal) (hscheme : c.scheme = u.scheme)
    (hauthority : c.authority = u.authority)
    (hhost : ∃ host, normalHost (hostText u.host) = .ok host)
    (hcheck : checkPath (!u.scheme.isEmpty) (!u.authority.isEmpty) c.path = .ok ()) :
    ∃ v, c.Gives v := by
  obtain ⟨host, hhost⟩ := hhost
  have hport := normalPort_rawPort hu hauthority
  generalize hp : (if impliedPort (String.ofList c.scheme) = u.port then none else u.port) = port
    at hport
  have huser : (splitUserinfo c.authority).1 = u.userinfo := by
    rw [hauthority, splitUserinfo_authority hu.host]
  have hnil := eq_nil_of_normalHost hu.host hhost
  let v : List Char → Url := fun path =>
    ⟨u.scheme, u.userinfo, host, port, path, c.query.map (percentEncode isQueryChar),
      c.fragment.map (percentEncode isFragmentChar)⟩
  have hauth : ∀ path, c.hasAuthority (v path) = false
      ↔ u.userinfo = [] ∧ u.host = [] ∧ port = none := by
    intro path
    rw [Components.hasAuthority_eq_false_iff, huser, ← hnil]
  have hless : ∀ path, u.authority = [] → c.hasAuthority (v path) = false := by
    intro path hnone
    obtain ⟨hnouser, hnohost, hnoport⟩ := authority_eq_nil_iff.mp hnone
    refine (hauth path).mpr ⟨hnouser, hnohost, ?_⟩
    rw [← hp, hnoport, ite_self]
  have hsame : ∀ path, u.scheme = [] → c.hasAuthority (v path) = false → u.authority = [] := by
    intro path hbare hnone
    obtain ⟨hnouser, hnohost, hnoport⟩ := (hauth path).mp hnone
    refine authority_eq_nil_iff.mpr ⟨hnouser, hnohost, ?_⟩
    -- Without a scheme no port is implied.
    rw [hscheme, hbare, hnoport] at hp
    split at hp
    · next himplied => exact himplied.symm
    · exact hp
  refine ⟨v (percentEncode isPathChar (if !c.scheme.isEmpty || c.hasAuthority (v []) then
    resolveDots c.path else c.path)), ?_, ?_, ?_, hport, ?_, rfl, rfl, rfl⟩
  · rw [hscheme, hu.scheme]
  · rw [huser, Text.percentEncode_of_keep hu.userinfo]
  · rwa [rawHost_eq hu.host hauthority]
  · rw [hscheme]
    refine checkPath_of_authority hcheck ?_ ?_
    · simpa using hless _
    · simpa using hsame _

/-- A URL without query and fragment whose path can be replaced. -/
structure Changeable (u : Url) : Prop where
  normal : u.IsNormal
  query : u.query = none
  fragment : u.fragment = none
  host : ∃ host, normalHost (hostText u.host) = .ok host
  scheme : u.scheme.length ≤ lengthLimit
  authority : u.authority.length ≤ lengthLimit
  check : checkPath (!u.scheme.isEmpty) (!u.authority.isEmpty) u.rawPath = .ok ()

/-- A scheme is short, as the text is. -/
theorem length_scheme_of_parse {cs : List Char} {u : Url} (h : parse cs = .ok u) :
    u.scheme.length ≤ lengthLimit := by
  have hsplit : (split cs).scheme.length ≤ cs.length := by
    show (splitScheme cs).1.length ≤ cs.length
    unfold splitScheme
    split
    · dsimp only
      split
      · exact (List.takeWhile_sublist _).length_le
      · exact Nat.zero_le _
    · exact Nat.zero_le _
  rw [(gives_of_parse h).scheme, List.length_map]
  exact Nat.le_trans hsplit (length_le_of_parse h)

/-- A parsed URL is changeable, if it names no odd host and has no query or fragment. -/
theorem Changeable.of_parse {cs : List Char} {u : Url} (h : parse cs = .ok u)
    (hquery : u.query = none) (hfragment : u.fragment = none)
    (hhost : looksNumeric u.host = true → isAddress4 u.host = true)
    (hauthority : u.authority.length ≤ lengthLimit) : u.Changeable where
  normal := isNormal_of_parse h
  query := hquery
  fragment := hfragment
  host := exists_normalHost (isNormal_of_parse h).host hhost
  scheme := length_scheme_of_parse h
  authority := hauthority
  check := by
    rw [rawPath_of_query_none hquery]
    exact (gives_of_parse h).check_again

namespace Changeable

variable {u v : Url}

/-- Its path is made of path characters. -/
theorem isPathChar_rawPath (h : u.Changeable) : ∀ c ∈ u.rawPath, isPathChar c = true := by
  rw [rawPath_of_query_none h.query]
  exact isPathChar_rooted h.normal.path

/-- The path of a changeable URL can be continued, as long as no two slashes come together
where they would mark an authority. -/
theorem exists_withPath {tail : List Char} (h : u.Changeable)
    (htail : ∀ c ∈ tail, isPathChar c = true)
    (hpair : u.rawPath ≠ ['/'] ∨ tail.head? ≠ some '/')
    (hlength : (u.rawPath ++ tail).length ≤ lengthLimit) :
    ∃ v, u.withPath (u.rawPath ++ tail) = .ok v := by
  have hpath : ∀ c ∈ u.rawPath ++ tail, isPathChar c = true := fun c hc =>
    (List.mem_append.mp hc).elim (h.isPathChar_rawPath c) (htail c)
  have hcheck := checkPath_append (fun hnil => absurd hnil u.rawPath_ne_nil) (Or.inr hpair) h.check
  obtain ⟨v, hgives⟩ := exists_gives
    (c := { u.components with path := u.rawPath ++ tail, query := none }) h.normal rfl rfl h.host
    hcheck
  refine ⟨v, (withPath_eq_assemble_of_isPathChar u hpath).trans
    (assemble_eq_ok_iff.mpr ⟨?_, hgives⟩)⟩
  refine tooLong?_eq_none_iff.mpr ⟨h.scheme, h.authority, hlength, ?_, ?_⟩
  · intro q hq
    cases hq
  · intro f hf
    rw [show u.components.fragment = none from h.fragment] at hf
    cases hf

/-- What was changed can be changed again. -/
theorem of_withPath {path : List Char} (h : u.Changeable)
    (hpath : ∀ c ∈ path, isPathChar c = true) (hv : u.withPath path = .ok v) : v.Changeable := by
  rw [withPath_eq_assemble_of_isPathChar u hpath] at hv
  have hgives := gives_of_assemble hv
  have hquery : v.query = none := hgives.query
  have hhost := hgives.host
  rw [rawHost_eq h.normal.host rfl] at hhost
  have hscheme : v.scheme = u.scheme :=
    (sameOrigin_of_gives h.normal rfl rfl hgives).scheme
  refine ⟨isNormal_of_gives hgives, hquery, ?_,
    ⟨v.host, normalHost_again h.normal.host hhost⟩, ?_, ?_, ?_⟩
  · rw [hgives.fragment, show u.components.fragment = none from h.fragment]
    rfl
  · exact hscheme ▸ h.scheme
  · exact Nat.le_trans (length_authority_le h.normal rfl hgives) h.authority
  · rw [rawPath_of_query_none hquery]
    exact hgives.check_again

/-- A changeable URL can be made a base, and is changeable then. -/
theorem exists_asBase (h : u.Changeable) (hlength : (slashed u.rawPath).length ≤ lengthLimit) :
    ∃ b, u.asBase = .ok b ∧ b.Changeable := by
  rw [asBase]
  split
  · exact ⟨u, rfl, h⟩
  · next hlast =>
    have hslashed : slashed u.rawPath = u.rawPath ++ ['/'] := if_neg hlast
    have hroot : u.rawPath ≠ ['/'] := fun hroot => hlast (by rw [hroot]; rfl)
    have hslash : ∀ c ∈ ['/'], isPathChar c = true := List.forall_mem_singleton.mpr (by decide)
    obtain ⟨b, hb⟩ := h.exists_withPath hslash (Or.inl hroot) (hslashed ▸ hlength)
    exact ⟨b, hb, h.of_withPath (hslashed ▸ isPathChar_slashed h.isPathChar_rawPath) hb⟩

end Changeable

end CodeAtlas.Url
