/-
CodeAtlas.Proofs.Url.Join — where a resource below a base URL ends up.

A base URL keeps its origin when it is given a slash at its end (`asBase_eq`), and when
a resource that is no URL of its own is put below it (`join_eq`). The path of the result
is the walk of the resource's pieces from the segments of the base. So whether the result
is below the base (`IsBelow`) is decided by the pieces alone (`isBelow_join_iff`).
-/
import CodeAtlas.Url.Join
import CodeAtlas.Proofs.Url.NormalForm

namespace CodeAtlas.Url

open Text (splitOn joinWith percentEncode)

/-- A URL of the same origin whose path continues that of the base behind a slash. -/
structure IsBelow (base u : Url) : Prop where
  origin : base.SameOrigin u
  path : slashed (rooted base.path) <+: rooted u.path

/-! ## Reading and changing -/

/-- Parsing normalizes the components of a text. -/
theorem gives_of_parse {cs : List Char} {u : Url} (h : parse cs = .ok u) : (split cs).Gives u := by
  rw [parse] at h
  split at h
  · cases h
  · split at h
    · cases h
    · exact gives_of_normalize h

/-- Assembling normalizes the components. -/
theorem gives_of_assemble {c : Components} {u : Url} (h : c.assemble = .ok u) : c.Gives u := by
  rw [Components.assemble] at h
  split at h
  · cases h
  · exact gives_of_normalize h

/-- A parsed URL is in normal form. -/
theorem isNormal_of_parse {cs : List Char} {u : Url} (h : parse cs = .ok u) : u.IsNormal :=
  isNormal_of_gives (gives_of_parse h)

theorem rawPath_of_query_none {u : Url} (h : u.query = none) : u.rawPath = rooted u.path := by
  rw [rawPath, h, List.append_nil]
  rfl

theorem isPathChar_rooted {path : List Char} (h : ∀ c ∈ path, isPathChar c = true) :
    ∀ c ∈ rooted path, isPathChar c = true := by
  rw [rooted]
  split
  · intro c hc
    rw [List.mem_singleton.mp hc]
    decide
  · exact h

theorem isPathChar_slashed {path : List Char} (h : ∀ c ∈ path, isPathChar c = true) :
    ∀ c ∈ slashed path, isPathChar c = true := by
  rw [slashed]
  split
  · exact h
  · intro c hc
    rcases List.mem_append.mp hc with hc | hc
    · exact h c hc
    · rw [List.mem_singleton.mp hc]
      decide

/-- The components of a changed URL, if its new path has the characters of a path and its
new query a question mark in front. -/
theorem withPath_eq_assemble (u : Url) {path rest : List Char}
    (hpath : ∀ c ∈ path, isPathChar c = true) (hrest : ∀ c ∈ rest.head?, c = '?') :
    u.withPath (path ++ rest)
      = Components.assemble { u.components with path := path, query := afterMark '?' rest } := by
  have hinside : ∀ c ∈ path, decide (c ≠ '?') = true := by
    intro c hc
    rw [decide_eq_true_eq]
    rintro rfl
    exact absurd (hpath '?' hc) (by decide)
  have hstop : ∀ c ∈ rest.head?, decide (c ≠ '?') = false := by
    intro c hc
    rw [hrest c hc]
    rfl
  rw [withPath, Text.takeWhile_append_stop hinside hstop,
    Text.dropWhile_append_stop hinside hstop]

/-- The path of a changed URL. -/
theorem withPath_eq {u v : Url} {path rest : List Char} (hu : u.IsNormal)
    (hscheme : u.scheme ≠ []) (hpath : ∀ c ∈ path, isPathChar c = true)
    (hrest : ∀ c ∈ rest.head?, c = '?') (h : u.withPath (path ++ rest) = .ok v) :
    u.SameOrigin v ∧ v.IsNormal ∧ v.path = resolveDots path ∧ (rest = [] → v.query = none) := by
  rw [withPath_eq_assemble u hpath hrest] at h
  have hgives := gives_of_assemble h
  have hresolved := hgives.resolved hscheme
  rw [percentEncode_resolveDots hpath] at hresolved
  refine ⟨sameOrigin_of_gives hu rfl rfl hgives, isNormal_of_gives hgives, hresolved, ?_⟩
  rintro rfl
  exact hgives.query

/-! ## Bases -/

/-- A base: a URL of its own in normal form, without a query. -/
structure IsBase (base : Url) : Prop where
  normal : base.IsNormal
  scheme : base.scheme ≠ []
  host : base.host ≠ []
  query : base.query = none

def baseSegments (base : Url) : List (List Char) := segmentsOf (rooted base.path)

theorem IsBase.head? {base : Url} (h : base.IsBase) : (rooted base.path).head? = some '/' := by
  rw [rooted]
  split
  · rfl
  · next hne =>
    exact h.normal.rooted h.scheme h.host fun hnil => hne (List.isEmpty_iff.mpr hnil)

/-- The segments of a base are no dot segments. -/
theorem IsBase.isName {base : Url} (h : base.IsBase) :
    ∀ p ∈ base.baseSegments, isName p = true := by
  intro p hp
  have hmem := (slashed_eq_joinWith h.head?).2 p hp
  rw [rooted] at hmem
  split at hmem
  · rcases List.mem_cons.mp hmem with rfl | hmem
    · rfl
    · rw [List.mem_singleton.mp hmem]
      rfl
  · exact h.normal.names h.scheme p hmem

theorem IsBase.free {base : Url} (h : base.IsBase) : ∀ p ∈ base.baseSegments, '/' ∉ p :=
  fun p hp => Text.not_mem_of_mem_splitOn ((slashed_eq_joinWith h.head?).2 p hp)

/-- The path of a base is made of its segments. -/
theorem IsBase.slashed_eq {base : Url} (h : base.IsBase) :
    slashed (rooted base.path) = joinWith '/' ([] :: base.baseSegments) ++ ['/'] :=
  (slashed_eq_joinWith h.head?).1

/-- The pieces of a path that is appended to a base are walked from its segments. -/
theorem IsBase.resolveDots_append {base : Url} (h : base.IsBase) (tail : List Char) :
    resolveDots (slashed (rooted base.path) ++ tail)
      = joinWith '/' ((splitOn '/' tail).foldl walk ([] :: base.baseSegments)) := by
  rw [h.slashed_eq, List.append_assoc, List.singleton_append]
  exact Url.resolveDots_append h.free h.isName tail

/-- The path of a base has no dots to resolve. -/
theorem IsBase.resolveDots_slashed {base : Url} (h : base.IsBase) :
    resolveDots (slashed (rooted base.path)) = slashed (rooted base.path) := by
  have happend := h.resolveDots_append []
  rw [List.append_nil] at happend
  have hwalk : (splitOn '/' []).foldl walk ([] :: base.baseSegments)
      = ([] :: base.baseSegments) ++ [[]] :=
    foldl_walk_of_isName _ fun p hp => by rw [List.mem_singleton.mp hp]; rfl
  rw [happend, hwalk, Text.joinWith_append (List.cons_ne_nil _ _) (List.cons_ne_nil _ _),
    h.slashed_eq]
  rfl

theorem rooted_slashed (path : List Char) : rooted (slashed path) = slashed path := by
  obtain ⟨front, hfront, -⟩ := slashed_eq_concat path
  rw [hfront, rooted, if_neg (by simp)]

/-- A base is made ready by a slash at its end. -/
theorem asBase_eq {base b : Url} (hbase : base.IsBase) (h : base.asBase = .ok b) :
    base.SameOrigin b ∧ b.IsNormal ∧ b.rawPath = slashed (rooted base.path) := by
  rw [asBase, rawPath_of_query_none hbase.query] at h
  split at h
  · next hlast =>
    cases h
    rw [rawPath_of_query_none hbase.query, slashed, if_pos hlast]
    exact ⟨SameOrigin.refl base, hbase.normal, rfl⟩
  · next hlast =>
    have hslashed : slashed (rooted base.path) = rooted base.path ++ ['/'] := if_neg hlast
    have hchars := isPathChar_slashed (isPathChar_rooted hbase.normal.path)
    rw [← hslashed, ← List.append_nil (slashed _)] at h
    obtain ⟨horigin, hnormal, hpath, hquery⟩ :=
      withPath_eq hbase.normal hbase.scheme hchars (fun c hc => by cases hc) h
    refine ⟨horigin, hnormal, ?_⟩
    rw [rawPath_of_query_none (hquery rfl), hpath, hbase.resolveDots_slashed, rooted_slashed]

/-! ## Resources -/

/-- The query of a URL with its mark. -/
def queryText (u : Url) : List Char :=
  match u.query with
  | some q => '?' :: q
  | none => []

theorem head?_queryText (u : Url) : ∀ c ∈ u.queryText.head?, c = '?' := by
  intro c hc
  rw [queryText] at hc
  split at hc
  · exact (Option.some.inj hc).symm
  · cases hc

/-- Of a resource, the path without leading slashes is appended, and the query. -/
theorem dropWhile_rawPath (r : Url) :
    r.rawPath.dropWhile (· = '/') = r.path.dropWhile (· = '/') ++ r.queryText := by
  have hquery : r.queryText.dropWhile (· = '/') = r.queryText :=
    Text.dropWhile_stop fun c hc => by rw [head?_queryText r c hc]; rfl
  have hraw : r.rawPath = rooted r.path ++ r.queryText := rfl
  have hrooted : (rooted r.path).dropWhile (· = '/') = r.path.dropWhile (· = '/') := by
    cases r.path <;> rfl
  rw [hraw, List.dropWhile_append, hrooted, hquery]
  split
  · next hempty => rw [List.isEmpty_iff.mp hempty, List.nil_append]
  · rfl

/-- A relative reference is walked from the segments of the base. -/
theorem join_eq {base b r v : Url} (hbase : base.IsBase) (hb : base.asBase = .ok b)
    (hr : r.IsNormal) (hrel : r.isAbsolute = false) (h : b.join r = .ok v) :
    base.SameOrigin v ∧ v.path = joinWith '/'
      ((splitOn '/' (r.path.dropWhile (· = '/'))).foldl walk ([] :: base.baseSegments)) := by
  obtain ⟨horigin, hnormal, hraw⟩ := asBase_eq hbase hb
  rw [join, hrel, if_neg Bool.false_ne_true, hraw, dropWhile_rawPath, ← List.append_assoc] at h
  have hscheme : b.scheme ≠ [] := horigin.scheme ▸ hbase.scheme
  have hchars : ∀ c ∈ slashed (rooted base.path) ++ r.path.dropWhile (· = '/'),
      isPathChar c = true := by
    intro c hc
    rcases List.mem_append.mp hc with hc | hc
    · exact isPathChar_slashed (isPathChar_rooted hbase.normal.path) c hc
    · exact hr.path c (List.dropWhile_subset _ hc)
  obtain ⟨horigin', -, hpath, -⟩ := withPath_eq hnormal hscheme hchars (head?_queryText r) h
  exact ⟨horigin.trans horigin', hpath.trans (hbase.resolveDots_append _)⟩

/-- A resource that is no URL of its own ends up below the base exactly if its pieces
lead there. -/
theorem isBelow_join_iff {base b r v : Url} (hbase : base.IsBase) (hb : base.asBase = .ok b)
    (hr : r.IsNormal) (hrel : r.isAbsolute = false) (h : b.join r = .ok v) :
    base.IsBelow v
      ↔ StaysBelow base.baseSegments (splitOn '/' (r.path.dropWhile (· = '/'))) := by
  obtain ⟨horigin, hpath⟩ := join_eq hbase hb hr hrel h
  have hpieces : ∀ p ∈ splitOn '/' (r.path.dropWhile (· = '/')), '/' ∉ p :=
    fun p hp => Text.not_mem_of_mem_splitOn hp
  rw [← below_iff hbase.free hpieces, ← hpath, ← hbase.slashed_eq]
  exact ⟨fun hbelow => hbelow.path, fun hbegin => ⟨horigin, hbegin⟩⟩

end CodeAtlas.Url
