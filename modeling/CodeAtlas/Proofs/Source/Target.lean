/-
CodeAtlas.Proofs.Source.Target — the URLs that requests are sent to.

All that is sent to has the scheme of a URL, of the base or of the resource itself, so
the check that an address has a scheme never fails (`schemeFault?_target`).

Not every resource makes a URL. One that is read as a URL does, if the base can be asked for
by itself and the result is not too long (`exists_request_of_parse`). One without marks is read
as a path, which continues that of the base (`target_of_unmarked`). A plain one, of the
characters of a path without a colon, is always read (`exists_request_of_plain`).
-/
import CodeAtlas.Proofs.Source.Containment
import CodeAtlas.Proofs.Url.Change

namespace CodeAtlas

namespace Url

/-! ## Schemes -/

/-- The URL has a scheme, of the characters that schemes have. -/
structure HasScheme (u : Url) : Prop where
  nonempty : u.scheme ≠ []
  chars : ∀ c ∈ u.scheme, isSchemeChar c = true

theorem isSchemeChar_toLower {c : Char} (h : isSchemeChar c = true) :
    isSchemeChar c.toLower = true := by
  rcases toLower_cases c with hsame | hlt
  · rwa [hsame]
  · exact Text.of_ascii (p := fun c => isSchemeChar c = true → isSchemeChar c.toLower = true)
      (by decide +kernel) hlt h

theorem isSchemeChar_of_isScheme {cs : List Char} (h : isScheme cs = true) :
    ∀ c ∈ cs, isSchemeChar c = true := by
  cases cs with
  | nil => exact fun c hc => absurd hc List.not_mem_nil
  | cons first cs =>
    rw [isScheme, Bool.and_eq_true, List.all_eq_true] at h
    intro c hc
    rcases List.mem_cons.mp hc with rfl | hc
    · simp [isSchemeChar, Char.isAlphanum, h.1]
    · exact h.2 c hc

/-- What is taken for a scheme is made of the characters of schemes. -/
theorem isSchemeChar_of_mem_split {cs : List Char} :
    ∀ c ∈ (split cs).scheme, isSchemeChar c = true := by
  show ∀ c ∈ (splitScheme cs).1, isSchemeChar c = true
  unfold splitScheme
  split
  · dsimp only
    split
    · next hscheme => exact isSchemeChar_of_isScheme hscheme
    · exact fun c hc => absurd hc List.not_mem_nil
  · exact fun c hc => absurd hc List.not_mem_nil

theorem HasScheme.of_gives {c : Components} {u : Url} (h : c.Gives u) (hne : c.scheme ≠ [])
    (hchars : ∀ a ∈ c.scheme, isSchemeChar a = true) : u.HasScheme where
  nonempty := by
    rw [h.scheme]
    simpa using hne
  chars := by
    intro a ha
    rw [h.scheme] at ha
    obtain ⟨b, hb, rfl⟩ := List.mem_map.mp ha
    exact isSchemeChar_toLower (hchars b hb)

/-- An absolute URL has a scheme. -/
theorem HasScheme.of_parse {cs : List Char} {u : Url} (h : parse cs = .ok u)
    (habs : u.isAbsolute = true) : u.HasScheme := by
  have hgives := gives_of_parse h
  refine .of_gives hgives ?_ isSchemeChar_of_mem_split
  intro hnil
  have hscheme : u.scheme = [] := by rw [hgives.scheme, hnil, List.map_nil]
  simp [isAbsolute, hscheme] at habs

/-- Replacing the path keeps the scheme. -/
theorem HasScheme.withPath {u v : Url} {raw : List Char} (hu : u.HasScheme)
    (h : u.withPath raw = .ok v) : v.HasScheme :=
  .of_gives (gives_of_assemble h) hu.nonempty hu.chars

theorem HasScheme.asBase {u v : Url} (hu : u.HasScheme) (h : u.asBase = .ok v) :
    v.HasScheme := by
  unfold Url.asBase at h
  split at h
  · cases h
    exact hu
  · exact hu.withPath h

/-- A URL joined with a base has the scheme of the one or the other. -/
theorem HasScheme.join {b u r : Url} {cs : List Char} (hb : b.HasScheme)
    (hr : parse cs = .ok r) (h : b.join r = .ok u) : u.HasScheme := by
  unfold Url.join at h
  split at h
  · next habs =>
    cases h
    exact .of_parse hr habs
  · exact hb.withPath h

/-- The text of a URL with a scheme begins with it. -/
theorem HasScheme.text_eq {u : Url} (h : u.HasScheme) :
    ∃ rest, u.text = u.scheme ++ ':' :: rest := by
  have hempty : u.scheme.isEmpty = false := by
    rw [List.isEmpty_eq_false_iff]
    exact h.nonempty
  unfold Url.text
  simp only [hempty, Bool.false_eq_true, if_false, List.append_assoc, List.cons_append,
    List.nil_append]
  exact ⟨_, rfl⟩

end Url

namespace Service

/-- A scheme in front of a text is found. -/
theorem hasScheme_append {scheme : List Char} (hne : scheme ≠ [])
    (hchars : ∀ c ∈ scheme, Url.isSchemeChar c = true) (rest : List Char) :
    hasScheme (scheme ++ ':' :: rest) = true := by
  have hinside : ∀ c ∈ scheme, (decide (c ≠ '/') && decide (c ≠ ':')) = true := by
    intro c hc
    rw [Bool.and_eq_true, decide_eq_true_eq, decide_eq_true_eq]
    constructor
    · rintro rfl
      exact absurd (hchars '/' hc) (by decide)
    · rintro rfl
      exact absurd (hchars ':' hc) (by decide)
  have hpos : 0 < scheme.length := List.length_pos_iff.mpr hne
  unfold hasScheme
  rw [Text.dropWhile_append_stop hinside (by simp)]
  simp [hpos]

/-- Splitting off the fragment leaves what is in front of it. -/
theorem splitFragment_of_not_mem {front : List Char} (h : '#' ∉ front) (rest : List Char) :
    ∃ before, (splitFragment (front ++ rest)).1 = front ++ before := by
  unfold splitFragment
  by_cases hmark : '#' ∈ rest
  · obtain ⟨before, after, rfl, hafter⟩ := Text.exists_last_mark hmark
    rw [← List.append_assoc, Text.dropWhile_reverse_last hafter]
    exact ⟨before, List.reverse_reverse _⟩
  · have hnone : '#' ∉ front ++ rest := by
      rw [List.mem_append, not_or]
      exact ⟨h, hmark⟩
    rw [Text.dropWhile_reverse_of_not_mem hnone]
    exact ⟨rest, rfl⟩

/-- A URL with a scheme is never refused for having none. -/
theorem schemeFault?_text {u : Url} (h : u.HasScheme) : schemeFault? u.text = none := by
  obtain ⟨rest, htext⟩ := h.text_eq
  have hmark : '#' ∉ u.scheme ++ [':'] := by
    intro hmem
    rcases List.mem_append.mp hmem with hscheme | hcolon
    · exact absurd (h.chars '#' hscheme) (by decide)
    · exact absurd hcolon (by decide)
  obtain ⟨before, hbefore⟩ := splitFragment_of_not_mem hmark rest
  have hscheme : hasScheme (splitFragment u.text).1 = true := by
    rw [htext, List.append_cons, hbefore, List.append_assoc]
    exact hasScheme_append h.nonempty h.chars before
  unfold schemeFault?
  simp only [hscheme, if_true]

end Service

namespace Url

/-! ## Plain paths -/

/-- The character marks nothing in a URL, and it is no control character. -/
def isUnmarked (c : Char) : Bool :=
  c ≠ ':' && c ≠ '?' && c ≠ '#' && (128 ≤ c.toNat || isPrintable c)

theorem ne_mark_of_isUnmarked {c : Char} (h : isUnmarked c = true) :
    c ≠ ':' ∧ c ≠ '?' ∧ c ≠ '#' := by
  refine ⟨?_, ?_, ?_⟩ <;> rintro rfl <;> exact absurd h (by decide)

/-- No such character is a control character. -/
theorem controlCharacter?_of_unmarked {cs : List Char} (h : ∀ c ∈ cs, isUnmarked c = true) :
    controlCharacter? cs = none := by
  unfold controlCharacter?
  rw [Option.map_eq_none_iff, List.find?_eq_none]
  intro c hc
  have hunmarked := h c hc
  simp only [isUnmarked, Bool.and_eq_true, Bool.or_eq_true, decide_eq_true_eq] at hunmarked
  rcases hunmarked.2 with hlarge | hprintable
  · simp [Nat.not_lt.mpr hlarge]
  · simp [hprintable]

/-- A text without marks that begins with no slash is read as a path. -/
theorem parse_of_unmarked {cs : List Char} (h : ∀ c ∈ cs, isUnmarked c = true)
    (hhead : cs.head? ≠ some '/') (hlength : cs.length ≤ lengthLimit) :
    ∃ r, parse cs = .ok r ∧ r.scheme = [] ∧ r.path = Text.percentEncode isPathChar cs
      ∧ r.query = none := by
  have hmarks : ∀ c ∈ cs, c ≠ ':' ∧ c ≠ '?' ∧ c ≠ '#' := fun c hc => ne_mark_of_isUnmarked (h c hc)
  have hcheck : checkPath false false cs = .ok () := by
    cases cs with
    | nil => rfl
    | cons c cs =>
      have hcolon := (hmarks c List.mem_cons_self).1
      have hslash : c ≠ '/' := fun hc => hhead (by rw [hc, List.head?_cons])
      simp [checkPath, hcolon, hslash]
  have hgives : (Components.mk [] [] cs none none).Gives
      ⟨[], [], [], none, Text.percentEncode isPathChar cs, none, none⟩ :=
    ⟨rfl, rfl, rfl, rfl, hcheck, rfl, rfl, rfl⟩
  refine ⟨⟨[], [], [], none, Text.percentEncode isPathChar cs, none, none⟩, ?_, rfl, rfl, rfl⟩
  rw [parse, if_neg (Nat.not_lt.mpr hlength), controlCharacter?_of_unmarked h]
  show (split cs).normalize = _
  rw [split_of_plain hmarks hhead, hgives.normalize_eq]

def isPlainChar (c : Char) : Bool := isPathChar c && c ≠ ':'

theorem isPathChar_of_isPlainChar {c : Char} (h : isPlainChar c = true) : isPathChar c = true := by
  rw [isPlainChar, Bool.and_eq_true] at h
  exact h.1

theorem isUnmarked_of_isPlainChar {c : Char} (h : isPlainChar c = true) : isUnmarked c = true := by
  have hprintable : isPrintable c = true := by
    have hpath := isPathChar_of_isPlainChar h
    simp only [isPathChar, isQueryChar, Bool.and_eq_true] at hpath
    exact hpath.1.1
  have hmarks : c ≠ ':' ∧ c ≠ '?' ∧ c ≠ '#' := by
    refine ⟨?_, ?_, ?_⟩ <;> rintro rfl <;> exact absurd h (by decide)
  simp [isUnmarked, hprintable, hmarks]

theorem dropWhile_rooted {path : List Char} (h : path.head? ≠ some '/') :
    (rooted path).dropWhile (· = '/') = path := by
  cases path with
  | nil => rfl
  | cons c path =>
    have hc : c ≠ '/' := fun hc => h (by rw [hc, List.head?_cons])
    exact List.dropWhile_cons_of_neg (by simpa using hc)

end Url

namespace Service

/-! ## Requests -/

/-- With base, timeout and target there is a request. -/
theorem request_eq_ok {s : Service} {b u : Url} {timeout : Value} {path : List Char}
    (hb : s.base = .ok b) (htimeout : readTimeout s.timeout = .ok timeout)
    (hu : target b path = .ok u) : s.request path none = .ok ⟨u, timeout⟩ := by
  exact request_eq_ok_iff.mpr ⟨b, u, hb, htimeout, hu, rfl⟩

/-- Nothing but the URL keeps a request from being made, if the service has a text for a
base and a time to wait. -/
theorem url_of_request_error {s : Service} {text : String} {timeout : Value} {path : List Char}
    {fault : Fault} (hs : s.baseUrl = .str text)
    (htimeout : readTimeout s.timeout = .ok timeout) (h : s.request path none = .error fault) :
    ∃ e, fault = .url e := by
  cases hb : s.base with
  | error cause =>
    simp only [request, hb, bind, Except.bind] at h
    cases h
    rw [base, hs] at hb
    dsimp only at hb
    split at hb
    · cases hb
      exact ⟨_, rfl⟩
    · split at hb
      · cases hb
        exact ⟨_, rfl⟩
      · cases hb
  | ok b =>
    cases hu : target b path with
    | error cause =>
      simp only [request, hb, htimeout, hu, bind, Except.bind] at h
      cases h
      rw [target] at hu
      split at hu
      · cases hu
        exact ⟨_, rfl⟩
      · split at hu
        · cases hu
          exact ⟨_, rfl⟩
        · cases hu
    | ok u =>
      rw [request_eq_ok hb htimeout hu] at h
      cases h

/-- The base of a service has a scheme if its URL has. -/
theorem hasScheme_of_base {s : Service} {text : String} {base b : Url}
    (hs : s.baseUrl = .str text) (hparse : Url.parse text.toList = .ok base)
    (habs : base.isAbsolute = true) (hb : s.base = .ok b) : b.HasScheme :=
  (Url.HasScheme.of_parse hparse habs).asBase (asBase_of_base hs hparse hb)

/-- What is sent to is never refused for having no scheme. -/
theorem schemeFault?_target {s : Service} {text : String} {base : Url} {path : List Char}
    {sent : Request} (hs : s.baseUrl = .str text) (hparse : Url.parse text.toList = .ok base)
    (habs : base.isAbsolute = true) (h : s.request path none = .ok sent) :
    schemeFault? sent.target.text = none := by
  obtain ⟨b, hb, htarget⟩ := target_of_request h
  obtain ⟨r, hr, hjoin⟩ := join_of_target htarget
  exact schemeFault?_text ((hasScheme_of_base hs hparse habs hb).join hr hjoin)

/-- The address of a path without marks continues that of the base. -/
theorem target_of_unmarked {b u : Url} {path : List Char}
    (hunmarked : ∀ c ∈ path, Url.isUnmarked c = true) (hhead : path.head? ≠ some '/')
    (hlength : path.length ≤ Url.lengthLimit) :
    target b path = .ok u ↔
      b.withPath (b.rawPath ++ Text.percentEncode Url.isPathChar path) = .ok u := by
  obtain ⟨r, hr, hscheme, hpath, hquery⟩ := Url.parse_of_unmarked hunmarked hhead hlength
  have hjoin : b.join r = b.withPath (b.rawPath ++ Text.percentEncode Url.isPathChar path) := by
    have hrel : r.isAbsolute = false := by simp [Url.isAbsolute, hscheme]
    rw [Url.join, hrel, if_neg Bool.false_ne_true, Url.rawPath_of_query_none hquery, hpath,
      Url.dropWhile_rooted (mt (Text.head?_of_percentEncode (by decide)) hhead)]
  rw [target, hr]
  dsimp only
  rw [hjoin]
  cases b.withPath (b.rawPath ++ Text.percentEncode Url.isPathChar path) <;> simp

/-- A plain path is put behind the path of the base. -/
theorem target_eq_ok_iff {b u : Url} {path : List Char}
    (hplain : ∀ c ∈ path, Url.isPlainChar c = true) (hhead : path.head? ≠ some '/')
    (hlength : path.length ≤ Url.lengthLimit) :
    target b path = .ok u ↔ b.withPath (b.rawPath ++ path) = .ok u := by
  rw [target_of_unmarked (fun c hc => Url.isUnmarked_of_isPlainChar (hplain c hc)) hhead hlength,
    Text.percentEncode_of_keep fun c hc => Url.isPathChar_of_isPlainChar (hplain c hc)]

/-- A base that can be asked for by itself can have its path replaced by its own. -/
theorem withPath_of_request {s : Service} {b : Url} {sent : Request} (hb : s.base = .ok b)
    (hsent : s.request [] none = .ok sent) : b.withPath b.rawPath = .ok sent.target := by
  obtain ⟨b', hb', htarget⟩ := target_of_request hsent
  rw [hb] at hb'
  cases hb'
  obtain ⟨r, hr, hjoin⟩ := join_of_target htarget
  cases hr
  rw [← List.append_nil b.rawPath]
  exact hjoin

/-- A resource that is read as a URL makes a request, if the base does by itself. -/
theorem exists_request_of_parse {s : Service} {text : String} {base b r : Url} {timeout : Value}
    {path : List Char} {sent : Request} (hs : s.baseUrl = .str text)
    (hparse : Url.parse text.toList = .ok base) (habs : base.isAbsolute = true)
    (htimeout : readTimeout s.timeout = .ok timeout) (hb : s.base = .ok b)
    (hsent : s.request [] none = .ok sent) (hr : Url.parse path = .ok r)
    (hlength : r.isAbsolute = false →
      (b.rawPath ++ r.rawPath.dropWhile (· = '/')).length ≤ Url.lengthLimit) :
    ∃ sent', s.request path none = .ok sent' ∧ b.join r = .ok sent'.target := by
  obtain ⟨u, hu⟩ : ∃ u, b.join r = .ok u := by
    unfold Url.join
    cases hrel : r.isAbsolute with
    | true => exact ⟨r, rfl⟩
    | false =>
      exact Url.exists_withPath_append (Or.inl (hasScheme_of_base hs hparse habs hb).nonempty)
        (withPath_of_request hb hsent) (hlength hrel)
  refine ⟨⟨u, timeout⟩, request_eq_ok hb htimeout ?_, hu⟩
  rw [target, hr]
  dsimp only
  rw [hu]

/-- A plain resource makes a request, if the base does by itself. -/
theorem exists_request_of_plain {s : Service} {text : String} {base b : Url} {timeout : Value}
    {path : List Char} {sent : Request} (hs : s.baseUrl = .str text)
    (hparse : Url.parse text.toList = .ok base) (habs : base.isAbsolute = true)
    (htimeout : readTimeout s.timeout = .ok timeout) (hb : s.base = .ok b)
    (hsent : s.request [] none = .ok sent)
    (hplain : ∀ c ∈ path, Url.isPlainChar c = true) (hhead : path.head? ≠ some '/')
    (hlength : (b.rawPath ++ path).length ≤ Url.lengthLimit) :
    ∃ sent', s.request path none = .ok sent' := by
  have hpath : path.length ≤ Url.lengthLimit :=
    Nat.le_trans (List.sublist_append_right _ _).length_le hlength
  obtain ⟨r, hr, -, hsame, hquery⟩ := Url.parse_of_unmarked
    (fun c hc => Url.isUnmarked_of_isPlainChar (hplain c hc)) hhead hpath
  rw [Text.percentEncode_of_keep fun c hc => Url.isPathChar_of_isPlainChar (hplain c hc)] at hsame
  obtain ⟨sent', hsent', -⟩ := exists_request_of_parse hs hparse habs htimeout hb hsent hr
    fun _ => by rwa [Url.rawPath_of_query_none hquery, hsame, Url.dropWhile_rooted hhead]
  exact ⟨sent', hsent'⟩

end Service

end CodeAtlas
