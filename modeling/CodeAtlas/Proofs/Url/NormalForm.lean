/-
CodeAtlas.Proofs.Url.NormalForm — normalizing a URL that is in normal form.

Components have a normal form if their host, their port and the beginning of their path are
in order, and each part of it is then known (`Components.Gives`).

A URL is changed by putting its authority together as a text and taking the text apart
again. What comes out has the same origin: the same scheme, the same host, letters in
capitals aside, and the same port, whether it is written or implied
(`sameOrigin_of_gives`). Letters and ports are the two places where normalizing twice is
not the same as normalizing once: the digits of a byte in a host name are made small only
the second time, and a port that a scheme in capitals implies is left out only then.

The reason why nothing else can change is the form of hosts (`IsHost`): a host has none of
the characters that divide an authority, unless it is an address in brackets.
-/
import Mathlib
import CodeAtlas.Proofs.Number.Integer
import CodeAtlas.Proofs.Text.Classes
import CodeAtlas.Proofs.Url.Domain
import CodeAtlas.Proofs.Url.Path

namespace CodeAtlas.Url

open Text (splitOn percentEncode KeepsBytes of_ascii)
open Number (integerText withinLimit)

/-! ## Normalizing

`Components.Gives` says once what normalizing does, so that later proofs need not open
its definition. -/

/-- The host as it is written. -/
def Components.rawHost (c : Components) : List Char :=
  (splitHost (splitUserinfo c.authority).2).1

def Components.rawPort (c : Components) : List Char :=
  let rest := (splitHost (splitUserinfo c.authority).2).2
  (afterMark ':' rest).getD rest

/-- Users, a host or a port are written, where the URL has this host and this port. -/
def Components.hasAuthority (c : Components) (u : Url) : Bool :=
  !(splitUserinfo c.authority).1.isEmpty || !u.host.isEmpty || u.port.isSome

/-- The components are normalized to the URL. -/
structure Components.Gives (c : Components) (u : Url) : Prop where
  scheme : u.scheme = c.scheme.map Char.toLower
  userinfo : u.userinfo = percentEncode isUserinfoChar (splitUserinfo c.authority).1
  host : normalHost c.rawHost = .ok u.host
  port : normalPort c.scheme c.rawPort = .ok u.port
  check : checkPath (!c.scheme.isEmpty) (c.hasAuthority u) c.path = .ok ()
  path : u.path = percentEncode isPathChar
    (if !c.scheme.isEmpty || c.hasAuthority u then resolveDots c.path else c.path)
  query : u.query = c.query.map (percentEncode isQueryChar)
  fragment : u.fragment = c.fragment.map (percentEncode isFragmentChar)

/-- What normalizing gives is in the relation. -/
theorem gives_of_normalize {c : Components} {u : Url} (h : c.normalize = .ok u) :
    c.Gives u := by
  simp only [Components.normalize] at h
  split at h
  · cases h
  · next host hhost =>
    split at h
    · cases h
    · next port hport =>
      split at h
      · cases h
      · next hcheck =>
        cases h
        exact ⟨rfl, rfl, hhost, hport, hcheck, rfl, rfl, rfl⟩

/-- A path begins well: with a slash behind an authority, and without a scheme and an
authority neither with two slashes nor with a colon. -/
theorem checkPath_eq_ok_iff {hasScheme hasAuthority : Bool} {path : List Char} :
    checkPath hasScheme hasAuthority path = .ok () ↔
      (hasAuthority = true → path ≠ [] → path.head? = some '/')
        ∧ (hasScheme = false → hasAuthority = false →
            path.take 2 ≠ ['/', '/'] ∧ path.head? ≠ some ':') := by
  unfold checkPath
  by_cases hpair : path.take 2 = ['/', '/'] <;> by_cases hcolon : path.head? = some ':' <;>
    cases hasScheme <;> cases hasAuthority <;> simp [hpair, hcolon]

namespace Components.Gives

variable {c : Components} {u : Url}

/-- And what is in the relation, normalizing gives. -/
theorem normalize_eq (h : c.Gives u) : c.normalize = .ok u := by
  obtain ⟨scheme, userinfo, host, port, path, query, fragment⟩ := u
  have hhost := h.host
  have hport := h.port
  have hcheck := h.check
  unfold rawHost at hhost
  unfold rawPort at hport
  unfold hasAuthority at hcheck
  simp only [normalize, hhost, hport, hcheck, Except.ok.injEq, Url.mk.injEq, true_and]
  exact ⟨h.scheme.symm, h.userinfo.symm, h.path.symm, h.query.symm, h.fragment.symm⟩

/-- Where there is a host, a path has a slash in front. -/
theorem rooted (h : c.Gives u) (hhost : u.host ≠ []) (hne : c.path ≠ []) :
    c.path.head? = some '/' :=
  (checkPath_eq_ok_iff.mp h.check).1 (by simp [hasAuthority, hhost]) hne

/-- Where there is a scheme, dots are resolved. -/
theorem resolved (h : c.Gives u) (hscheme : c.scheme ≠ []) :
    u.path = percentEncode isPathChar (resolveDots c.path) := by
  rw [h.path, if_pos (by simp [hscheme])]

/-- A bare path is encoded and otherwise left alone. -/
theorem bare (h : c.Gives u) (hscheme : c.scheme = []) (hauthority : c.authority = []) :
    u.path = percentEncode isPathChar c.path := by
  have hhost := h.host
  have hport := h.port
  rw [rawHost, hauthority] at hhost
  rw [rawPort, hauthority] at hport
  have hnone : c.hasAuthority u = false := by
    rw [hasAuthority, hauthority, ← Except.ok.inj hhost, ← Except.ok.inj hport]
    rfl
  rw [h.path, hnone, hscheme]
  rfl

end Components.Gives

/-! ## Authorities -/

theorem splitUserinfo_of_not_mem {cs : List Char} (h : '@' ∉ cs) : splitUserinfo cs = ([], cs) := by
  rw [splitUserinfo, Text.dropWhile_reverse_of_not_mem h]

/-- The last `@` divides. -/
theorem splitUserinfo_append {before after : List Char} (h : '@' ∉ after) :
    splitUserinfo (before ++ '@' :: after) = (before, after) := by
  rw [splitUserinfo, Text.dropWhile_reverse_last h, Text.takeWhile_reverse_last h]
  simp only [List.reverse_reverse]

/-- No `@` is left in the host. -/
theorem not_mem_splitUserinfo (cs : List Char) : '@' ∉ (splitUserinfo cs).2 := by
  by_cases h : '@' ∈ cs
  · obtain ⟨before, after, rfl, hafter⟩ := Text.exists_last_mark h
    rwa [splitUserinfo_append hafter]
  · rwa [splitUserinfo_of_not_mem h]

theorem splitHost_subset (cs : List Char) : (splitHost cs).1 ⊆ cs := by
  rw [splitHost]
  split
  · intro c hc
    exact List.mem_reverse.mp (List.dropWhile_subset _ (List.mem_reverse.mp hc))
  · exact List.takeWhile_subset _

theorem not_mem_rawHost (c : Components) : '@' ∉ c.rawHost :=
  fun h => not_mem_splitUserinfo _ (splitHost_subset _ h)

/-! ## Hosts -/

/-- The form of a host: a name that no character divides, or an address for which there
are brackets. -/
def IsHost (host : List Char) : Prop :=
  (∀ c ∈ host, isHostChar c = true) ∨ (isAddress6 host = true ∧ '@' ∉ host)

/-- The ways in which a host is normalized. -/
theorem normalHost_cases {raw host : List Char} (h : normalHost raw = .ok host) :
    (raw = [] ∧ host = []) ∨ (looksNumeric raw = true ∧ host = raw)
      ∨ (raw.head? = some '[' ∧ isAddress6 host = true ∧ host = (raw.drop 1).dropLast)
      ∨ host = percentEncode isHostChar (raw.map Char.toLower)
      ∨ ((∃ c ∈ raw, 128 ≤ c.toNat) ∧ Domain.ascii? raw = some host) := by
  unfold normalHost at h
  split at h
  · next hempty =>
    cases h
    exact Or.inl ⟨List.isEmpty_iff.mp hempty, rfl⟩
  · split at h
    · next hnumeric =>
      split at h
      · cases h
        exact Or.inr (Or.inl ⟨hnumeric, rfl⟩)
      · cases h
    · split at h
      · next hbracket =>
        simp only [Bool.and_eq_true, decide_eq_true_eq] at hbracket
        extract_lets inside at h
        split at h
        · next haddress =>
          rw [Except.ok.inj h] at haddress
          exact Or.inr (Or.inr (Or.inl ⟨hbracket.1.1, haddress, (Except.ok.inj h).symm⟩))
        · cases h
      · split at h
        · cases h
          exact Or.inr (Or.inr (Or.inr (Or.inl rfl)))
        · next hother =>
          split at h
          · next hname =>
            cases h
            simp only [List.all_eq_true, decide_eq_true_eq, Classical.not_forall,
              Nat.not_lt] at hother
            obtain ⟨c, hc, hlarge⟩ := hother
            exact Or.inr (Or.inr (Or.inr (Or.inr ⟨⟨c, hc, hlarge⟩, hname⟩)))
          · cases h

theorem isHostChar_of_isNameChar {c : Char} (h : Domain.isNameChar c = true) :
    isHostChar c = true := by
  rw [Domain.isNameChar, Bool.or_eq_true, decide_eq_true_eq] at h
  rcases h with h | rfl
  · have hascii : c.toNat < 128 := by
      simp only [Domain.isNamePoint, Bool.or_eq_true, Bool.and_eq_true, beq_iff_eq,
        decide_eq_true_eq] at h
      omega
    exact of_ascii (p := fun c => Domain.isNamePoint c.toNat = true → isHostChar c = true)
      (by decide +kernel) hascii h
  · decide

theorem isDigit_of_looksNumeric {cs : List Char} (h : looksNumeric cs = true) :
    ∀ c ∈ cs, c = '.' ∨ c.isDigit = true := by
  intro c hc
  simp only [looksNumeric, Bool.and_eq_true, List.all_eq_true] at h
  rcases Text.mem_splitOn '.' hc with hdot | ⟨piece, hpiece, hc⟩
  · exact Or.inl hdot
  · exact Or.inr ((h.2 piece hpiece).2 c hc)

/-- What looks like a number is made of host characters. -/
theorem isHostChar_of_looksNumeric {cs : List Char} (h : looksNumeric cs = true) :
    ∀ c ∈ cs, isHostChar c = true := by
  intro c hc
  rcases isDigit_of_looksNumeric h c hc with rfl | hdigit
  · decide
  · simp [isHostChar, Text.isUnreserved, Char.isAlphanum, hdigit]

/-- A normal host has the form of one. -/
theorem isHost_of_normalHost {raw host : List Char} (hraw : '@' ∉ raw)
    (h : normalHost raw = .ok host) : IsHost host := by
  rcases normalHost_cases h with ⟨-, rfl⟩ | ⟨hnumeric, rfl⟩ | ⟨-, haddress, rfl⟩ | rfl | ⟨-, hname⟩
  · exact Or.inl fun c hc => absurd hc List.not_mem_nil
  · exact Or.inl (isHostChar_of_looksNumeric hnumeric)
  · refine Or.inr ⟨haddress, fun hmem => hraw ?_⟩
    exact List.mem_of_mem_drop (List.dropLast_subset _ hmem)
  · exact Or.inl fun c hc => Text.keep_of_mem_percentEncode (by decide) hc
  · exact Or.inl fun c hc => isHostChar_of_isNameChar (Domain.isNameChar_of_ascii? hname c hc)

/-! ## Small letters -/

theorem toLower_cases (c : Char) : c.toLower = c ∨ c.toNat < 128 := by
  rw [Char.toLower]
  split
  · next h =>
    have hle : c.val.toNat ≤ 90 := UInt32.le_iff_toNat_le.mp h.2
    exact Or.inr (Nat.lt_of_le_of_lt hle (by decide))
  · exact Or.inl rfl

/-- Small letters stay small. -/
theorem toLower_toLower (c : Char) : c.toLower.toLower = c.toLower := by
  rcases toLower_cases c with h | h
  · rw [h, h]
  · exact of_ascii (p := fun c => c.toLower.toLower = c.toLower) (by decide +kernel) h

theorem map_toLower_toLower (cs : List Char) :
    (cs.map Char.toLower).map Char.toLower = cs.map Char.toLower := by
  rw [List.map_map]
  exact List.map_congr_left fun c _ => toLower_toLower c

/-- The small form of a host character is one. -/
theorem isHostChar_toLower {c : Char} (h : isHostChar c = true) :
    isHostChar c.toLower = true := by
  rcases toLower_cases c with hsame | hlt
  · rwa [hsame]
  · exact of_ascii (p := fun c => isHostChar c = true → isHostChar c.toLower = true)
      (by decide +kernel) hlt h

theorem toNat_lt_of_isAlphanum {c : Char} (h : c.isAlphanum = true) : c.toNat < 128 := by
  simp only [Char.isAlphanum, Char.isAlpha, Char.isUpper, Char.isLower, Char.isDigit,
    Bool.or_eq_true, Bool.and_eq_true, decide_eq_true_eq, ge_iff_le,
    UInt32.le_iff_toNat_le] at h
  change (_ ∧ c.toNat ≤ 90 ∨ _ ∧ c.toNat ≤ 122) ∨ _ ∧ c.toNat ≤ 57 at h
  omega

/-- Host characters are ASCII. -/
theorem toNat_lt_of_isHostChar {c : Char} (h : isHostChar c = true) : c.toNat < 128 := by
  have hsigns : "!$&'()*+,;=\"`\x7b\x7d%|\\".toList.all (·.toNat < 128) = true := by decide
  simp only [isHostChar, Text.isUnreserved, Bool.or_eq_true, decide_eq_true_eq,
    List.contains_iff_mem] at h
  rcases h with ((((h | rfl) | rfl) | rfl) | rfl) | h
  · exact toNat_lt_of_isAlphanum h
  all_goals first | decide | exact of_decide_eq_true (List.all_eq_true.mp hsigns c h)

/-! ## Taking an authority apart again -/

/-- A host as it stands in an authority. -/
def hostText (host : List Char) : List Char :=
  if host.contains ':' then '[' :: host ++ [']'] else host

def portText : Option Int → List Char
  | some n => ':' :: integerText n
  | none => []

/-- An authority: user, host and port. -/
theorem authority_eq (u : Url) :
    u.authority = (if u.userinfo.isEmpty then [] else u.userinfo ++ ['@'])
      ++ (hostText u.host ++ portText u.port) := by
  rw [authority, hostText, List.append_assoc]
  cases u.port <;> rfl

/-- A name ends where the port begins. -/
theorem splitHost_name {host rest : List Char} (hname : ∀ c ∈ host, isHostChar c = true)
    (hrest : ∀ c ∈ rest.head?, c = ':') : splitHost (host ++ rest) = (host, rest) := by
  have hhead : (host ++ rest).head? ≠ some '[' := by
    cases host with
    | nil =>
      intro h
      exact absurd (hrest '[' h) (by decide)
    | cons c cs =>
      intro h
      cases h
      exact absurd (hname '[' List.mem_cons_self) (by decide)
  have hinside : ∀ c ∈ host, (decide (c ≠ ':') && decide (c ≠ '@')) = true := by
    intro c hc
    rw [Bool.and_eq_true, decide_eq_true_eq, decide_eq_true_eq]
    refine ⟨?_, ?_⟩ <;> rintro rfl <;> exact absurd (hname _ hc) (by decide)
  have hstop : ∀ c ∈ rest.head?, (decide (c ≠ ':') && decide (c ≠ '@')) = false := by
    intro c hc
    rw [hrest c hc]
    rfl
  simp only [splitHost, hhead, decide_false, Bool.false_and, Bool.false_eq_true, if_false,
    Text.takeWhile_append_stop hinside hstop, Text.dropWhile_append_stop hinside hstop]

/-- An address in brackets ends with its bracket. -/
theorem splitHost_bracketed (host : List Char) {rest : List Char} (hrest : ']' ∉ rest) :
    splitHost ('[' :: host ++ ']' :: rest) = ('[' :: host ++ [']'], rest) := by
  have hbrackets : (('[' :: host ++ ']' :: rest).reverse.dropWhile (· ≠ ']')).reverse
      = '[' :: host ++ [']'] := by
    rw [Text.dropWhile_reverse_last hrest, List.reverse_cons, List.reverse_reverse]
  have hdrop : ('[' :: host ++ ']' :: rest).drop ('[' :: host ++ [']']).length = rest := by
    rw [List.append_cons _ ']' rest]
    exact List.drop_left
  simp only [splitHost, hbrackets, hdrop]
  rfl

/-- A long address has a colon. -/
theorem contains_colon_of_isAddress6 {host : List Char} (h : isAddress6 host = true) :
    host.contains ':' = true := by
  rw [List.contains_iff_mem]
  refine Classical.byContradiction fun hmem => ?_
  -- Without a colon there is one group only.
  have hfree : ':' ∉ host.takeWhile (· ≠ '%') := fun hc => hmem (List.takeWhile_subset _ hc)
  simp only [isAddress6, Bool.and_eq_true, decide_eq_true_eq] at h
  have hlen := h.1.2
  rw [Text.splitOn_of_not_mem hfree] at hlen
  simp at hlen

theorem not_contains_colon {host : List Char} (h : ∀ c ∈ host, isHostChar c = true) :
    host.contains ':' = false := by
  rw [Bool.eq_false_iff]
  intro hmem
  exact absurd (h ':' (List.contains_iff_mem.mp hmem)) (by decide)

theorem not_mem_portText {c : Char} (port : Option Int) (hdigit : c.isDigit = false)
    (hcolon : c ≠ ':') (hminus : c ≠ '-') : c ∉ portText port := by
  intro hmem
  cases port with
  | none => exact absurd hmem List.not_mem_nil
  | some n =>
    rcases List.mem_cons.mp hmem with h | h
    · exact hcolon h
    · rcases Number.mem_integerText h with h | h
      · rw [hdigit] at h
        cases h
      · exact hminus h

theorem head?_portText (port : Option Int) : ∀ c ∈ (portText port).head?, c = ':' := by
  intro c hc
  cases port with
  | none => cases hc
  | some n => exact (Option.some.inj hc).symm

/-- Host and port of an authority are found again. -/
theorem splitHost_hostText {host : List Char} (h : IsHost host) (port : Option Int) :
    splitHost (hostText host ++ portText port) = (hostText host, portText port) := by
  rcases h with hname | ⟨haddress, -⟩
  · rw [hostText, not_contains_colon hname]
    exact splitHost_name hname (head?_portText port)
  · rw [hostText, contains_colon_of_isAddress6 haddress, if_pos rfl, List.append_assoc,
      List.singleton_append]
    exact splitHost_bracketed host (not_mem_portText port rfl (by decide) (by decide))

theorem not_mem_hostText {host : List Char} (h : IsHost host) : '@' ∉ hostText host := by
  rcases h with hname | ⟨haddress, hfree⟩
  · rw [hostText, not_contains_colon hname]
    exact fun hmem => absurd (hname '@' hmem) (by decide)
  · rw [hostText, contains_colon_of_isAddress6 haddress, if_pos rfl]
    simp [hfree]

/-- The user is read back from an authority. -/
theorem splitUserinfo_authority {u : Url} (h : IsHost u.host) :
    splitUserinfo u.authority = (u.userinfo, hostText u.host ++ portText u.port) := by
  have hfree : '@' ∉ hostText u.host ++ portText u.port := by
    rw [List.mem_append, not_or]
    exact ⟨not_mem_hostText h, not_mem_portText u.port rfl (by decide) (by decide)⟩
  rw [authority_eq]
  split
  · next hempty =>
    rw [List.nil_append, splitUserinfo_of_not_mem hfree, List.isEmpty_iff.mp hempty]
  · rw [List.append_assoc, List.singleton_append, splitUserinfo_append hfree]

section Again

variable {u : Url} {c : Components}

/-- The host is found again. -/
theorem rawHost_eq (h : IsHost u.host) (hauthority : c.authority = u.authority) :
    c.rawHost = hostText u.host := by
  rw [Components.rawHost, hauthority, splitUserinfo_authority h, splitHost_hostText h]

/-- The port is found again. -/
theorem rawPort_eq (h : IsHost u.host) (hauthority : c.authority = u.authority) :
    c.rawPort = (portText u.port).drop 1 := by
  rw [Components.rawPort, hauthority, splitUserinfo_authority h, splitHost_hostText h]
  cases u.port <;> rfl

end Again

/-! ## Origins -/

def effectivePort (u : Url) : Option Int := u.port.or (impliedPort (String.ofList u.scheme))

/-- The same scheme, host and port. Letters in host names have no size. -/
structure SameOrigin (u v : Url) : Prop where
  scheme : v.scheme = u.scheme
  host : v.host.map Char.toLower = u.host.map Char.toLower
  port : v.effectivePort = u.effectivePort

theorem SameOrigin.refl (u : Url) : u.SameOrigin u := ⟨rfl, rfl, rfl⟩

theorem SameOrigin.trans {u v w : Url} (h : u.SameOrigin v) (h' : v.SameOrigin w) :
    u.SameOrigin w :=
  ⟨h'.scheme.trans h.scheme, h'.host.trans h.host, h'.port.trans h.port⟩

/-- What normalizing leaves behind. -/
structure IsNormal (u : Url) : Prop where
  scheme : u.scheme.map Char.toLower = u.scheme
  host : IsHost u.host
  port : ∀ n ∈ u.port, withinLimit n = true
  userinfo : ∀ c ∈ u.userinfo, isUserinfoChar c = true
  path : ∀ c ∈ u.path, isPathChar c = true
  names : u.scheme ≠ [] → ∀ piece ∈ splitOn '/' u.path, isName piece = true
  rooted : u.scheme ≠ [] → u.host ≠ [] → u.path ≠ [] → u.path.head? = some '/'

/-- A port that is kept is within its limit. -/
theorem withinLimit_of_normalPort {scheme text : List Char} {port : Option Int}
    (h : normalPort scheme text = .ok port) : ∀ n ∈ port, withinLimit n = true := by
  intro n hn
  rw [normalPort] at h
  split at h
  · cases h
    cases hn
  · split at h
    · cases h
    · next m hread =>
      cases h
      split at hn
      · cases hn
      · cases hn
        exact Number.withinLimit_of_readInteger hread

theorem integerText_ne_nil (n : Int) : integerText n ≠ [] := by
  rw [integerText]
  split
  · exact List.cons_ne_nil _ _
  · exact Number.digits_ne_nil _

/-- A port that is written is read back, unless the scheme implies it. -/
theorem normalPort_integerText (scheme : List Char) {n : Int} (h : withinLimit n = true) :
    normalPort scheme (integerText n)
      = .ok (if impliedPort (String.ofList scheme) = some n then none else some n) := by
  rw [normalPort, if_neg (by simp [integerText_ne_nil]), Number.readInteger_integerText h]

/-- A path that begins with a slash still does when its dots are resolved, unless nothing
is left. -/
theorem head?_resolveDots {path : List Char} (h : path ≠ [] → path.head? = some '/') :
    resolveDots path ≠ [] → (resolveDots path).head? = some '/' := by
  intro hne
  cases path with
  | nil => exact absurd rfl hne
  | cons c cs =>
    have hc : c = '/' := Option.some.inj (h (List.cons_ne_nil _ _))
    have hwalk : (splitOn '/' (c :: cs)).foldl walk []
        = [] :: (heading (splitOn '/' cs)).applyTo [] := by
      rw [splitOn, if_pos hc, List.foldl_cons]
      exact foldl_walk_root [] (splitOn '/' cs)
    rw [resolveDots_eq, hwalk] at hne ⊢
    cases hend : (heading (splitOn '/' cs)).applyTo [] with
    | nil =>
      rw [hend] at hne
      exact absurd rfl hne
    | cons q qs => rfl

theorem Components.Gives.scheme_ne_nil {c : Components} {u : Url} (h : c.Gives u)
    (hne : u.scheme ≠ []) : c.scheme ≠ [] := by
  intro hnil
  rw [h.scheme, hnil] at hne
  exact hne rfl

/-- What normalizing gives is in normal form. -/
theorem isNormal_of_gives {c : Components} {u : Url} (h : c.Gives u) : u.IsNormal where
  scheme := by rw [h.scheme, map_toLower_toLower]
  host := isHost_of_normalHost (not_mem_rawHost c) h.host
  port := withinLimit_of_normalPort h.port
  userinfo := by
    rw [h.userinfo]
    exact fun c hc => Text.keep_of_mem_percentEncode (by decide) hc
  path := by
    rw [h.path]
    exact fun c hc => Text.keep_of_mem_percentEncode (by decide) hc
  names := by
    intro hscheme piece hpiece
    rw [h.resolved (h.scheme_ne_nil hscheme),
      Text.splitOn_percentEncode (by decide) (by decide)] at hpiece
    obtain ⟨raw, hraw, rfl⟩ := List.mem_map.mp hpiece
    exact isName_percentEncode _ (isName_of_mem_resolveDots hraw)
  rooted := by
    intro hscheme hhost
    rw [h.resolved (h.scheme_ne_nil hscheme)]
    have hhead := head?_resolveDots (h.rooted hhost)
    cases hpath : resolveDots c.path with
    | nil => exact fun hne => absurd rfl hne
    | cons d ds =>
      rw [hpath] at hhead
      have hd : d = '/' := Option.some.inj (hhead (List.cons_ne_nil _ _))
      intro _
      rw [hd]
      rfl

/-! ## Normalizing twice -/

/-- Normalizing a host again changes letters at most. -/
theorem normalHost_name {host host' : List Char} (hname : ∀ c ∈ host, isHostChar c = true)
    (h : normalHost host = .ok host') : host' = host ∨ host' = host.map Char.toLower := by
  rcases normalHost_cases h with ⟨rfl, rfl⟩ | ⟨-, rfl⟩ | ⟨hhead, -, -⟩ | rfl | ⟨⟨c, hc, hlarge⟩, -⟩
  · exact Or.inl rfl
  · exact Or.inl rfl
  · exact absurd (hname '[' (List.mem_of_mem_head? hhead)) (by decide)
  · refine Or.inr (Text.percentEncode_of_keep ?_)
    exact List.forall_mem_map.mpr fun c hc => isHostChar_toLower (hname c hc)
  · exact absurd (toNat_lt_of_isHostChar (hname c hc)) (Nat.not_lt.mpr hlarge)

/-- Normalizing an address again changes nothing. -/
theorem normalHost_bracketed {host : List Char} (h : isAddress6 host = true) :
    normalHost ('[' :: host ++ [']']) = .ok host := by
  have hnumeric : ¬ looksNumeric ('[' :: host ++ [']']) = true := fun hnum =>
    absurd (isHostChar_of_looksNumeric hnum '[' List.mem_cons_self) (by decide)
  have hbracket : (decide (('[' :: host ++ [']']).head? = some '[')
      && decide (('[' :: host ++ [']']).getLast? = some ']')
      && decide (2 ≤ ('[' :: host ++ [']']).length)) = true := by
    rw [List.getLast?_concat, List.length_append]
    simp
  have hinside : (('[' :: host ++ [']']).drop 1).dropLast = host := by
    rw [List.cons_append, List.drop_succ_cons, List.drop_zero, List.dropLast_concat]
  rw [normalHost, if_neg (by simp), if_neg hnumeric, if_pos hbracket]
  simp only [hinside, h, if_true]

/-- A host that is found again is the same, or the letters of a name are made small. -/
theorem normalHost_hostText {host host' : List Char} (hh : IsHost host)
    (h : normalHost (hostText host) = .ok host') :
    host' = host ∨ ((∀ c ∈ host, isHostChar c = true) ∧ host' = host.map Char.toLower) := by
  rcases hh with hname | ⟨haddress, -⟩
  · rw [hostText, not_contains_colon hname] at h
    exact (normalHost_name hname h).imp_right fun hlower => ⟨hname, hlower⟩
  · rw [hostText, contains_colon_of_isAddress6 haddress, if_pos rfl,
      normalHost_bracketed haddress] at h
    exact Or.inl (Except.ok.inj h).symm

/-- A port is found again, unless the scheme implies it. -/
theorem normalPort_rawPort {u : Url} {c : Components} (hu : u.IsNormal)
    (hauthority : c.authority = u.authority) :
    normalPort c.scheme c.rawPort
      = .ok (if impliedPort (String.ofList c.scheme) = u.port then none else u.port) := by
  rw [rawPort_eq hu.host hauthority]
  cases hp : u.port with
  | none =>
    rw [ite_self]
    rfl
  | some n => exact normalPort_integerText c.scheme (hu.port n hp)

/-- The same authority under another scheme keeps the port, unless that scheme implies it. -/
theorem port_of_gives {u v : Url} {c : Components} (hu : u.IsNormal)
    (hauthority : c.authority = u.authority) (h : c.Gives v) :
    v.port = if impliedPort (String.ofList c.scheme) = u.port then none else u.port :=
  Except.ok.inj (h.port.symm.trans (normalPort_rawPort hu hauthority))

/-- Components with the scheme and the authority of a URL in normal form keep its
origin. -/
theorem sameOrigin_of_gives {u v : Url} {c : Components} (hu : u.IsNormal)
    (hscheme : c.scheme = u.scheme) (hauthority : c.authority = u.authority) (h : c.Gives v) :
    u.SameOrigin v := by
  have hhost := h.host
  rw [rawHost_eq hu.host hauthority] at hhost
  have hvscheme : v.scheme = u.scheme := by rw [h.scheme, hscheme, hu.scheme]
  refine ⟨hvscheme, ?_, ?_⟩
  · rcases normalHost_hostText hu.host hhost with hsame | ⟨-, hlower⟩
    · rw [hsame]
    · rw [hlower, map_toLower_toLower]
  · rw [effectivePort, effectivePort, hvscheme, port_of_gives hu hauthority h, hscheme]
    split
    · next himplied => rw [himplied, Option.none_or, Option.or_self]
    · rfl

end CodeAtlas.Url
