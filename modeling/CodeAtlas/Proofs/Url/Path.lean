/-
CodeAtlas.Proofs.Url.Path — where the pieces of a path lead.

Resolving the dot segments of a path is a walk over its pieces, from the empty path on.
The same walk from the segments of a base says where a resource below the base ends up.
`heading` describes such a walk without a base: so many places up, and then down along
some names. From the base, the walk drops as many segments as the heading goes up, the
root never being left, and appends the names (`foldl_walk_root`).

So the walk ends below the base exactly if the base is the root, or if the names begin
with the segments that were dropped and go on from there (`below_iff`).
-/
import CodeAtlas.Url.Basic
import CodeAtlas.Proofs.Text.Percent

namespace CodeAtlas.Url

open Text (splitOn joinWith isDot isDotDot percentEncode)

/-! ## Walks -/

def isName (piece : List Char) : Bool := !(isDot piece || isDotDot piece)

/-- A name is entered. -/
theorem walk_of_isName (segments : List (List Char)) {piece : List Char}
    (h : isName piece = true) : walk segments piece = segments ++ [piece] := by
  simp only [isName, Bool.not_eq_true', Bool.or_eq_false_iff] at h
  rw [walk, if_neg (by simp [h.1]), if_neg (by simp [h.2])]

/-- Names are appended, one after the other. -/
theorem foldl_walk_of_isName : ∀ {pieces : List (List Char)} (segments : List (List Char)),
    (∀ piece ∈ pieces, isName piece = true) → pieces.foldl walk segments = segments ++ pieces
  | [], segments, _ => (List.append_nil segments).symm
  | piece :: pieces, segments, h => by
    rw [List.foldl_cons, walk_of_isName segments (h piece List.mem_cons_self),
      foldl_walk_of_isName _ fun p hp => h p (List.mem_cons_of_mem _ hp), List.append_assoc]
    rfl

/-- Climbing enters nothing. -/
theorem mem_of_mem_climb {segments : List (List Char)} {piece : List Char}
    (h : piece ∈ climb segments) : piece ∈ segments := by
  rw [climb] at h
  split at h
  · exact h
  · exact List.dropLast_subset _ h

/-- A segment after one more piece was there, or is that piece. -/
theorem mem_walk {segments : List (List Char)} {p piece : List Char}
    (h : p ∈ walk segments piece) : p ∈ segments ∨ (p = piece ∧ isName piece = true) := by
  rw [walk] at h
  split at h
  · exact Or.inl h
  · next hdot =>
    split at h
    · exact Or.inl (mem_of_mem_climb h)
    · next hdotdot =>
      have hname : isName piece = true := by simp [isName, hdot, hdotdot]
      exact (List.mem_append.mp h).imp_right fun h => ⟨List.mem_singleton.mp h, hname⟩

/-- A walk passes names only. -/
theorem mem_foldl_walk : ∀ {pieces segments : List (List Char)} {p : List Char},
    p ∈ pieces.foldl walk segments → p ∈ segments ∨ (p ∈ pieces ∧ isName p = true)
  | [], _, _, h => Or.inl h
  | piece :: pieces, segments, p, h => by
    rw [List.foldl_cons] at h
    rcases mem_foldl_walk h with h | ⟨h, hname⟩
    · rcases mem_walk h with h | ⟨rfl, hname⟩
      · exact Or.inl h
      · exact Or.inr ⟨List.mem_cons_self, hname⟩
    · exact Or.inr ⟨List.mem_cons_of_mem _ h, hname⟩

/-- Resolving is walking, also where there is nothing to resolve. -/
theorem resolveDots_eq (path : List Char) :
    resolveDots path = joinWith '/' ((splitOn '/' path).foldl walk []) := by
  rw [resolveDots]
  split
  · rfl
  · next h =>
    have hnames : ∀ piece ∈ splitOn '/' path, isName piece = true := by
      intro piece hpiece
      rw [isName, Bool.not_eq_true']
      exact Bool.eq_false_iff.mpr fun hdots => h (List.any_eq_true.mpr ⟨piece, hpiece, hdots⟩)
    rw [foldl_walk_of_isName [] hnames, List.nil_append, Text.joinWith_splitOn]

/-- No dot segment is left. -/
theorem isName_of_mem_resolveDots {path piece : List Char}
    (h : piece ∈ splitOn '/' (resolveDots path)) : isName piece = true := by
  rw [resolveDots_eq] at h
  by_cases hnil : (splitOn '/' path).foldl walk [] = []
  · rw [hnil] at h
    rw [List.mem_singleton.mp h]
    rfl
  · have hfree : ∀ p ∈ (splitOn '/' path).foldl walk [], '/' ∉ p := by
      intro p hp
      rcases mem_foldl_walk hp with hp | ⟨hp, -⟩
      · exact absurd hp List.not_mem_nil
      · exact Text.not_mem_of_mem_splitOn hp
    rw [Text.splitOn_joinWith hnil hfree] at h
    rcases mem_foldl_walk h with h | ⟨-, hname⟩
    · exact absurd h List.not_mem_nil
    · exact hname

/-- Resolving brings no new characters into a path. -/
theorem mem_of_mem_resolveDots {path : List Char} {c : Char} (h : c ∈ resolveDots path) :
    c = '/' ∨ c ∈ path := by
  rw [resolveDots_eq] at h
  rcases Text.mem_joinWith h with h | ⟨piece, hpiece, hc⟩
  · exact Or.inl h
  · rcases mem_foldl_walk hpiece with hpiece | ⟨hpiece, -⟩
    · exact absurd hpiece List.not_mem_nil
    · exact Or.inr (Text.mem_of_mem_splitOn hpiece hc)

/-- Resolving brings in nothing to encode. -/
theorem percentEncode_resolveDots {path : List Char} (h : ∀ c ∈ path, isPathChar c = true) :
    percentEncode isPathChar (resolveDots path) = resolveDots path := by
  refine Text.percentEncode_of_keep fun c hc => ?_
  rcases mem_of_mem_resolveDots hc with rfl | hc
  · decide
  · exact h c hc

/-- Encoding makes no dot segment. -/
theorem isName_percentEncode (keep : Char → Bool) {piece : List Char}
    (h : isName piece = true) : isName (percentEncode keep piece) = true := by
  rw [isName, Bool.not_eq_true', Bool.eq_false_iff]
  intro hdots
  -- A dot segment has no percent sign, so it was there before.
  have hfree : '%' ∉ percentEncode keep piece := by
    simp only [isDot, isDotDot, Bool.or_eq_true, beq_iff_eq] at hdots
    rcases hdots with hdots | hdots <;> rw [hdots] <;> decide
  rw [Text.percentEncode_of_not_mem hfree] at hdots
  simp [isName, hdots] at h

/-! ## Headings -/

/-- Where a walk leads from anywhere: up, and then down along names. -/
structure Heading where
  ups : Nat
  names : List (List Char)

/-- One more piece on the way. -/
def Heading.step (h : Heading) (piece : List Char) : Heading :=
  if isDot piece then h
  else if isDotDot piece then
    if h.names.isEmpty then { h with ups := h.ups + 1 } else { h with names := h.names.dropLast }
  else { h with names := h.names ++ [piece] }

def heading (pieces : List (List Char)) : Heading := pieces.foldl Heading.step ⟨0, []⟩

/-- The segments that a heading leads to from some segments. -/
def Heading.applyTo (h : Heading) (segments : List (List Char)) : List (List Char) :=
  segments.take (segments.length - h.ups) ++ h.names

/-- Climbing stops at the root. -/
theorem climb_root (segments : List (List Char)) :
    climb ([] :: segments) = [] :: segments.dropLast := by
  cases segments with
  | nil => rfl
  | cons p ps => rfl

theorem dropLast_take_sub (segments : List (List Char)) (n : Nat) :
    (segments.take (segments.length - n)).dropLast = segments.take (segments.length - (n + 1)) := by
  rw [List.dropLast_eq_take, List.length_take, List.take_take]
  congr 1
  omega

/-- One piece leads from the end of a heading to the end of the next one. -/
theorem walk_applyTo (segments : List (List Char)) (h : Heading) (piece : List Char) :
    walk ([] :: h.applyTo segments) piece = [] :: (h.step piece).applyTo segments := by
  rw [walk, Heading.step]
  split
  · rfl
  · split
    · rw [climb_root]
      split
      · next hnames =>
        rw [List.isEmpty_iff] at hnames
        simp only [Heading.applyTo, hnames, List.append_nil, dropLast_take_sub]
      · next hnames =>
        have hne : h.names ≠ [] := fun hnil => hnames (List.isEmpty_iff.mpr hnil)
        simp only [Heading.applyTo, List.dropLast_append_of_ne_nil hne]
    · simp only [Heading.applyTo, List.cons_append, List.append_assoc]

/-- Walking along pieces is following their heading. -/
theorem foldl_walk_applyTo (segments : List (List Char)) :
    ∀ (pieces : List (List Char)) (h : Heading),
      pieces.foldl walk ([] :: h.applyTo segments)
        = [] :: (pieces.foldl Heading.step h).applyTo segments
  | [], _ => rfl
  | piece :: pieces, h => by
    rw [List.foldl_cons, walk_applyTo, foldl_walk_applyTo segments pieces]
    rfl

/-- A walk from the segments of a base ends where its heading leads to. -/
theorem foldl_walk_root (segments pieces : List (List Char)) :
    pieces.foldl walk ([] :: segments) = [] :: (heading pieces).applyTo segments := by
  have hstart : (⟨0, []⟩ : Heading).applyTo segments = segments := by
    simp [Heading.applyTo]
  rw [heading, ← foldl_walk_applyTo, hstart]

/-! ## Below a base -/

/-- The segments that a heading leaves behind on its way up. -/
def Heading.left (h : Heading) (segments : List (List Char)) : List (List Char) :=
  segments.drop (segments.length - h.ups)

/-- The pieces lead to a place below the segments: the base is the root, or what is
entered begins with the segments that were left, and goes on. -/
def StaysBelow (segments pieces : List (List Char)) : Prop :=
  segments = [] ∨ ((heading pieces).left segments <+: (heading pieces).names
    ∧ (heading pieces).left segments ≠ (heading pieces).names)

instance (segments pieces : List (List Char)) : Decidable (StaysBelow segments pieces) :=
  inferInstanceAs (Decidable (_ ∨ _ ∧ _))

/-- What is appended to the path of a base is walked from the segments of the base. -/
theorem resolveDots_append {segments : List (List Char)} (hs : ∀ p ∈ segments, '/' ∉ p)
    (hnames : ∀ p ∈ segments, isName p = true) (tail : List Char) :
    resolveDots (joinWith '/' ([] :: segments) ++ '/' :: tail)
      = joinWith '/' ((splitOn '/' tail).foldl walk ([] :: segments)) := by
  have hfree : ∀ p ∈ [] :: segments, '/' ∉ p := List.forall_mem_cons.mpr ⟨List.not_mem_nil, hs⟩
  have hall : ∀ p ∈ [] :: segments, isName p = true := List.forall_mem_cons.mpr ⟨rfl, hnames⟩
  rw [resolveDots_eq, Text.splitOn_append_sep, Text.splitOn_joinWith (List.cons_ne_nil _ _) hfree,
    List.foldl_append, foldl_walk_of_isName [] hall, List.nil_append]

/-- Names lead straight down. -/
theorem heading_of_isName {pieces : List (List Char)}
    (h : ∀ piece ∈ pieces, isName piece = true) : heading pieces = ⟨0, pieces⟩ := by
  have hwalk : ∀ {ps : List (List Char)} (names : List (List Char)),
      (∀ piece ∈ ps, isName piece = true) → ps.foldl Heading.step ⟨0, names⟩ = ⟨0, names ++ ps⟩ := by
    intro ps
    induction ps with
    | nil => simp
    | cons p ps ih =>
      intro names hps
      have hp := hps p List.mem_cons_self
      simp only [isName, Bool.not_eq_true', Bool.or_eq_false_iff] at hp
      have hstep : Heading.step ⟨0, names⟩ p = ⟨0, names ++ [p]⟩ := by
        simp [Heading.step, hp.1, hp.2]
      rw [List.foldl_cons, hstep, ih _ fun q hq => hps q (List.mem_cons_of_mem _ hq),
        List.append_assoc]
      rfl
  exact hwalk [] h

/-- Names lead below every base. -/
theorem staysBelow_of_isName (segments : List (List Char)) {pieces : List (List Char)}
    (hne : pieces ≠ []) (h : ∀ piece ∈ pieces, isName piece = true) :
    StaysBelow segments pieces := by
  have hleft : (heading pieces).left segments = [] := by
    rw [heading_of_isName h, Heading.left, Nat.sub_zero, List.drop_length]
  refine Or.inr ⟨?_, ?_⟩
  · rw [hleft]
    exact List.nil_prefix
  · rw [hleft, heading_of_isName h]
    exact Ne.symm hne

/-- A path as it is asked of a host: an empty one is the root. -/
def rooted (path : List Char) : List Char := if path.isEmpty then ['/'] else path

theorem rooted_joinWith (segments : List (List Char)) :
    rooted (joinWith '/' ([] :: segments)) = '/' :: joinWith '/' segments := by
  cases segments with
  | nil => rfl
  | cons p ps => rfl

/-- A heading ends below the segments if it enters again what it left. -/
theorem applyTo_eq_append_iff (h : Heading) (segments rest : List (List Char)) :
    h.applyTo segments = segments ++ rest ↔ h.names = h.left segments ++ rest := by
  have hsplit : segments ++ rest
      = segments.take (segments.length - h.ups) ++ (h.left segments ++ rest) := by
    rw [Heading.left, ← List.append_assoc, List.take_append_drop]
  rw [Heading.applyTo, hsplit, List.append_cancel_left_eq]

theorem prefix_and_ne_iff {α : Type} {xs ys : List α} :
    xs <+: ys ∧ xs ≠ ys ↔ ∃ rest, rest ≠ [] ∧ ys = xs ++ rest := by
  constructor
  · rintro ⟨⟨rest, rfl⟩, hne⟩
    refine ⟨rest, ?_, rfl⟩
    rintro rfl
    exact hne (List.append_nil xs).symm
  · rintro ⟨rest, hrest, rfl⟩
    exact ⟨List.prefix_append xs rest, fun h => hrest (List.self_eq_append_right.mp h)⟩

/-- The path at the end of a walk continues the base behind a slash exactly if the pieces
lead below it. -/
theorem below_iff {segments pieces : List (List Char)} (hs : ∀ p ∈ segments, '/' ∉ p)
    (hp : ∀ p ∈ pieces, '/' ∉ p) :
    joinWith '/' ([] :: segments) ++ ['/']
        <+: rooted (joinWith '/' (pieces.foldl walk ([] :: segments)))
      ↔ StaysBelow segments pieces := by
  rw [StaysBelow, prefix_and_ne_iff]
  have hfree : ∀ p ∈ pieces.foldl walk ([] :: segments), '/' ∉ p := by
    intro p hmem
    rcases mem_foldl_walk hmem with hmem | ⟨hmem, -⟩
    · rcases List.mem_cons.mp hmem with rfl | hmem
      · exact List.not_mem_nil
      · exact hs p hmem
    · exact hp p hmem
  rw [foldl_walk_root] at hfree ⊢
  cases hend : (heading pieces).applyTo segments with
  | nil =>
    -- The walk ends at the root, and only the root is below itself.
    have hnames : (heading pieces).names = [] := (List.append_eq_nil_iff.mp hend).2
    constructor
    · intro hbegin
      cases segments with
      | nil => exact Or.inl rfl
      | cons p ps =>
        have hlen := hbegin.length_le
        rw [rooted_joinWith, Text.joinWith_cons (List.cons_ne_nil _ _)] at hlen
        simp [joinWith] at hlen
    · rintro (rfl | ⟨rest, hrest, h⟩)
      · exact List.prefix_refl _
      · rw [hnames] at h
        exact absurd (List.append_eq_nil_iff.mp h.symm).2 hrest
  | cons q qs =>
    have hroot : rooted (joinWith '/' ([] :: q :: qs)) = joinWith '/' ([] :: q :: qs) := rfl
    have hsfree : ∀ p ∈ [] :: segments, '/' ∉ p :=
      List.forall_mem_cons.mpr ⟨List.not_mem_nil, hs⟩
    rw [hend] at hfree
    rw [hroot, Text.joinWith_sep_prefix_iff (List.cons_ne_nil _ _) (List.cons_ne_nil _ _)
      hsfree hfree]
    constructor
    · rintro ⟨rest, hrest, h⟩
      rw [List.cons_append] at h
      rw [(List.cons.inj h).2] at hend
      exact Or.inr ⟨rest, hrest, (applyTo_eq_append_iff _ _ _).mp hend⟩
    · rintro (rfl | ⟨rest, hrest, h⟩)
      · exact ⟨q :: qs, List.cons_ne_nil _ _, rfl⟩
      · refine ⟨rest, hrest, ?_⟩
        rw [← hend, (applyTo_eq_append_iff _ _ _).mpr h]
        rfl

example : StaysBelow [['a'], ['b']] (splitOn '/' "../b/x".toList) := by decide

example : ¬ StaysBelow [['a'], ['b']] (splitOn '/' "x/../..".toList) := by decide

/-! ## Slashes at the end -/

/-- A path with a slash at its end. -/
def slashed (path : List Char) : List Char :=
  if path.getLast? = some '/' then path else path ++ ['/']

/-- The segments of a path, between its first slash and a slash at its end. -/
def segmentsOf (path : List Char) : List (List Char) :=
  ((splitOn '/' (slashed path)).drop 1).dropLast

theorem slashed_eq_concat (path : List Char) :
    ∃ front, slashed path = front ++ ['/'] ∧ (path = front ++ ['/'] ∨ path = front) := by
  rw [slashed]
  split
  · next hlast =>
    obtain ⟨front, rfl⟩ := List.getLast?_eq_some_iff.mp hlast
    exact ⟨front, rfl, Or.inl rfl⟩
  · exact ⟨path, rfl, Or.inr rfl⟩

/-- A path behind a slash is made of its segments. -/
theorem slashed_eq_joinWith {path : List Char} (h : path.head? = some '/') :
    slashed path = joinWith '/' ([] :: segmentsOf path) ++ ['/']
      ∧ ∀ p ∈ segmentsOf path, p ∈ splitOn '/' path := by
  obtain ⟨front, hslashed, hpath⟩ := slashed_eq_concat path
  have hsplit : splitOn '/' (slashed path) = splitOn '/' front ++ [[]] := by
    rw [hslashed, Text.splitOn_append_sep]
    rfl
  have hroot : ∃ segments, splitOn '/' front = [] :: segments := by
    cases front with
    | nil => exact ⟨[], rfl⟩
    | cons c cs =>
      have hc : c = '/' := by
        rcases hpath with rfl | rfl
        · exact Option.some.inj h
        · exact Option.some.inj h
      exact ⟨splitOn '/' cs, by rw [splitOn, if_pos hc]⟩
  obtain ⟨segments, hfront⟩ := hroot
  have hsegments : segmentsOf path = segments := by
    rw [segmentsOf, hsplit, hfront, List.cons_append, List.drop_succ_cons, List.drop_zero,
      List.dropLast_concat]
  rw [hsegments]
  constructor
  · rw [hslashed, ← hfront, Text.joinWith_splitOn]
  · intro p hp
    have hmem : p ∈ splitOn '/' front := hfront ▸ List.mem_cons_of_mem _ hp
    rcases hpath with rfl | rfl
    · rw [Text.splitOn_append_sep]
      exact List.mem_append_left _ hmem
    · exact hmem

end CodeAtlas.Url
