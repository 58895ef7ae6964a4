/-
CodeAtlas.Proofs.Storage.Place — the place that a path names.

A place is a path in normal form: names below the top, none of them empty or a dot segment
(`IsPlace`). Three rules shorten the pieces of a path until a place is left (`Shortens`): a
piece that names nothing is dropped, a double dot takes the name before it away, and a double
dot at the top is dropped. Whatever the order in which the rules are used, they lead to one
place, which is the one that a path is resolved to (`normalForm_iff`).

Opening a path looks only at the places on the way to it. So a file is the same on two disks
that agree at a directory and below it, as long as the directory is there (`read_congr`).
-/
import Mathlib.Logic.Relation
import CodeAtlas.Proofs.Storage.File

namespace CodeAtlas.Storage

open Text (splitOn joinWith isDot isDotDot)

/-! ## Normal forms -/

/-- A name that an entry of a directory can have. -/
structure IsEntryName (name : Name) : Prop where
  nonempty : name ≠ []
  free : '/' ∉ name
  not_dot : isDot name = false
  not_dotDot : isDotDot name = false

/-- A path in normal form. -/
def IsPlace (place : List Name) : Prop := ∀ name ∈ place, IsEntryName name

/-- One step towards the normal form of a path. -/
inductive Shortens : List Name → List Name → Prop
  /-- A piece that names nothing is dropped. -/
  | skip {before after : List Name} {piece : Name} (h : piece = [] ∨ isDot piece = true) :
      Shortens (before ++ piece :: after) (before ++ after)
  /-- A double dot takes the name before it away. -/
  | back {before after : List Name} {name up : Name} (hname : IsEntryName name)
      (hup : isDotDot up = true) : Shortens (before ++ name :: up :: after) (before ++ after)
  /-- There is nothing above the top. -/
  | top {after : List Name} {up : Name} (hup : isDotDot up = true) :
      Shortens (up :: after) after

/-- The place is the normal form of the path with this text. -/
structure NormalForm (text : List Char) (place : List Name) : Prop where
  isPlace : IsPlace place
  reached : Relation.ReflTransGen Shortens (splitOn '/' text) place

def isStep (piece : Name) : Bool := !piece.isEmpty && !isDot piece

/-- Where the pieces of a path lead from a place. -/
def follow (place pieces : List Name) : List Name := (pieces.filter isStep).foldl Path.step place

/-- Pieces are followed one after the other. -/
theorem follow_append (place pieces more : List Name) :
    follow place (pieces ++ more) = follow (follow place pieces) more := by
  rw [follow, List.filter_append, List.foldl_append]
  rfl

/-- Empty pieces and single dots lead nowhere. -/
theorem follow_skip {piece : Name} (h : piece = [] ∨ isDot piece = true) (place : List Name)
    (pieces : List Name) : follow place (piece :: pieces) = follow place pieces := by
  have hno : isStep piece = false := by
    rcases h with rfl | hdot
    · rfl
    · simp [isStep, hdot]
  rw [follow, List.filter_cons_of_neg (by simp [hno])]
  rfl

/-- A name leads one down. -/
theorem follow_name {name : Name} (h : IsEntryName name) (place pieces : List Name) :
    follow place (name :: pieces) = follow (place ++ [name]) pieces := by
  have hstep : isStep name = true := by simp [isStep, h.nonempty, h.not_dot]
  rw [follow, List.filter_cons_of_pos hstep, List.foldl_cons, Path.step, h.not_dotDot]
  rfl

/-- A double dot leads one up. -/
theorem follow_up {up : Name} (h : isDotDot up = true) (place pieces : List Name) :
    follow place (up :: pieces) = follow place.dropLast pieces := by
  have hstep : isStep up = true := by
    rw [isDotDot, beq_iff_eq] at h
    rw [h]
    rfl
  rw [follow, List.filter_cons_of_pos hstep, List.foldl_cons, Path.step, h]
  rfl

/-- Without a double dot a path leads down. -/
theorem foldl_step_of_not_dotDot {names : List Name} (h : ∀ name ∈ names, isDotDot name = false)
    (place : List Name) : names.foldl Path.step place = place ++ names := by
  induction names generalizing place with
  | nil => exact (List.append_nil place).symm
  | cons name names ih =>
    rw [List.foldl_cons, Path.step, h name List.mem_cons_self,
      ih fun n hn => h n (List.mem_cons_of_mem _ hn)]
    exact List.append_assoc place [name] names

theorem IsPlace.filter_isStep {place : List Name} (h : IsPlace place) :
    place.filter isStep = place := by
  rw [List.filter_eq_self]
  intro name hname
  simp [isStep, (h name hname).nonempty, (h name hname).not_dot]

/-- Following a normal form goes down all the way. -/
theorem follow_of_isPlace {names : List Name} (h : IsPlace names) (place : List Name) :
    follow place names = place ++ names := by
  rw [follow, h.filter_isStep]
  exact foldl_step_of_not_dotDot (fun name hname => (h name hname).not_dotDot) place

/-- The rules do not change where a path leads. -/
theorem Shortens.follow_eq {pieces pieces' : List Name} (h : Shortens pieces pieces') :
    follow [] pieces = follow [] pieces' := by
  cases h with
  | skip hskip => rw [follow_append, follow_append, follow_skip hskip]
  | back hname hup =>
    rw [follow_append, follow_append, follow_name hname, follow_up hup, List.dropLast_concat]
  | top hup => rw [follow_up hup, List.dropLast_nil]

theorem IsPlace.nil : IsPlace [] := List.forall_mem_nil _

theorem IsPlace.dropLast {place : List Name} (h : IsPlace place) : IsPlace place.dropLast :=
  fun name hname => h name (List.dropLast_subset _ hname)

/-- A place with a name behind it is a place. -/
theorem IsPlace.concat {place : List Name} {name : Name} (h : IsPlace place)
    (hname : IsEntryName name) : IsPlace (place ++ [name]) := by
  intro n hn
  rcases List.mem_append.mp hn with hn | hn
  · exact h n hn
  · rw [List.mem_singleton.mp hn]
    exact hname

/-- A piece of a path is skipped, leads up or is a name. -/
theorem piece_cases {piece : Name} (h : '/' ∉ piece) :
    (piece = [] ∨ isDot piece = true) ∨ isDotDot piece = true ∨ IsEntryName piece := by
  by_cases hskip : piece = [] ∨ isDot piece = true
  · exact Or.inl hskip
  · rw [not_or, Bool.not_eq_true] at hskip
    cases hup : isDotDot piece with
    | true => exact Or.inr (Or.inl rfl)
    | false => exact Or.inr (Or.inr ⟨hskip.1, h, hskip.2, hup⟩)

/-- Wherever pieces lead from a place is a place, and the rules lead there. -/
theorem shortens_follow {pieces : List Name} (hfree : ∀ piece ∈ pieces, '/' ∉ piece)
    {place : List Name} (h : IsPlace place) :
    IsPlace (follow place pieces)
      ∧ Relation.ReflTransGen Shortens (place ++ pieces) (follow place pieces) := by
  induction pieces generalizing place with
  | nil =>
    rw [List.append_nil]
    exact ⟨h, .refl⟩
  | cons piece pieces ih =>
    have hrest : ∀ p ∈ pieces, '/' ∉ p := fun p hp => hfree p (List.mem_cons_of_mem _ hp)
    rcases piece_cases (hfree piece List.mem_cons_self) with hskip | hup | hname
    · rw [follow_skip hskip]
      exact ⟨(ih hrest h).1, .head (.skip hskip) (ih hrest h).2⟩
    · obtain ⟨hplace, hreach⟩ := ih hrest h.dropLast
      rw [follow_up hup]
      refine ⟨hplace, .head ?_ hreach⟩
      rcases List.eq_nil_or_concat place with rfl | ⟨above, name, rfl⟩
      · exact .top hup
      · rw [List.concat_eq_append, List.dropLast_concat, List.append_assoc,
          List.singleton_append]
        exact .back (h name (by simp)) hup
    · have hstep := ih hrest (h.concat hname)
      rw [follow_name hname]
      rwa [List.append_assoc, List.singleton_append] at hstep

/-- Shortening does not change where a path leads, by induction on the steps. -/
theorem follow_eq_of_reached {pieces pieces' : List Name}
    (h : Relation.ReflTransGen Shortens pieces pieces') : follow [] pieces = follow [] pieces' := by
  induction h with
  | refl => rfl
  | tail _ hstep ih => rw [ih, hstep.follow_eq]

/-- A path has one normal form, and resolving it by its names gives it. -/
theorem normalForm_iff {text : List Char} {place : List Name} :
    NormalForm text place ↔ place = (namesOf text).foldl Path.step [] := by
  have hfollow : (namesOf text).foldl Path.step [] = follow [] (splitOn '/' text) := rfl
  rw [hfollow]
  constructor
  · rintro ⟨hplace, hreached⟩
    rw [follow_eq_of_reached hreached, follow_of_isPlace hplace, List.nil_append]
  · rintro rfl
    have hfree : ∀ piece ∈ splitOn '/' text, '/' ∉ piece :=
      fun piece hpiece => Text.not_mem_of_mem_splitOn hpiece
    obtain ⟨hplace, hreached⟩ := shortens_follow hfree IsPlace.nil
    exact ⟨hplace, hreached⟩

/-! ## Paths below a place -/

/-- Resolving from a place leads to a place. -/
theorem isPlace_resolve {here : List Name} (h : IsPlace here) (cs : List Char) (root : Root) :
    IsPlace (Path.resolve here ⟨root, namesOf cs⟩) := by
  have hfree : ∀ piece ∈ splitOn '/' cs, '/' ∉ piece :=
    fun piece hpiece => Text.not_mem_of_mem_splitOn hpiece
  show IsPlace (follow (if root == .here then here else []) (splitOn '/' cs))
  split
  · exact (shortens_follow hfree h).1
  · exact (shortens_follow hfree IsPlace.nil).1

/-- The text of a place is cut into its names. -/
theorem namesOf_placeText {place : List Name} (h : IsPlace place) :
    namesOf (placeText place) = place := by
  have hsplit : splitOn '/' (placeText place) = [] :: splitOn '/' (joinWith '/' place) :=
    if_pos rfl
  show (splitOn '/' (placeText place)).filter isStep = place
  rw [hsplit, List.filter_cons_of_neg (by decide)]
  cases hplace : place with
  | nil => rfl
  | cons name names =>
    rw [← hplace, Text.splitOn_joinWith (by simp [hplace]) fun n hn => (h n hn).free,
      h.filter_isStep]

/-- The text of a path below a place leads where its names lead from the place. -/
theorem foldl_step_placeText {place : List Name} (h : IsPlace place) (cs : List Char) :
    (namesOf (placeText place ++ '/' :: cs)).foldl Path.step []
      = (namesOf cs).foldl Path.step place := by
  have hplace := foldl_step_of_not_dotDot (fun name hname => (h name hname).not_dotDot) []
  rw [namesOf_append_slash, namesOf_placeText h, List.foldl_append, hplace, List.nil_append]

/-! ## Disks that agree below a directory -/

/-- There is a directory at the place, and at every place above it. -/
def Disk.IsDirectory (d : Disk) (place : List Name) : Prop :=
  ∀ above, above <+: place → d.entry? above = some .directory

def Disk.AgreeBelow (root : List Name) (d d' : Disk) : Prop :=
  ∀ place, root <+: place → d.entry? place = d'.entry? place

section Agreement

variable {root : List Name} {d d' : Disk}

/-- A place on the way to a place below the directory is above the directory or below it. -/
theorem lookup_congr (hd : d.IsDirectory root) (hd' : d'.IsDirectory root)
    (hagree : d.AgreeBelow root d') {place on : List Name} (hroot : root <+: place)
    (hon : on <+: place) : d.entry? on = d'.entry? on := by
  rcases List.prefix_or_prefix_of_prefix hon hroot with habove | hbelow
  · rw [hd on habove, hd' on habove]
  · exact hagree on hbelow

/-- On the way to a place below the root, disks that agree there lead alike. -/
theorem descend_congr (hd : d.IsDirectory root) (hd' : d'.IsDirectory root)
    (hagree : d.AgreeBelow root d') {names : List Name} (hnames : IsPlace names)
    (start : List Name) (hroot : root <+: start ++ names) :
    d.descend start names = d'.descend start names := by
  induction names generalizing start with
  | nil => rfl
  | cons name names ih =>
    have hname := hnames name List.mem_cons_self
    have hnext : d.descend (start ++ [name]) names = d'.descend (start ++ [name]) names :=
      ih (fun n hn => hnames n (List.mem_cons_of_mem _ hn)) _ (by simpa using hroot)
    rw [Disk.descend, Disk.descend,
      lookup_congr hd hd' hagree hroot (List.prefix_append start _), hname.not_dotDot, hnext]
    rfl

/-- Names that are no dots are followed as they are. -/
theorem descend_eq_ok {names : List Name} (hnames : IsPlace names) {start place : List Name}
    (h : d.descend start names = .ok place) : place = start ++ names := by
  induction names generalizing start with
  | nil => rw [← Except.ok.inj h, List.append_nil]
  | cons name names ih =>
    have hname := hnames name List.mem_cons_self
    rw [Disk.descend, hname.not_dotDot] at h
    split at h
    · cases h
    · cases h
    · cases h
    · split at h
      · next hup => cases hup
      · split at h
        · cases h
        · rw [ih (fun n hn => hnames n (List.mem_cons_of_mem _ hn)) h, List.append_assoc,
            List.singleton_append]

theorem locate_ofPlace (d : Disk) (place : List Name) :
    d.locate (Path.ofPlace place)
      = if (Path.ofPlace place).hasNull then .error .nullByte
        else if Disk.pathLimit ≤ (Text.encodeUtf8 (placeText place)).length then
          .error .nameTooLong
        else d.descend [] place := rfl

/-- A place below the directory is read alike on disks that agree there. -/
theorem read_congr (hd : d.IsDirectory root) (hd' : d'.IsDirectory root)
    (hagree : d.AgreeBelow root d') {place : List Name} (hplace : IsPlace place)
    (hroot : root <+: place) : d.read (Path.ofPlace place) = d'.read (Path.ofPlace place) := by
  have hlocate : d.locate (Path.ofPlace place) = d'.locate (Path.ofPlace place) := by
    rw [locate_ofPlace, locate_ofPlace, descend_congr hd hd' hagree hplace [] hroot]
  unfold Disk.read
  rw [← hlocate]
  cases hfound : d.locate (Path.ofPlace place) with
  | error fault => rfl
  | ok found =>
    have hsame : found = place := by
      rw [locate_ofPlace] at hfound
      split at hfound
      · cases hfound
      · split at hfound
        · cases hfound
        · exact descend_eq_ok hplace hfound
    dsimp only
    rw [hsame, hagree place hroot]

/-- A slice file below the directory is loaded alike on disks that agree there. -/
theorem load_congr (hd : d.IsDirectory root) (hd' : d'.IsDirectory root)
    (hagree : d.AgreeBelow root d') {place : List Name} (hplace : IsPlace place)
    (hroot : root <+: place) (depth : Nat) (codecs : Codecs) :
    load depth codecs d (Path.ofPlace place) = load depth codecs d' (Path.ofPlace place) := by
  unfold load Disk.readText
  rw [read_congr hd hd' hagree hplace hroot]

end Agreement

end CodeAtlas.Storage
