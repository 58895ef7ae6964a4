/-
CodeAtlas.Proofs.Source.Confinement — a directory never looks outside.

The place of a resource's file is the normal form of a path: that of the directory, followed
by the resource and the extension. A directory gives this place if it lies below the
directory, and refuses the resource otherwise. Only a double dot leads out, so a resource
without one is not refused (`prefix_below`). There is one exception. An extension of nothing
but dots makes a double dot of a single one.

What lies outside the directory has no influence on what is fetched (`fetchText_congr`).

The operations are `resolve` and `fetch_slice` of `FileSliceSource`.
-/
import CodeAtlas.Proofs.Source.Directory
import CodeAtlas.Proofs.Storage.Place
import CodeAtlas.Proofs.Table

namespace CodeAtlas

open Text (splitOn isDot isDotDot)
open Storage (Codecs Disk IsPlace Name NormalForm Path isStep namesOf null placeText)

namespace Directory

/-! ## Places -/

/-- A path, behind the working directory unless it begins with a slash. -/
def absoluteText (here : List Name) (text : List Char) : List Char :=
  if text.head? = some '/' then text else placeText here ++ '/' :: text

/-- Resolving a path gives its normal form, behind the working directory or not. -/
theorem normalForm_resolve_parse {here : List Name} (h : IsPlace here) (text : List Char) :
    NormalForm (absoluteText here text) ((Path.parse text).resolve here) := by
  rw [Storage.normalForm_iff]
  cases text with
  | nil => exact (Storage.foldl_step_placeText h []).symm
  | cons c cs =>
    unfold absoluteText Path.parse Path.resolve
    by_cases hc : c = '/'
    · have hroot : ∀ n, (Storage.Root.ofSlashes (n + 1) == .here) = false := by
        intro n
        unfold Storage.Root.ofSlashes
        split <;> first | rfl | contradiction
      subst hc
      rw [List.takeWhile_cons_of_pos (by decide), List.length_cons, hroot]
      rfl
    · have hhead : ¬ (c :: cs).head? = some '/' := by simpa using hc
      rw [List.takeWhile_cons_of_neg (by simpa using hc), if_neg hhead,
        Storage.foldl_step_placeText h]
      rfl

section Below

variable {d : Directory} {here : List Name} {root resource : List Char}

/-- The place of a resource is the normal form of the directory with the file behind it. -/
theorem normalForm_below (hroot : d.root = Path.parse root) (h : IsPlace here)
    (resource : List Char) :
    NormalForm (absoluteText here root ++ '/' :: d.fileName resource)
      ((d.below resource).resolve (d.root.resolve here)) := by
  have htop := Storage.normalForm_iff.mp (normalForm_resolve_parse h root)
  rw [Storage.normalForm_iff, Storage.namesOf_append_slash, List.foldl_append, ← htop, hroot]
  rfl

/-- A name with an extension behind it is a double dot only if the name is a single one and
the extension is empty. -/
theorem of_isDotDot_append {name extension : List Char}
    (hextension : ∀ c ∈ extension.head?, c ≠ '.')
    (h : isDotDot (name ++ '.' :: extension) = true) : name = ['.'] ∧ extension = [] := by
  rw [isDotDot, beq_iff_eq] at h
  cases name with
  | nil =>
    cases h
    exact absurd rfl (hextension '.' rfl)
  | cons c name =>
    rw [List.cons_append, List.cons.injEq] at h
    obtain ⟨rfl, htail⟩ := h
    have hlength := congrArg List.length htail
    rw [List.length_append, List.length_cons, List.length_singleton] at hlength
    exact ⟨by rw [List.length_eq_zero_iff.mp (by omega : name.length = 0)],
      List.length_eq_zero_iff.mp (by omega)⟩

/-- Without a double dot nothing leads out of the directory. Where the extension is empty, the
resource has another name than a single dot, or none at all. -/
theorem prefix_below (hextension : ∀ c ∈ d.extension.head?, c ≠ '.') (hslash : '/' ∉ d.extension)
    (hup : ∀ piece ∈ splitOn '/' resource, isDotDot piece = false)
    (h : d.extension ≠ [] ∨ (∃ piece ∈ splitOn '/' resource, isStep piece = true)
      ∨ ∀ c ∈ resource, c = '/') (top : List Name) :
    top <+: (d.below resource).resolve top := by
  have hdots : '/' ∉ '.' :: d.extension := by simp [hslash]
  obtain ⟨pieces, last, htrim, hfile⟩ :=
    Text.splitOn_append_last (Text.trim (· = '/') resource) hdots
  have hnames : pieces.filter isStep ++ [last].filter isStep
      = (splitOn '/' resource).filter isStep := by
    rw [← List.filter_append, ← htrim]
    exact Storage.namesOf_trim resource
  have hdown : (pieces.filter isStep).foldl Path.step top = top ++ pieces.filter isStep := by
    refine Storage.foldl_step_of_not_dotDot (fun name hname => ?_) top
    have hmem : name ∈ (splitOn '/' resource).filter isStep :=
      hnames ▸ List.mem_append_left _ hname
    exact hup name (List.mem_filter.mp hmem).1
  have hplace : (d.below resource).resolve top
      = ([last ++ '.' :: d.extension].filter isStep).foldl Path.step
          (top ++ pieces.filter isStep) := by
    have hbelow : (d.below resource).resolve top = ((splitOn '/' (Text.trim (· = '/') resource
      ++ '.' :: d.extension)).filter isStep).foldl Path.step top := rfl
    rw [hbelow, hfile, List.filter_append, List.foldl_append, hdown]
  rw [hplace]
  cases hlast : isDotDot (last ++ '.' :: d.extension) with
  | false =>
    rw [Storage.foldl_step_of_not_dotDot, List.append_assoc]
    · exact List.prefix_append _ _
    · intro name hname
      rw [List.mem_singleton.mp (List.mem_filter.mp hname).1]
      exact hlast
  | true =>
    -- The last step leads back, and a name of the resource is there to be taken away.
    obtain ⟨hdot, hempty⟩ := of_isDotDot_append hextension hlast
    have hsome : pieces.filter isStep ≠ [] := by
      rcases h with hne | ⟨piece, hpiece, hstep⟩ | hall
      · exact absurd hempty hne
      · intro hnil
        rw [hnil, hdot] at hnames
        have hmem : piece ∈ (splitOn '/' resource).filter isStep :=
          List.mem_filter.mpr ⟨hpiece, hstep⟩
        rw [← hnames] at hmem
        exact absurd hmem List.not_mem_nil
      · have hnil : Text.trim (· = '/') resource = [] :=
          Text.trim_eq_nil_iff.mpr fun c hc => decide_eq_true (hall c hc)
        have hpiece := congrArg List.getLast? htrim
        rw [hnil, hdot, List.getLast?_concat] at hpiece
        exact absurd hpiece (by decide)
    rw [hdot, hempty]
    show top <+: (top ++ pieces.filter isStep).dropLast
    rw [List.dropLast_append_of_ne_nil hsome]
    exact List.prefix_append _ _

/-- A place that is not refused lies below the directory. -/
theorem of_locateText {resource : String} {place : List Name}
    (h : d.locateText here resource = .ok place) :
    place = (d.below resource.toList).resolve (d.root.resolve here)
      ∧ d.root.resolve here <+: place := by
  unfold locateText at h
  dsimp only at h
  split at h
  · cases h
  · split at h
    · next hprefix =>
      cases h
      exact ⟨rfl, List.isPrefixOf_iff_prefix.mp hprefix⟩
    · cases h

/-- What is fetched depends only on what is at the directory and below it. -/
theorem fetchText_congr {levels : Nat} {top : List Name} (htop : IsPlace top) {disk disk' : Disk}
    (hroot : d.root.resolve disk.here = top) (hroot' : d.root.resolve disk'.here = top)
    (hd : disk.IsDirectory top) (hd' : disk'.IsDirectory top) (hagree : disk.AgreeBelow top disk')
    (codecs : Codecs) (resource : String) :
    d.fetchText levels codecs disk resource = d.fetchText levels codecs disk' resource := by
  have hlocate : d.locateText disk'.here resource = d.locateText disk.here resource := by
    unfold locateText
    rw [hroot, hroot']
  unfold fetchText
  rw [hlocate]
  cases hplace : d.locateText disk.here resource with
  | error fault => rfl
  | ok place =>
    obtain ⟨hresolve, hprefix⟩ := of_locateText hplace
    rw [hroot] at hresolve hprefix
    have hfile : IsPlace place := by
      rw [hresolve]
      exact Storage.isPlace_resolve htop _ .here
    dsimp only
    rw [Storage.load_congr hd hd' hagree hfile hprefix]

end Below

/-! ## Inside only -/

/-- **Inside only.** For texts without a null character, the place of a resource's file is the
normal form of the directory's path with the resource and the extension behind it, and it is
refused exactly if it does not lie below the directory. Without a double dot, and without a
slash in the extension, nothing is refused, unless the extension is nothing but dots and the
resource nothing but slashes and single dots. Disks that agree at the directory and below it
give the same. -/
theorem directory_looks_inside_only (d : Directory) (root extension : String) (here : List Name)
    (hd : ofValues (.str root) (.str extension) = .ok d) (hhere : IsPlace here)
    (hroot : null ∉ root.toList) (hextension : null ∉ extension.toList) :
    NormalForm (absoluteText here root.toList) (d.root.resolve here)
      ∧ (∀ resource : String, null ∉ resource.toList →
          ∃ place, NormalForm (absoluteText here root.toList ++ '/'
                :: (Text.trim (· = '/') resource.toList
                  ++ '.' :: extension.toList.dropWhile (· = '.'))) place
            ∧ d.locate here (.str resource)
              = if d.root.resolve here <+: place then .ok place
                else .error (.fetch
                  ⟨.str resource, .null, .str "resource escapes the slice directory"⟩ none))
      ∧ (∀ resource : String, null ∉ resource.toList → '/' ∉ extension.toList →
          (∀ piece ∈ splitOn '/' resource.toList, isDotDot piece = false) →
          ((∃ c ∈ extension.toList, c ≠ '.')
            ∨ (∃ piece ∈ splitOn '/' resource.toList, piece ≠ [] ∧ isDot piece = false)
            ∨ ∀ c ∈ resource.toList, c = '/') →
          ∃ place, d.locate here (.str resource) = .ok place)
      ∧ ∀ (levels : Nat) (codecs : Codecs) (disk disk' : Disk) (resource : String),
          d.root.resolve disk.here = d.root.resolve here →
          d.root.resolve disk'.here = d.root.resolve here →
          disk.IsDirectory (d.root.resolve here) → disk'.IsDirectory (d.root.resolve here) →
          disk.AgreeBelow (d.root.resolve here) disk' →
          d.fetchText levels codecs disk resource = d.fetchText levels codecs disk' resource := by
  obtain ⟨hparse, hdots⟩ := of_ofValues hd
  have hrootNull : d.root.hasNull = false := by
    rw [Bool.eq_false_iff, hparse, Ne, Storage.hasNull_parse_iff]
    exact hroot
  have hbelowNull : ∀ resource : String, null ∉ resource.toList →
      (d.below resource.toList).hasNull = false := by
    intro resource hresource
    rw [Bool.eq_false_iff, Ne, d.hasNull_below_iff]
    · exact hresource
    · rw [hdots]
      exact fun hmem => hextension (List.dropWhile_subset _ hmem)
  refine ⟨?_, ?_, ?_, ?_⟩
  · rw [hparse]
    exact normalForm_resolve_parse hhere root.toList
  · intro resource hresource
    refine ⟨(d.below resource.toList).resolve (d.root.resolve here), ?_, ?_⟩
    · rw [← hdots]
      exact normalForm_below hparse hhere resource.toList
    · refine (d.locateText_eq hrootNull (hbelowNull resource hresource)).trans ?_
      simp only [List.isPrefixOf_iff_prefix]
  · intro resource hresource hslash hup hsome
    refine ⟨_, (d.locateText_eq hrootNull (hbelowNull resource hresource)).trans (if_pos ?_)⟩
    rw [List.isPrefixOf_iff_prefix]
    refine prefix_below ?_ ?_ hup ?_ _
    · intro c hc
      have hnot := List.head?_dropWhile_not (· = '.') extension.toList
      rw [← hdots, Option.mem_def.mp hc] at hnot
      simpa using hnot
    · rw [hdots]
      exact fun hmem => hslash (List.dropWhile_subset _ hmem)
    · rcases hsome with ⟨c, hc, hdot⟩ | ⟨piece, hpiece, hne, hdot⟩ | hall
      · have hmem : c ∈ d.extension := by
          rw [hdots]
          exact (Text.mem_dropWhile_iff (decide_eq_false hdot)).mpr hc
        exact Or.inl (List.ne_nil_of_mem hmem)
      · exact Or.inr (Or.inl ⟨piece, hpiece, by simp [isStep, hne, hdot]⟩)
      · exact Or.inr (Or.inr hall)
  · intro levels codecs disk disk' resource hsame hsame' hdirectory hdirectory' hagree
    have htop : IsPlace (d.root.resolve here) := by
      rw [hparse]
      exact Storage.isPlace_resolve hhere root.toList _
    exact fetchText_congr htop hsame hsame' hdirectory hdirectory' hagree codecs resource

/-- A resource that leaves the directory and comes back, on disks that differ in a file next
to the directory. -/
theorem directory_looks_inside_only_return :
    ∃ d, ofValues (.str "/slices") (.str ".json") = .ok d
      ∧ (∃ place, d.locate [] (.str "./a") = .ok place)
      ∧ d.locate [] (.str "../slices/a") = .ok ["slices".toList, "a.json".toList]
      ∧ ∀ secret : List UInt8,
          d.fetchText 1000 Codecs.standard ⟨[(["slices".toList], .directory)], []⟩ "../slices/a"
            = d.fetchText 1000 Codecs.standard
                (Disk.put ⟨[(["slices".toList], .directory)], []⟩ ["a.json".toList] secret)
                "../slices/a" := by
  obtain ⟨-, -, hopen, hsame⟩ := directory_looks_inside_only _ "/slices" ".json" [] rfl
    IsPlace.nil (by decide) (by decide)
  have hdirectory : ∀ disk : Disk, disk.entry? ["slices".toList] = some .directory →
      disk.IsDirectory ["slices".toList] := by
    intro disk hslices above habove
    rcases List.prefix_cons_iff.mp habove with rfl | ⟨rest, rfl, hrest⟩
    · rfl
    · rw [List.prefix_nil.mp hrest, hslices]
  refine ⟨_, rfl, ?_, rfl, fun secret => ?_⟩
  · exact hopen "./a" (by decide) (by decide) (by decide) (Or.inl ⟨'j', by decide, by decide⟩)
  · refine hsame _ _ _ _ _ rfl rfl (hdirectory _ rfl) (hdirectory _ rfl) fun place hplace => ?_
    have hne : ["a.json".toList] ≠ place := by
      rintro rfl
      exact absurd hplace (by decide)
    rw [Disk.put, if_neg (by decide)]
    unfold Disk.entry?
    rw [Table.get?_insert, if_neg hne]

/-- With an extension of nothing but dots a single dot leads out, and an extension with a null
character gives neither a place nor a refusal. -/
theorem extension_leads_out_or_breaks :
    (∃ d, ofValues (.str "/slices") (.str "") = .ok d
        ∧ d.locate [] (.str ".") = .error (.fetch
            ⟨.str ".", .null, .str "resource escapes the slice directory"⟩ none))
      ∧ ∃ d, ofValues (.str "/slices") (.str "a\x00b") = .ok d
        ∧ d.locate [] (.str "x") = .error .nullByte :=
  ⟨⟨_, rfl, rfl⟩, ⟨_, rfl, rfl⟩⟩

end Directory

end CodeAtlas
