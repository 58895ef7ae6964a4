/-
CodeAtlas.Proofs.Source.Directory — how a directory fails.

A directory makes the same promise as a service: it fails only with a failure that names
the resource. What keeps it from doing so can be read off the texts it is given and the
file (`fetch_keepsPromise_directory_iff`): a null character in the directory or in the
resource, a resource without a name, and a file that nests too deep.

The file of a resource without a name is called by the extension alone. A dot in front of
a name starts no suffix, so no format is found for it. All other files have a format.

The operation is `fetch_slice` of `FileSliceSource`.
-/
import CodeAtlas.Source.Directory
import CodeAtlas.Proofs.Source.Promise
import CodeAtlas.Proofs.Storage.File

namespace CodeAtlas

open Storage (Codecs Disk LoadError Name Path namesOf unifyLines)

namespace Directory

/-! ## The file of a resource -/

section Files

variable (d : Directory)

/-- The file of a resource is called by the last part of its name, which is there unless
the resource is nothing but slashes. -/
theorem exists_last_name (resource : List Char) (hslash : '/' ∉ d.extension)
    (hne : d.extension ≠ []) :
    ∃ names name, (d.below resource).names = names ++ [name ++ '.' :: d.extension]
      ∧ (name = [] ↔ ∀ c ∈ resource, c = '/') ∧ (name = [] → names = []) := by
  have hnil : Text.trim (· = '/') resource = [] ↔ ∀ c ∈ resource, c = '/' := by
    rw [Text.trim_eq_nil_iff]
    simp only [decide_eq_true_eq]
  have hfree : ∀ {name : List Char}, '/' ∉ name → '/' ∉ name ++ '.' :: d.extension := by
    intro name hname hmem
    simp only [List.mem_append, List.mem_cons] at hmem
    rcases hmem with hmem | hdot | hmem
    · exact hname hmem
    · exact absurd hdot (by decide)
    · exact hslash hmem
  show ∃ names name, namesOf (Text.trim (· = '/') resource ++ '.' :: d.extension) = _ ∧ _
  by_cases hmark : '/' ∈ Text.trim (· = '/') resource
  · obtain ⟨before, after, htrim, hafter⟩ := Text.exists_last_mark hmark
    have hsome : after ≠ [] := by
      rintro rfl
      have hlast := Text.getLast?_trim (· = '/') resource '/' (by simp [htrim])
      exact absurd hlast (by decide)
    refine ⟨namesOf before, after, ?_, ?_, fun h => absurd h hsome⟩
    · rw [htrim, List.append_assoc, List.cons_append]
      exact Storage.namesOf_append before (hfree hafter) (Storage.isPiece_append after hne)
    · refine iff_of_false hsome fun hall => ?_
      rw [hnil.mpr hall] at hmark
      exact absurd hmark List.not_mem_nil
  · refine ⟨[], Text.trim (· = '/') resource, ?_, hnil, fun _ => rfl⟩
    exact Storage.namesOf_of_not_mem (hfree hmark) (Storage.isPiece_append _ hne)

/-- A null character can come from the resource alone. -/
theorem hasNull_below_iff (resource : List Char) (hnull : Storage.null ∉ d.extension) :
    (d.below resource).hasNull = true ↔ Storage.null ∈ resource := by
  have hdot : Storage.null ≠ '.' := by decide
  have htrim : Storage.null ∈ Text.trim (· = '/') resource ↔ Storage.null ∈ resource :=
    Text.mem_trim_iff (by decide)
  show (namesOf (d.fileName resource)).any (·.contains Storage.null) = true ↔ _
  rw [Storage.null_mem_namesOf_iff, fileName, List.mem_append, List.mem_cons, htrim]
  simp only [hdot, hnull, or_false]

/-- Without a null character the place of a file is worked out, and is refused or not. -/
theorem locateText_eq {here : List Name} {resource : String} (hroot : d.root.hasNull = false)
    (hbelow : (d.below resource.toList).hasNull = false) :
    d.locateText here resource
      = if (d.root.resolve here).isPrefixOf
            ((d.below resource.toList).resolve (d.root.resolve here)) then
          .ok ((d.below resource.toList).resolve (d.root.resolve here))
        else .error (.fetch
          ⟨.str resource, .null, .str "resource escapes the slice directory"⟩ none) := by
  rw [locateText, hroot, hbelow]
  rfl

end Files

/-- The file of the resource is there, and nests too deep to be read. -/
def IsTooDeep (d : Directory) (levels : Nat) (disk : Disk) (resource : String) : Prop :=
  ∃ place text container, d.locateText disk.here resource = .ok place
    ∧ disk.readText (Path.ofPlace place) = .ok text
    ∧ Json.read levels (unifyLines text) = .error (.tooDeep container)

/-- The faults of a directory that are no failures to fetch: a null character, a file
without a format, and one that is too deep. -/
def Escapes (fault : Fault) : Prop :=
  fault = .nullByte ∨ fault = .load (.unsupported [] ["json"])
    ∨ ∃ container, fault = .load (.content (.text (.tooDeep container)))

/-- None of them is a failure to fetch. -/
theorem Escapes.not_isFailureOf {fault : Fault} (h : Escapes fault) (resource : String) :
    ¬ fault.IsFailureOf resource := by
  rcases h with rfl | rfl | ⟨container, rfl⟩ <;> exact id

section Fetching

variable {d : Directory} {disk : Disk} {root resource : String}

/-- Values that are texts give the path and the extension. -/
theorem of_ofValues {extension : String} (hd : ofValues (.str root) (.str extension) = .ok d) :
    d.root = Path.parse root.toList ∧ d.extension = extension.toList.dropWhile (· = '.') := by
  cases hd
  exact ⟨rfl, rfl⟩

/-- A null character is found first. -/
theorem locateText_of_null (hd : ofValues (.str root) defaultExtension = .ok d)
    (h : Storage.null ∈ root.toList ∨ Storage.null ∈ resource.toList) (here : List Name) :
    d.locateText here resource = .error .nullByte := by
  obtain ⟨hroot, hextension⟩ := of_ofValues hd
  have hnull : (d.root.hasNull || (d.below resource.toList).hasNull) = true := by
    rw [Bool.or_eq_true, hroot, Storage.hasNull_parse_iff,
      d.hasNull_below_iff _ (by rw [hextension]; decide)]
    exact h
  rw [locateText]
  exact if_pos hnull

/-- Otherwise the place ends in the name of the file, or the resource is refused. -/
theorem locateText_of_not_null (hd : ofValues (.str root) defaultExtension = .ok d)
    (h : ¬ (Storage.null ∈ root.toList ∨ Storage.null ∈ resource.toList)) (here : List Name) :
    ∃ above name, (name = [] ↔ ∀ c ∈ resource.toList, c = '/')
      ∧ (name = [] → above = d.root.resolve here)
      ∧ d.locateText here resource
        = if (d.root.resolve here).isPrefixOf (above ++ [name ++ ".json".toList]) then
            .ok (above ++ [name ++ ".json".toList])
          else .error (.fetch
            ⟨.str resource, .null, .str "resource escapes the slice directory"⟩ none) := by
  rw [not_or] at h
  obtain ⟨hroot, hextension⟩ := of_ofValues hd
  obtain ⟨names, name, hnames, hslashes, hnone⟩ := d.exists_last_name resource.toList
    (by rw [hextension]; decide) (by rw [hextension]; decide)
  rw [hextension] at hnames
  have hrootNull : d.root.hasNull = false := by
    rw [Bool.eq_false_iff, hroot, Ne, Storage.hasNull_parse_iff]
    exact h.1
  have hbelowNull : (d.below resource.toList).hasNull = false := by
    rw [Bool.eq_false_iff, Ne, d.hasNull_below_iff _ (by rw [hextension]; decide)]
    exact h.2
  have hplace : (d.below resource.toList).resolve (d.root.resolve here)
      = names.foldl Path.step (d.root.resolve here) ++ [name ++ ".json".toList] := by
    have hup : Text.isDotDot (name ++ ".json".toList) = false := by
      rw [Text.isDotDot, beq_eq_false_iff_ne]
      intro heq
      have hlength := congrArg List.length heq
      simp at hlength
    show Path.resolve _ ⟨.here, (d.below resource.toList).names⟩ = _
    rw [hnames]
    exact Storage.resolve_append hup _ _
  refine ⟨names.foldl Path.step (d.root.resolve here), name, hslashes, ?_, ?_⟩
  · intro hname
    rw [hnone hname, List.foldl_nil]
  · rw [d.locateText_eq hrootNull hbelowNull, hplace]

/-- A fault in a file is a failure to fetch its resource, unless the name has no format or
the content is too deep. -/
theorem isFailureOf_loadFailure {e : LoadError} (place : List Name)
    (hformat : ∀ suffix available, e ≠ .unsupported suffix available)
    (hdeep : ∀ container, e ≠ .content (.text (.tooDeep container))) :
    (loadFailure resource place e).IsFailureOf resource := by
  unfold loadFailure
  dsimp only
  split
  · split <;> exact rfl
  · exact absurd rfl (hdeep _)
  · exact absurd rfl (hformat _ _)
  · exact rfl

/-- What becomes of a file with a format: it is too deep, or all is well or a failure. -/
theorem fetchText_of_located {place : List Name}
    (hlocate : d.locateText disk.here resource = .ok place)
    (hsuffix : (Path.ofPlace place).suffix = ".json".toList) :
    (d.IsTooDeep levels disk resource ∧ ∃ container,
        (d.fetchText levels Codecs.standard disk resource).outcome
          = .error (.load (.content (.text (.tooDeep container)))))
      ∨ (¬ d.IsTooDeep levels disk resource
        ∧ (d.fetchText levels Codecs.standard disk resource).KeepsPromise resource) := by
  by_cases hdeep : d.IsTooDeep levels disk resource
  · refine Or.inl ⟨hdeep, ?_⟩
    obtain ⟨place', text, container, hplace, htext, hread⟩ := hdeep
    rw [hlocate] at hplace
    cases hplace
    refine ⟨container, ?_⟩
    rw [fetchText, hlocate]
    dsimp only
    rw [Storage.load_of_tooDeep hsuffix htext hread]
    rfl
  · refine Or.inr ⟨hdeep, ?_⟩
    intro fault hfault
    rw [fetchText, hlocate] at hfault
    dsimp only at hfault
    split at hfault
    · next e hload =>
      cases hfault
      obtain ⟨hformat, hcontent⟩ := Storage.load_error hsuffix hload
      refine isFailureOf_loadFailure place hformat fun container he => hdeep ?_
      obtain ⟨text, htext, hread⟩ := hcontent container he
      exact ⟨place, text, container, hlocate, htext, hread⟩
    · cases hfault

/-- A resource that leads out is refused before its file is looked at. -/
theorem fetchText_of_escape {failure : FetchFailure} {cause : Option Fault}
    (hlocate : d.locateText disk.here resource = .error (.fetch failure cause))
    (hfailure : failure.resource = .str resource) :
    ¬ d.IsTooDeep levels disk resource
      ∧ (d.fetchText levels Codecs.standard disk resource).KeepsPromise resource := by
  constructor
  · rintro ⟨place, text, container, hplace, -, -⟩
    rw [hlocate] at hplace
    cases hplace
  · intro fault hfault
    rw [fetchText, hlocate] at hfault
    cases hfault
    exact hfailure

/-- Neither text has a null character, the resource is more than slashes, and its file is
not too deep. -/
def IsServed (d : Directory) (levels : Nat) (disk : Disk) (root resource : String) : Prop :=
  Storage.null ∉ root.toList ∧ Storage.null ∉ resource.toList
    ∧ (∃ c ∈ resource.toList, c ≠ '/') ∧ ¬ d.IsTooDeep levels disk resource

/-- A resource is served or not, and a directory keeps its promise accordingly. -/
theorem fetchText_cases (hd : ofValues (.str root) defaultExtension = .ok d) (levels : Nat)
    (disk : Disk) (resource : String) :
    (d.IsServed levels disk root resource
        ∧ (d.fetchText levels Codecs.standard disk resource).KeepsPromise resource)
      ∨ (¬ d.IsServed levels disk root resource
        ∧ ∃ fault, (d.fetchText levels Codecs.standard disk resource).outcome = .error fault
          ∧ Escapes fault) := by
  by_cases hnull : Storage.null ∈ root.toList ∨ Storage.null ∈ resource.toList
  · refine Or.inr ⟨fun h => hnull.elim h.1 h.2.1, .nullByte, ?_, Or.inl rfl⟩
    rw [fetchText, locateText_of_null hd hnull]
  · obtain ⟨above, name, hslashes, habove, hlocate⟩ := locateText_of_not_null hd hnull disk.here
    have hsuffix : (Path.ofPlace (above ++ [name ++ ".json".toList])).suffix
        = if name = [] then [] else ".json".toList := by
      rw [Path.suffix, Path.lastName, Path.ofPlace, List.getLast?_concat, Option.getD_some]
      exact Storage.suffixOf_append (by decide) (by decide)
    by_cases hname : name = []
    · refine Or.inr ⟨fun h => ?_, .load (.unsupported [] ["json"]), ?_, Or.inr (Or.inl rfl)⟩
      · obtain ⟨c, hc, hne⟩ := h.2.2.1
        exact hne (hslashes.mp hname c hc)
      · rw [if_pos hname] at hsuffix
        rw [habove hname] at hlocate hsuffix
        rw [if_pos (List.isPrefixOf_iff_prefix.mpr (List.prefix_append _ _))] at hlocate
        rw [fetchText, hlocate]
        dsimp only
        rw [Storage.load_of_suffix_nil hsuffix]
        rfl
    · rw [if_neg hname] at hsuffix
      have hsome : ∃ c ∈ resource.toList, c ≠ '/' := by
        rw [hslashes] at hname
        simpa only [Classical.not_forall, exists_prop] using hname
      have hfile : (d.IsTooDeep levels disk resource ∧ ∃ container,
            (d.fetchText levels Codecs.standard disk resource).outcome
              = .error (.load (.content (.text (.tooDeep container)))))
          ∨ (¬ d.IsTooDeep levels disk resource
            ∧ (d.fetchText levels Codecs.standard disk resource).KeepsPromise resource) := by
        split at hlocate
        · exact fetchText_of_located hlocate hsuffix
        · exact Or.inr (fetchText_of_escape hlocate rfl)
      rcases hfile with ⟨hdeep, container, houtcome⟩ | ⟨hdeep, hkeeps⟩
      · exact Or.inr ⟨fun h => h.2.2.2 hdeep, _, houtcome, Or.inr (Or.inr ⟨container, rfl⟩)⟩
      · rw [not_or] at hnull
        exact Or.inl ⟨⟨hnull.1, hnull.2, hsome, hdeep⟩, hkeeps⟩

end Fetching

/-- A directory of slice files keeps its promise exactly if neither it nor the resource has
a null character, the resource is more than slashes, and its file is not too deep. Other
faults than failures are of these three kinds. -/
theorem fetch_keepsPromise_directory_iff (d : Directory) (levels : Nat) (disk : Disk)
    (root resource : String)
    (hd : ofValues (.str root) defaultExtension = .ok d) :
    ((d.fetchText levels Codecs.standard disk resource).KeepsPromise resource ↔
        Storage.null ∉ root.toList ∧ Storage.null ∉ resource.toList
          ∧ (∃ c ∈ resource.toList, c ≠ '/') ∧ ¬ d.IsTooDeep levels disk resource)
      ∧ ∀ fault, (d.fetchText levels Codecs.standard disk resource).outcome = .error fault →
          fault.IsFailureOf resource ∨ fault = .nullByte
            ∨ fault = .load (.unsupported [] ["json"])
            ∨ ∃ container, fault = .load (.content (.text (.tooDeep container))) := by
  have hcases := fetchText_cases hd levels disk resource
  exact Fetched.keepsPromise_iff_of_cases
    (fun _ hescape => Escapes.not_isFailureOf hescape resource) hcases

/-- A file that is a directory. -/
theorem fetch_keepsPromise_directory_in_place :
    ∃ d, ofValues (.str "slices") defaultExtension = .ok d
      ∧ Fetched.KeepsPromise "a" (d.fetchText 1000 Codecs.standard
          ⟨[(["slices".toList], .directory), (["slices".toList, "a.json".toList], .directory)], []⟩
          "a") := by
  refine ⟨_, rfl, (fetch_keepsPromise_directory_iff _ _ _ "slices" "a" rfl).1.mpr ?_⟩
  refine ⟨by decide, by decide, ⟨'a', by decide, by decide⟩, ?_⟩
  rintro ⟨place, text, container, hplace, htext, -⟩
  cases hplace
  cases htext

/-- A resource without a name: what comes is not a failure to fetch it. -/
theorem nameless_breaks_promise :
    ∃ d, ofValues (.str ".") defaultExtension = .ok d
      ∧ ¬ Fetched.KeepsPromise "" (d.fetchText 1000 Codecs.standard (Disk.empty []) "") := by
  refine ⟨_, rfl, fun hkeeps => ?_⟩
  exact hkeeps (.load (.unsupported [] Codecs.standard.extensions)) rfl

end Directory

end CodeAtlas
