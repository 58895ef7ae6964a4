/-
CodeAtlas.Proofs.Storage.File — names, suffixes and loading.

A path that is written as a name with an extension behind it has that name last, also when
it is resolved (`resolve_append`), and its suffix is the extension, unless nothing stands
before the dot (`suffixOf_append`). With the suffix it is known how loading ends: a file
without one has no format, and a slice file fails by what is on the disk or in its text
(`load_error`).

Slashes at either end of a path name nothing (`namesOf_trim`).
-/
import CodeAtlas.Storage.Codec
import CodeAtlas.Proofs.Text.Classes

namespace CodeAtlas

open Text (splitOn)

/-! ## Names -/

namespace Storage

def null : Char := Char.ofNat 0

/-- Cutting a text into names loses no null character. -/
theorem null_mem_namesOf_iff {cs : List Char} :
    (namesOf cs).any (·.contains null) = true ↔ null ∈ cs := by
  simp only [List.any_eq_true, List.contains_iff_mem, namesOf, List.mem_filter]
  constructor
  · rintro ⟨piece, ⟨hpiece, -⟩, hnull⟩
    exact Text.mem_of_mem_splitOn hpiece hnull
  · intro hnull
    rcases Text.mem_splitOn '/' hnull with hslash | ⟨piece, hpiece, hmem⟩
    · exact absurd hslash (by decide)
    · refine ⟨piece, ⟨hpiece, ?_⟩, hmem⟩
      rw [Bool.and_eq_true, Bool.not_eq_true', Bool.not_eq_true', List.isEmpty_eq_false_iff]
      refine ⟨List.ne_nil_of_mem hmem, ?_⟩
      rw [Text.isDot, beq_eq_false_iff_ne]
      rintro rfl
      exact absurd hmem (by decide)

theorem hasNull_parse_iff {cs : List Char} : (Path.parse cs).hasNull = true ↔ null ∈ cs :=
  null_mem_namesOf_iff

/-- A name with an extension is a name. -/
theorem isPiece_append {extension : List Char} (name : List Char) (hne : extension ≠ []) :
    (!(name ++ '.' :: extension).isEmpty && !Text.isDot (name ++ '.' :: extension)) = true := by
  have hempty : (name ++ '.' :: extension).isEmpty = false := by simp
  have hdot : Text.isDot (name ++ '.' :: extension) = false := by
    rw [Text.isDot, beq_eq_false_iff_ne]
    intro heq
    have hlength := congrArg List.length heq
    have hpos : 0 < extension.length := List.length_pos_iff.mpr hne
    simp only [List.length_append, List.length_cons, List.length_nil] at hlength
    omega
  rw [hempty, hdot]
  rfl

theorem namesOf_of_not_mem {name : List Char} (hslash : '/' ∉ name)
    (hpiece : (!name.isEmpty && !Text.isDot name) = true) : namesOf name = [name] := by
  rw [namesOf, Text.splitOn_of_not_mem hslash]
  exact List.filter_cons_of_pos hpiece

/-- Names are cut at each slash. -/
theorem namesOf_append_slash (front back : List Char) :
    namesOf (front ++ '/' :: back) = namesOf front ++ namesOf back := by
  rw [namesOf, Text.splitOn_append_sep, List.filter_append]
  rfl

theorem namesOf_append {name : List Char} (front : List Char) (hslash : '/' ∉ name)
    (hpiece : (!name.isEmpty && !Text.isDot name) = true) :
    namesOf (front ++ '/' :: name) = namesOf front ++ [name] := by
  rw [namesOf_append_slash, namesOf_of_not_mem hslash hpiece]

/-- Slashes in front make no name. -/
theorem namesOf_slashes_append {slashes : List Char} (h : ∀ c ∈ slashes, c = '/')
    (cs : List Char) : namesOf (slashes ++ cs) = namesOf cs := by
  induction slashes with
  | nil => rfl
  | cons c slashes ih =>
    rw [h c List.mem_cons_self]
    exact (namesOf_append_slash [] (slashes ++ cs)).trans
      (ih fun d hd => h d (List.mem_cons_of_mem c hd))

theorem namesOf_append_slashes {slashes : List Char} (h : ∀ c ∈ slashes, c = '/')
    (cs : List Char) : namesOf (cs ++ slashes) = namesOf cs := by
  cases slashes with
  | nil => rw [List.append_nil]
  | cons c slashes =>
    have hrest := namesOf_slashes_append (fun d hd => h d (List.mem_cons_of_mem c hd)) []
    rw [List.append_nil] at hrest
    rw [h c List.mem_cons_self, namesOf_append_slash, hrest]
    exact List.append_nil _

/-- Slashes at the ends of a path change none of its names. -/
theorem namesOf_trim (cs : List Char) : namesOf (Text.trim (· = '/') cs) = namesOf cs := by
  obtain ⟨front, back, hcs, hfront, hback⟩ := Text.exists_trim_eq (· = '/') cs
  have hslashes : ∀ c ∈ front, c = '/' := fun c hc => of_decide_eq_true (hfront c hc)
  have hslashes' : ∀ c ∈ back, c = '/' := fun c hc => of_decide_eq_true (hback c hc)
  conv => rhs; rw [hcs]
  rw [namesOf_append_slashes hslashes', namesOf_slashes_append hslashes]

/-- A last name that is no double dot ends the place. -/
theorem resolve_append {name : Name} (hup : Text.isDotDot name = false) (here names : List Name) :
    Path.resolve here ⟨.here, names ++ [name]⟩ = names.foldl Path.step here ++ [name] := by
  simp [Path.resolve, Path.step, hup]

/-- The suffix of a name with an extension behind it. -/
theorem suffixOf_append {name extension : List Char} (hdot : '.' ∉ extension)
    (hne : extension ≠ []) :
    Path.suffixOf (name ++ '.' :: extension) = if name = [] then [] else '.' :: extension := by
  have hempty : extension.isEmpty = false := by rwa [List.isEmpty_eq_false_iff]
  unfold Path.suffixOf
  rw [Text.takeWhile_reverse_last hdot, List.reverse_reverse]
  by_cases hname : name = []
  · simp [hname]
  · have hpos : 0 < name.length := List.length_pos_iff.mpr hname
    have hlong : ¬ (name ++ '.' :: extension).length - extension.length < 2 := by
      rw [List.length_append, List.length_cons]
      omega
    simp only [hempty, hlong, hname, decide_false, Bool.or_false, Bool.false_eq_true, if_false]

/-! ## Loading -/

section Loading

variable {disk : Disk} {p : Path} {depth : Nat}

/-- A file without a suffix has no format. -/
theorem load_of_suffix_nil (h : p.suffix = []) :
    load depth Codecs.standard disk p = .error (.unsupported [] ["json"]) := by
  have hnone : Codecs.standard.find? [] = none := rfl
  have hextensions : Codecs.standard.extensions = ["json"] := by decide +kernel
  rw [load, h, hnone, hextensions]

theorem find?_json : Codecs.standard.find? ".json".toList = some {} := rfl

/-- A file that is too deep is refused for its depth. -/
theorem load_of_tooDeep {text : List Char} {container : Json.Container}
    (h : p.suffix = ".json".toList) (htext : disk.readText p = .ok text)
    (hread : Json.read depth (unifyLines text) = .error (.tooDeep container)) :
    load depth Codecs.standard disk p = .error (.content (.text (.tooDeep container))) := by
  simp only [load, h, find?_json, htext, Graph.Slice.read, hread]

/-- A file of the standard format fails to load for other reasons than its format. -/
theorem load_error {e : LoadError} (h : p.suffix = ".json".toList)
    (hload : load depth Codecs.standard disk p = .error e) :
    (∀ suffix available, e ≠ .unsupported suffix available)
      ∧ ∀ container, e = .content (.text (.tooDeep container)) →
          ∃ text, disk.readText p = .ok text
            ∧ Json.read depth (unifyLines text) = .error (.tooDeep container) := by
  simp only [load, h, find?_json] at hload
  split at hload
  · cases hload
    exact ⟨fun _ _ => nofun, fun _ => nofun⟩
  · cases hload
    exact ⟨fun _ _ => nofun, fun _ => nofun⟩
  · next text htext =>
    split at hload
    · next cause hcause =>
      cases hload
      refine ⟨fun _ _ => nofun, fun container hdeep => ⟨text, htext, ?_⟩⟩
      cases hdeep
      rw [Graph.Slice.read] at hcause
      split at hcause
      · next hread =>
        cases hcause
        exact hread
      · split at hcause <;> cases hcause
    · cases hload

end Loading

end Storage

end CodeAtlas
