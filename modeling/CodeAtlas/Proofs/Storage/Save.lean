/-
CodeAtlas.Proofs.Storage.Save — what is saved can be loaded, and nothing else changes.

Saving a slice either fails, and then the disk is as it was, or it succeeds, and then the
file at the path is the slice. The two halves rest on different things. That a failure
leaves no trace is a matter of order: the suffix is checked and the text is made before the
file is opened, and opening is the first thing that touches the disk. That a success can be
loaded goes through all layers: the written text is read as the same slice
(`Slice.read_of_write`), with unified line ends too; its bytes are decoded to it; and the new
file is found under the same path, since it takes the place of no directory on the way
(`descend_put`).

`isFloatFree` leaves the length of integers open. One that is too long to be written is a
reason for saving to fail, so a slice that was saved has none.

Not everything at a path is a file. What is saved to a device is gone (`load_of_device`), and
that is the one exception to the second half.

The operations are `save` and `load` of `SliceLoader`.
-/
import CodeAtlas.Proofs.Graph.RoundTrip
import CodeAtlas.Proofs.Json.LineEnds
import CodeAtlas.Proofs.Json.Script
import CodeAtlas.Proofs.Source.Delivery
import CodeAtlas.Proofs.Text.Utf8

namespace CodeAtlas

namespace Graph

open Json (nesting)

/-! ## Text that was written -/

variable {f : Format} {n? : Option Int} {memory depth : Nat} {s : Slice} {text : List Char}

/-- A slice that was written as data is indented by blanks, and its text is what the layout
makes of its document. -/
theorem Format.of_write (hs : s.isFloatFree = true) (hindent : f.indent = indentation n?)
    (h : f.write memory depth s = .ok text) :
    Json.obstacle? depth (s.documentWith f.omitNone.isTruthy) = none ∧
      text = Json.render (indented n?) 0 (s.documentWith f.omitNone.isTruthy) := by
  obtain ⟨layout, hlayout, hobstacle, htext, -⟩ :=
    (Format.write_eq_ok_iff (Slice.isLevel_of_isData hs)).mp h
  rw [hindent] at hlayout
  obtain ⟨-, rfl⟩ := layoutOf_indentation_eq_ok_iff.mp hlayout
  exact ⟨hobstacle, htext⟩

/-- Slices are written in ASCII. -/
theorem Format.toNat_lt_of_mem_write (hs : s.isFloatFree = true)
    (hindent : f.indent = indentation n?) (h : f.write memory depth s = .ok text) {c : Char}
    (hc : c ∈ text) : c.toNat < 128 := by
  obtain ⟨-, rfl⟩ := Format.of_write hs hindent h
  exact Json.toNat_lt_of_mem_render (isBlank_indented n?) hc

/-- A slice that was written is read back. -/
theorem Slice.read_of_write {read : Nat} (hs : s.isFloatFree = true)
    (hread : nesting s.document ≤ read) (hindent : f.indent = indentation n?)
    (h : f.write memory depth s = .ok text) : Slice.read read text = .ok s := by
  obtain ⟨hobstacle, rfl⟩ := Format.of_write hs hindent h
  -- what could be written has no integer that is too long
  have hexact : Json.isExact (s.documentWith f.omitNone.isTruthy) = true :=
    Json.isExact_of_isFloatFree _ (Slice.isData_documentWith _ hs)
      (Json.isWritable_of_obstacle? _ _ hobstacle)
  exact Slice.read_render _ hs hexact
    (Nat.le_trans (Slice.nesting_documentWith_le f.omitNone.isTruthy s) hread)
    (isBlank_indented n?)

/-- Line ends do not change what a text says. -/
theorem Slice.read_unifyLines (h : Slice.read depth text = .ok s) :
    Slice.read depth (Storage.unifyLines text) = .ok s := by
  obtain ⟨v, hv, hslice⟩ := Slice.read_eq_ok_iff.mp h
  refine Slice.read_eq_ok_iff.mpr ⟨v, ?_, hslice⟩
  have hsame := Json.toOption_document depth text
  unfold Json.read at hv ⊢
  split at hv
  · cases hv
  · next hmark =>
    rw [if_neg (by rwa [Json.head?_unifyLines (by decide) (by decide)])]
    rw [hv] at hsame
    cases hdocument : Json.document depth (Storage.unifyLines text) with
    | error e => rw [hdocument] at hsame; cases hsame
    | ok w =>
      rw [hdocument] at hsame
      cases hsame
      rfl

end Graph

namespace Storage

open CodeAtlas.Graph (Format Slice indentation)
open Json (nesting)

/-! ## Files -/

/-- A file does not change the working directory. -/
theorem here_put (d : Disk) (place : List Name) (bytes : List UInt8) :
    (d.put place bytes).here = d.here := by
  unfold Disk.put
  split <;> rfl

theorem ne_nil_of_not_directory {d : Disk} {place : List Name}
    (h : d.entry? place ≠ some .directory) : place ≠ [] := by
  rintro rfl
  exact h rfl

/-- A device keeps nothing. -/
theorem put_of_device {d : Disk} {place : List Name} (h : d.entry? place = some .device)
    (bytes : List UInt8) : d.put place bytes = d := if_pos h

/-- A file that is put at a place changes that place only. -/
theorem lookup_put {d : Disk} {place : List Name} (hne : place ≠ [])
    (hdevice : d.entry? place ≠ some .device) (bytes : List UInt8) (other : List Name) :
    Disk.entry? (d.put place bytes) other
      = if place = other then some (.file bytes) else d.entry? other := by
  rw [Disk.put, if_neg hdevice]
  unfold Disk.entry?
  by_cases hother : place = other
  · subst hother
    have hempty : place.isEmpty = false := List.isEmpty_eq_false_iff.mpr hne
    rw [hempty, if_pos rfl, Table.get?_insert, if_pos rfl]
    rfl
  · rw [if_neg hother, Table.get?_insert, if_neg hother]

/-- A file that takes the place of no directory blocks no way. -/
theorem descend_put {d : Disk} {place : List Name} (hfile : d.entry? place ≠ some .directory)
    (bytes : List UInt8) {names start : List Name} (h : d.descend start names = .ok place) :
    (d.put place bytes).descend start names = .ok place := by
  by_cases hdevice : d.entry? place = some .device
  · rwa [put_of_device hdevice]
  have hne := ne_nil_of_not_directory hfile
  induction names generalizing start with
  | nil => exact h
  | cons name names ih =>
    rw [Disk.descend] at h ⊢
    cases hentry : d.entry? start with
    | none => rw [hentry] at h; cases h
    | some entry =>
      cases entry with
      | file bytes => rw [hentry] at h; cases h
      | device => rw [hentry] at h; cases h
      | directory =>
        have hother : place ≠ start := by
          rintro rfl
          exact hfile hentry
        rw [hentry] at h
        rw [lookup_put hne hdevice, if_neg hother, hentry]
        dsimp only at h ⊢
        split at h
        · next hup => rw [if_pos hup]; exact ih h
        · next hup =>
          rw [if_neg hup]
          split at h
          · cases h
          · next hlong => rw [if_neg hlong]; exact ih h

/-- A file at the end of a path does not change where the path leads. -/
theorem locate_put {d : Disk} {p : Path} {place : List Name} (h : d.locate p = .ok place)
    (hfile : d.entry? place ≠ some .directory) (bytes : List UInt8) :
    (d.put place bytes).locate p = .ok place := by
  have hhere : (d.put place bytes).here = d.here := here_put d place bytes
  unfold Disk.locate at h ⊢
  rw [hhere]
  split at h
  · cases h
  · next hnull =>
    rw [if_neg hnull]
    split at h
    · cases h
    · next hlong =>
      rw [if_neg hlong]
      exact descend_put hfile bytes h

/-- What was put at the place of a path is read there. -/
theorem read_put {d : Disk} {p : Path} {place : List Name} (h : d.locate p = .ok place)
    (hfile : d.entry? place ≠ some .directory) (hdevice : d.entry? place ≠ some .device)
    (bytes : List UInt8) : (d.put place bytes).read p = .ok bytes := by
  have hentry := lookup_put (ne_nil_of_not_directory hfile) hdevice bytes place
  rw [if_pos rfl] at hentry
  unfold Disk.read
  simp only [locate_put h hfile, hentry]

/-- A device is read as empty. -/
theorem read_of_device {d : Disk} {p : Path} {place : List Name} (h : d.locate p = .ok place)
    (hdevice : d.entry? place = some .device) : d.read p = .ok [] := by
  unfold Disk.read
  simp only [h, hdevice]

/-- What is written last remains. -/
theorem put_put (d : Disk) {place : List Name} (hfile : d.entry? place ≠ some .directory)
    (bytes bytes' : List UInt8) :
    (d.put place bytes).put place bytes' = d.put place bytes' := by
  by_cases hdevice : d.entry? place = some .device
  · rw [put_of_device hdevice, put_of_device hdevice]
  · have hentry := lookup_put (ne_nil_of_not_directory hfile) hdevice bytes place
    have hstill : Disk.entry? (d.put place bytes) place ≠ some .device := by
      rw [hentry, if_pos rfl]
      exact fun h => by cases h
    rw [Disk.put, if_neg hstill, Disk.put, if_neg hdevice, Disk.put, if_neg hdevice]
    simp only [Table.insert_insert]

/-- Opening a file empties it, or makes a new one. -/
theorem create_eq_ok_iff {d opened : Disk} {p : Path} {place : List Name} :
    d.create p = .ok (place, opened) ↔
      d.locate p = .ok place ∧ d.entry? place ≠ some .directory ∧ opened = d.put place [] := by
  unfold Disk.create
  cases hlocate : d.locate p with
  | error fault => simp
  | ok place' =>
    simp only [Except.ok.injEq]
    split
    · next hdirectory =>
      constructor
      · intro h
        cases h
      · rintro ⟨rfl, hfile, -⟩
        exact absurd hdirectory hfile
    · next hfile =>
      constructor
      · intro h
        cases h
        exact ⟨rfl, hfile, rfl⟩
      · rintro ⟨rfl, -, rfl⟩
        rfl

/-! ## Formats that are registered -/

/-- A format for an extension: what says whether nulls are left out, and the indentation. -/
structure Registration where
  extension : List Char
  omitNone : Value
  indent : Option Int

def Registration.format (r : Registration) : Format := ⟨r.omitNone, indentation r.indent⟩

/-- The codecs after formats have been registered, one after the other. -/
def Codecs.registerAll (registrations : List Registration) : Codecs :=
  registrations.foldl (fun codecs r => codecs.register r.extension r.format) .standard

/-- Registered formats indent by blanks or not at all. -/
theorem indent_of_find? {registrations : List Registration} {extension : List Char} {f : Format}
    (h : (Codecs.registerAll registrations).find? extension = some f) :
    ∃ n?, f.indent = indentation n? := by
  rcases Table.mem_of_mem_foldl_insert (Table.mem_of_get? h) with hstandard | ⟨r, -, hr⟩
  · have hf : f = {} := congrArg Prod.snd (List.mem_singleton.mp hstandard)
    exact ⟨some 2, by rw [hf]; rfl⟩
  · have hf : f = r.format := congrArg Prod.snd hr
    exact ⟨r.indent, by rw [hf]; rfl⟩

/-! ## Saving -/

section Saving

variable {memory depth : Nat} {codecs : Codecs} {d saved : Disk} {p : Path} {s : Slice}

/-- What it takes to save a slice: a format for the suffix, a text, and a path that leads to
no directory. -/
theorem save_eq_ok_iff :
    save memory depth codecs d p s = (saved, .ok ()) ↔ ∃ f text place,
      codecs.find? p.suffix = some f ∧ f.write memory depth s = .ok text ∧
      d.locate p = .ok place ∧ d.entry? place ≠ some .directory ∧
      saved = d.put place (Text.encodeUtf8 text) := by
  unfold save
  cases codecs.find? p.suffix with
  | none => simp
  | some f =>
    cases hwrite : f.write memory depth s with
    | error e => simp [hwrite]
    | ok text =>
      cases hcreate : d.create p with
      | error e =>
        suffices hno : ∀ place, ¬ (d.locate p = .ok place ∧ d.entry? place ≠ some .directory) by
          simp only [hwrite, Prod.mk.injEq, reduceCtorEq, and_false, false_iff]
          rintro ⟨f', text', place, -, -, hlocate, hfile, -⟩
          exact hno place ⟨hlocate, hfile⟩
        rintro place ⟨hlocate, hfile⟩
        rw [create_eq_ok_iff.mpr ⟨hlocate, hfile, rfl⟩] at hcreate
        cases hcreate
      | ok opened =>
        obtain ⟨place, opened⟩ := opened
        obtain ⟨hlocate, hfile, rfl⟩ := create_eq_ok_iff.mp hcreate
        simp only [hwrite, put_put d hfile, Prod.mk.injEq, and_true]
        constructor
        · rintro rfl
          exact ⟨f, text, place, rfl, hwrite, hlocate, hfile, rfl⟩
        · rintro ⟨f', text', place', hf, hwrite', hlocate', -, rfl⟩
          cases hf
          rw [hwrite] at hwrite'
          rw [hlocate] at hlocate'
          cases hwrite'
          cases hlocate'
          rfl

/-- The file is opened last, so a failure comes before any change. -/
theorem disk_of_save_error {e : SaveError}
    (h : save memory depth codecs d p s = (saved, .error e)) : saved = d := by
  unfold save at h
  split at h
  · cases h; rfl
  · split at h
    · cases h; rfl
    · split at h
      · cases h; rfl
      · cases h

end Saving

/-- A device has an empty text, and that is no document. -/
theorem load_of_device {depth : Nat} {codecs : Codecs} {d : Disk} {p : Path} {place : List Name}
    {f : Format} (hf : codecs.find? p.suffix = some f) (h : d.locate p = .ok place)
    (hdevice : d.entry? place = some .device) :
    load depth codecs d p = .error (.content (.text (.malformed .expectedValue 1 1 0))) := by
  have hread : Slice.read depth (unifyLines [])
      = .error (.text (.malformed .expectedValue 1 1 0)) := by
    cases depth <;> rfl
  have hempty : Text.decodeUtf8 [] = .ok [] := Text.decodeUtf8_encodeUtf8 []
  have htext : d.readText p = .ok [] := by
    simp only [Disk.readText, read_of_device h hdevice, hempty]
  simp only [load, hf, htext, hread]

/-- **Saving and loading.** Whatever formats have been registered, saving a slice without
floating-point numbers ends in one of two ways. Either it succeeds: then nothing is
different anywhere but at the place of the path, and loading the same path gives the slice
back, in all fields and in its order, unless a device is at that place. Or it fails: then
nothing is different at all. It succeeds exactly when there is a format for the suffix, the
slice has a text, and the path leads to no directory but to a file, a device or a place
where a file can be made. The file is ASCII, so that no encoding of the text could fail
once the file is open. A device swallows the slice, and loading it fails. -/
theorem load_of_save (registrations : List Registration) (memory written read : Nat) (d : Disk)
    (p : Path) {s : Slice} (hs : s.isFloatFree = true) (hread : nesting s.document ≤ read) :
    (∀ saved, save memory written (.registerAll registrations) d p s = (saved, .ok ()) →
      saved.here = d.here ∧
      ∃ place, d.locate p = .ok place ∧
        (∀ other ≠ place, saved.entry? other = d.entry? other) ∧
        (d.entry? place ≠ some .device →
          load read (.registerAll registrations) saved p = .ok s ∧
          ∃ bytes, saved.entry? place = some (.file bytes) ∧ ∀ b ∈ bytes, b.toNat < 128) ∧
        (d.entry? place = some .device → saved = d ∧
          load read (.registerAll registrations) saved p
            = .error (.content (.text (.malformed .expectedValue 1 1 0))))) ∧
    (∀ saved e, save memory written (.registerAll registrations) d p s = (saved, .error e) →
      saved = d) ∧
    ((∃ saved, save memory written (.registerAll registrations) d p s = (saved, .ok ())) ↔
      (∃ f text, (Codecs.registerAll registrations).find? p.suffix = some f ∧
        f.write memory written s = .ok text) ∧
      ∃ place, d.locate p = .ok place ∧ d.entry? place ≠ some .directory) := by
  refine ⟨fun saved h => ?_, fun saved e => disk_of_save_error, ?_⟩
  · obtain ⟨f, text, place, hf, hwrite, hlocate, hfile, rfl⟩ := save_eq_ok_iff.mp h
    obtain ⟨n?, hindent⟩ := indent_of_find? hf
    refine ⟨here_put d place _, place, hlocate, ?_, ?_, ?_⟩
    · intro other hother
      by_cases hdevice : d.entry? place = some .device
      · rw [put_of_device hdevice]
      · rw [lookup_put (ne_nil_of_not_directory hfile) hdevice, if_neg (Ne.symm hother)]
    · intro hdevice
      have hslice : Slice.read read (unifyLines text) = .ok s :=
        Slice.read_unifyLines (Slice.read_of_write hs hread hindent hwrite)
      refine ⟨?_, Text.encodeUtf8 text, ?_, ?_⟩
      · exact Directory.load_eq_ok_iff.mpr ⟨by rw [hf]; rfl, _, text,
          read_put hlocate hfile hdevice _, Text.decodeUtf8_encodeUtf8 text, hslice⟩
      · rw [lookup_put (ne_nil_of_not_directory hfile) hdevice, if_pos rfl]
      · intro b hb
        exact Text.toNat_lt_of_mem_encodeUtf8
          (fun c => Graph.Format.toNat_lt_of_mem_write hs hindent hwrite) hb
    · intro hdevice
      rw [put_of_device hdevice]
      exact ⟨rfl, load_of_device hf hlocate hdevice⟩
  · constructor
    · rintro ⟨saved, h⟩
      obtain ⟨f, text, place, hf, hwrite, hlocate, hfile, -⟩ := save_eq_ok_iff.mp h
      exact ⟨⟨f, text, hf, hwrite⟩, place, hlocate, hfile⟩
    · rintro ⟨⟨f, text, hf, hwrite⟩, place, hlocate, hfile⟩
      exact ⟨_, save_eq_ok_iff.mpr ⟨f, text, place, hf, hwrite, hlocate, hfile, rfl⟩⟩

/-- An extension that is registered twice, in other letters; a path through a directory and
back; and a slice with line ends in its texts. -/
theorem load_of_save_line_ends :
    let registrations : List Registration :=
      [⟨".Slice".toList, .bool true, some 1⟩, ⟨"SLICE".toList, .bool false, none⟩]
    let d : Disk := ⟨[(["out".toList], .directory), (["notes".toList], .file [104, 105])], []⟩
    let p := Path.parse "out/../a.slice".toList
    let s : Slice :=
      ⟨[{ id := .str "a\r\n", level := .null, cost := .int (-7),
          displayName := .list [.str "\u2028é😀"] }],
        [{ id := .null, source := .str "a\r\n", target := .str "b", tag := .bool true }]⟩
    ∃ saved, save 1000 4 (.registerAll registrations) d p s = (saved, .ok ()) ∧
      load 4 (.registerAll registrations) saved p = .ok s ∧
      saved.entry? ["notes".toList] = some (.file [104, 105]) := by
  intro registrations d p s
  have hs : s.isFloatFree = true := by decide
  obtain ⟨hloads, -, hsaves⟩ :=
    load_of_save registrations 1000 4 4 d p hs (by decide +kernel)
  have hlevels := Slice.isLevel_of_isData hs
  have hwrite : Format.write ⟨.bool false, .null⟩ 1000 4 s = .ok _ :=
    (Format.write_eq_ok_iff hlevels).mpr ⟨_, rfl,
      Option.isNone_iff_eq_none.mp (by decide +kernel), rfl, by decide +kernel⟩
  obtain ⟨saved, hsave⟩ := hsaves.mpr ⟨⟨_, _, rfl, hwrite⟩, ["a.slice".toList], rfl, by decide⟩
  obtain ⟨-, place, hplace, hother, hload, -⟩ := hloads saved hsave
  cases hplace
  exact ⟨saved, hsave, (hload (by decide)).1, hother _ (by decide)⟩

/-- With a format for files without a suffix, a slice can be saved to a device, and is lost
there. -/
theorem device_swallows_slice :
    let registrations : List Registration := [⟨[], .bool true, none⟩]
    let d : Disk := ⟨[(["dev".toList], .directory), (["dev".toList, "null".toList], .device)], []⟩
    let p := Path.parse "/dev/null".toList
    Slice.empty.isFloatFree = true ∧
      save 1000 2 (.registerAll registrations) d p Slice.empty = (d, .ok ()) ∧
      load 2 (.registerAll registrations) d p
        = .error (.content (.text (.malformed .expectedValue 1 1 0))) := by
  intro registrations d p
  have hwrite : Format.write ⟨.bool true, .null⟩ 1000 2 Slice.empty = .ok _ :=
    (Format.write_eq_ok_iff (by decide)).mpr ⟨_, rfl,
      Option.isNone_iff_eq_none.mp (by decide +kernel), rfl, by decide +kernel⟩
  have hplace : d.locate p = .ok ["dev".toList, "null".toList] := rfl
  have hsave : save 1000 2 (.registerAll registrations) d p Slice.empty = (d, .ok ()) :=
    save_eq_ok_iff.mpr ⟨_, _, _, rfl, hwrite, hplace, by decide, (put_of_device rfl _).symm⟩
  exact ⟨rfl, hsave, load_of_device rfl hplace rfl⟩

end Storage

end CodeAtlas
