/-
CodeAtlas.Proofs.Source.Delivery — when the built-in sources have a slice.

A service has a slice exactly if it answers with success and a body that is one
(`Service.outcome_eq_ok_iff`); a directory exactly if it holds a file for the resource,
whose text is one (`Directory.outcome_eq_ok_iff`). In both cases the slice is what a JSON
text says (`Service.decoded_of_outcome`, `Directory.decoded_of_outcome`).
-/
import CodeAtlas.Proofs.Json.Decoded
import CodeAtlas.Proofs.Source.Promise
import CodeAtlas.Source.Directory

namespace CodeAtlas

open CodeAtlas.Graph (Slice)

def Graph.Slice.IsDecoded (s : Slice) : Prop :=
  ∃ v, Json.IsDecoded v ∧ Slice.ofDocument v = .ok s

namespace Service

variable {s : Service} {levels : Nat} {transport : Transport} {resource : String}
  {params : Option (Table String Value)} {slice : Slice}

/-- A request for the resource reaches the service, and this is the answer. -/
def Answers (s : Service) (transport : Transport) (resource : String)
    (params : Option (Table String Value)) (status : Int) (body : List UInt8) : Prop :=
  ∃ path sent, resourcePath? resource.toList = some path ∧ s.request path params = .ok sent
    ∧ schemeFault? sent.target.text = none ∧ transport sent = .answer status body

/-- A body is a slice if its bytes are JSON and the document is a slice. -/
theorem readBody_eq_ok_iff {body : List UInt8} :
    readBody levels body = .ok slice ↔
      ∃ v, Json.readBytes levels body = .ok v ∧ Slice.ofDocument v = .ok slice := by
  unfold readBody
  cases Json.readBytes levels body with
  | error e => cases e <;> simp
  | ok v => cases hv : Slice.ofDocument v <;> simp [hv]

/-- Only a successful answer makes a slice. -/
theorem outcomeOf_eq_ok_iff {sent : Request} {reply : Reply} :
    outcomeOf levels resource sent reply = .ok slice ↔
      schemeFault? sent.target.text = none ∧ ∃ status body, reply = .answer status body ∧
        isSuccess status = true ∧ readBody levels body = .ok slice := by
  cases reply with
  | broken fault => cases fault <;> simp [outcomeOf]
  | answer status body =>
    unfold outcomeOf
    cases schemeFault? sent.target.text with
    | some fault => simp
    | none =>
      cases hstatus : isSuccess status with
      | false => simp [hstatus]
      | true => cases hbody : readBody levels body <;> simp [hstatus, hbody]

/-- A service has a slice exactly if it answers with one. -/
theorem outcome_eq_ok_iff :
    (s.fetchWith levels transport resource params).outcome = .ok slice ↔
      ∃ status body, s.Answers transport resource params status body ∧
        isSuccess status = true ∧ readBody levels body = .ok slice := by
  cases hpath : resourcePath? resource.toList with
  | none => simp [fetchWith, Answers, hpath]
  | some path =>
    cases hsent : s.request path params with
    | error fault => simp [fetchWith, Answers, hpath, hsent]
    | ok sent =>
      rw [outcome_of_request levels transport hpath hsent, outcomeOf_eq_ok_iff]
      simp only [Answers, hpath, Option.some.injEq]
      constructor
      · rintro ⟨hscheme, status, body, hreply, hstatus, hbody⟩
        exact ⟨status, body, ⟨path, sent, rfl, hsent, hscheme, hreply⟩, hstatus, hbody⟩
      · rintro ⟨status, body, ⟨path', sent', rfl, hsent', hscheme, hreply⟩, hstatus, hbody⟩
        rw [hsent] at hsent'
        cases hsent'
        exact ⟨hscheme, status, body, hreply, hstatus, hbody⟩

theorem decoded_of_outcome
    (h : (s.fetchWith levels transport resource params).outcome = .ok slice) : slice.IsDecoded := by
  obtain ⟨status, body, -, -, hbody⟩ := outcome_eq_ok_iff.mp h
  obtain ⟨v, hv, hslice⟩ := readBody_eq_ok_iff.mp hbody
  exact ⟨v, Json.isDecoded_of_readBytes hv, hslice⟩

end Service

/-- A text is a slice if it is JSON and the document is a slice. -/
theorem Graph.Slice.read_eq_ok_iff {depth : Nat} {text : List Char} {slice : Slice} :
    Slice.read depth text = .ok slice ↔
      ∃ v, Json.read depth text = .ok v ∧ Slice.ofDocument v = .ok slice := by
  unfold Slice.read
  cases Json.read depth text with
  | error e => simp
  | ok v => cases hv : Slice.ofDocument v <;> simp [hv]

namespace Directory

open Storage (Codecs Disk Path unifyLines)

variable {d : Directory} {levels : Nat} {codecs : Codecs} {disk : Disk} {resource : String}
  {slice : Slice}

/-- There is a file for the resource below the directory, it has a format, and it can be
read. -/
def Holds (d : Directory) (codecs : Codecs) (disk : Disk) (resource : String)
    (bytes : List UInt8) : Prop :=
  ∃ place, d.locateText disk.here resource = .ok place
    ∧ (codecs.find? (Path.ofPlace place).suffix).isSome = true
    ∧ disk.read (Path.ofPlace place) = .ok bytes

/-- A file is loaded if it has a format, can be read, is UTF-8 and is a slice. -/
theorem load_eq_ok_iff {p : Path} :
    Storage.load levels codecs disk p = .ok slice ↔
      (codecs.find? p.suffix).isSome = true ∧ ∃ bytes text, disk.read p = .ok bytes
        ∧ Text.decodeUtf8 bytes = .ok text ∧ Slice.read levels (unifyLines text) = .ok slice := by
  unfold Storage.load Disk.readText
  cases codecs.find? p.suffix with
  | none => simp
  | some format =>
    cases disk.read p with
    | error e => simp
    | ok bytes =>
      cases hbytes : Text.decodeUtf8 bytes with
      | error e => simp [hbytes]
      | ok text => cases htext : Slice.read levels (unifyLines text) <;> simp [hbytes, htext]

/-- What a directory has for a resource is what is loaded from its place. -/
theorem outcome_of_locateText {place : List Storage.Name}
    (h : d.locateText disk.here resource = .ok place) :
    (d.fetchText levels codecs disk resource).outcome = .ok slice ↔
      Storage.load levels codecs disk (Path.ofPlace place) = .ok slice := by
  unfold fetchText
  rw [h]
  cases hload : Storage.load levels codecs disk (Path.ofPlace place) <;> simp [hload]

/-- A directory has a slice exactly if it holds a file with one. -/
theorem outcome_eq_ok_iff :
    (d.fetchText levels codecs disk resource).outcome = .ok slice ↔
      ∃ bytes text, d.Holds codecs disk resource bytes ∧ Text.decodeUtf8 bytes = .ok text
        ∧ Slice.read levels (unifyLines text) = .ok slice := by
  cases hplace : d.locateText disk.here resource with
  | error fault => simp [fetchText, Holds, hplace]
  | ok place =>
    rw [outcome_of_locateText hplace, load_eq_ok_iff]
    constructor
    · rintro ⟨hformat, bytes, text, hbytes, htext, hslice⟩
      exact ⟨bytes, text, ⟨place, hplace, hformat, hbytes⟩, htext, hslice⟩
    · rintro ⟨bytes, text, ⟨place', hplace', hformat, hbytes⟩, htext, hslice⟩
      rw [hplace] at hplace'
      cases hplace'
      exact ⟨hformat, bytes, text, hbytes, htext, hslice⟩

theorem decoded_of_outcome (h : (d.fetchText levels codecs disk resource).outcome = .ok slice) :
    slice.IsDecoded := by
  obtain ⟨bytes, text, -, -, hslice⟩ := outcome_eq_ok_iff.mp h
  obtain ⟨v, hv, hslice⟩ := Graph.Slice.read_eq_ok_iff.mp hslice
  exact ⟨v, Json.isDecoded_of_read hv, hslice⟩

end Directory

end CodeAtlas
