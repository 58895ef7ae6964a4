/-
CodeAtlas.Proofs.Source.Agreement — a file and a service with the same text agree.

The two built-in sources read a text in different ways. A file is decoded as UTF-8, its
line ends are unified, and a byte order mark is refused. The bytes of a body are looked at
first: a mark or zero bytes among them would make them UTF-16 or UTF-32. For a text without
null characters that does not begin with a mark, none of that matters. Its bytes hold no
zero and look like no mark, so a body is decoded as UTF-8 too (`decode_encodeUtf8`), and
line ends do not change what a document says.

The operations are `fetch_slice` of `FileSliceSource` and of `GraphSliceClient`.
-/
import CodeAtlas.Proofs.Json.LineEnds
import CodeAtlas.Proofs.Source.Delivery
import CodeAtlas.Proofs.Text.Utf8

namespace CodeAtlas

open CodeAtlas.Graph (Slice)
open Storage (Codecs Disk unifyLines)
open Text (encodeUtf8)

/-! ## Bytes -/

namespace Json

variable {text : List Char}

/-- No byte of such a text is zero, and none is above those of UTF-8. -/
theorem byte_of_mem_encodeUtf8 (hnull : Char.ofNat 0 ∉ text) {b : UInt8}
    (h : b ∈ encodeUtf8 text) : b ≠ 0 ∧ b.toNat < 248 := by
  obtain ⟨c, hc, hb⟩ := List.mem_flatMap.mp h
  obtain ⟨hlarge, hzero⟩ := Text.byte_cases hb
  refine ⟨?_, hlarge⟩
  rintro rfl
  have hchar : c = Char.ofNat 0 := by rw [← Char.ofNat_toNat c, hzero rfl]
  exact hnull (hchar ▸ hc)

/-- The bytes of a byte order mark are those of one character. -/
theorem head?_of_mark {rest : List UInt8} (h : encodeUtf8 text = 0xEF :: 0xBB :: 0xBF :: rest) :
    text.head? = some (Char.ofNat 0xFEFF) := by
  cases text with
  | nil => cases h
  | cons c cs =>
    obtain ⟨first, more, hbytes, hhead⟩ := Text.utf8Head_encoded c (encodeUtf8 cs)
    rw [encodeUtf8, List.flatMap_cons, hbytes, List.cons_append, ← encodeUtf8] at h
    obtain ⟨rfl, hmore⟩ := List.cons.inj h
    rw [hmore, Text.utf8Head_three rest (by decide) (by decide) (by decide) (by decide)] at hhead
    obtain ⟨hchar, -⟩ := Prod.mk.inj (Except.ok.inj hhead)
    rw [List.head?_cons, ← hchar]
    rfl

/-- Its bytes bear no mark of another encoding. -/
theorem marked?_encodeUtf8 (hnull : Char.ofNat 0 ∉ text)
    (hmark : text.head? ≠ some (Char.ofNat 0xFEFF)) : marked? (encodeUtf8 text) = none := by
  have hbyte : ∀ b ∈ encodeUtf8 text, b ≠ 0 ∧ b.toNat < 248 :=
    fun b hb => byte_of_mem_encodeUtf8 hnull hb
  unfold marked?
  split
  · next heq => exact absurd rfl (hbyte 0 (by simp [heq])).1
  · next heq => exact absurd (hbyte 0xFF (by simp [heq])).2 (by decide)
  · next heq => exact absurd (hbyte 0xFE (by simp [heq])).2 (by decide)
  · next heq => exact absurd (hbyte 0xFF (by simp [heq])).2 (by decide)
  · next heq => exact absurd (head?_of_mark heq) hmark
  · rfl

/-- Without zero bytes the encoding is taken for UTF-8. -/
theorem guessed_of_not_mem {bytes : List UInt8} (h : (0 : UInt8) ∉ bytes) :
    guessed bytes = .utf8 := by
  unfold guessed
  split
  · next a b =>
    simp only [List.mem_cons, List.not_mem_nil, or_false, not_or] at h
    rw [if_neg (Ne.symm h.1), if_neg (Ne.symm h.2)]
  · next a b c d _ =>
    simp only [List.mem_cons, not_or] at h
    rw [if_neg (Ne.symm h.1), if_neg (Ne.symm h.2.1)]
  · rfl

/-- The text of a body in UTF-8. -/
theorem decode_encodeUtf8 (hnull : Char.ofNat 0 ∉ text)
    (hmark : text.head? ≠ some (Char.ofNat 0xFEFF)) : decode (encodeUtf8 text) = .ok text := by
  have hzero : (0 : UInt8) ∉ encodeUtf8 text :=
    fun h => (byte_of_mem_encodeUtf8 hnull h).1 rfl
  rw [decode, marked?_encodeUtf8 hnull hmark]
  dsimp only
  rw [guessed_of_not_mem hzero]
  exact Text.decodeUtf8Lenient_encodeUtf8 text

/-- What a file says, which is read with unified line ends. -/
theorem read_unifyLines_eq_ok_iff (hmark : text.head? ≠ some (Char.ofNat 0xFEFF)) {depth : Nat}
    {v : Value} : read depth (unifyLines text) = .ok v ↔ document depth text = .ok v := by
  have hfile : (unifyLines text).head? ≠ some (Char.ofNat 0xFEFF) := by
    rwa [Ne, head?_unifyLines (by decide) (by decide)]
  have hsame := toOption_document depth text
  rw [read, if_neg hfile]
  cases hunified : document depth (unifyLines text) <;> cases hplain : document depth text <;>
    rw [hunified, hplain] at hsame <;> simp_all [Except.toOption]

/-- What a body says. -/
theorem readBytes_encodeUtf8_eq_ok_iff (hnull : Char.ofNat 0 ∉ text)
    (hmark : text.head? ≠ some (Char.ofNat 0xFEFF)) {depth : Nat} {v : Value} :
    readBytes depth (encodeUtf8 text) = .ok v ↔ document depth text = .ok v := by
  rw [readBytes, decode_encodeUtf8 hnull hmark]
  dsimp only
  cases document depth text <;> simp

/-- A text that one of two depths reads, and that neither refuses for its depth, says the
same with the other. -/
theorem document_eq_ok_of_shallow {depth other : Nat} {v : Value}
    (h : document depth text = .ok v) (hother : ¬ IsTooDeep other text) :
    document other text = .ok v := by
  rcases Nat.le_total depth other with hle | hle
  · exact document_mono hle h
  · exact ((document_fallsShort hle text).resolve_right hother).trans h

end Json

/-! ## Sources -/

/-- A resource has one file. -/
theorem Directory.Holds.unique {d : Directory} {codecs : Codecs} {disk : Disk} {resource : String}
    {bytes bytes' : List UInt8} (h : d.Holds codecs disk resource bytes)
    (h' : d.Holds codecs disk resource bytes') : bytes = bytes' := by
  obtain ⟨place, hplace, -, hread⟩ := h
  obtain ⟨place', hplace', -, hread'⟩ := h'
  rw [hplace] at hplace'
  cases hplace'
  rw [hread] at hread'
  exact Except.ok.inj hread'

/-- A request has one answer. -/
theorem Service.Answers.unique {s : Service} {transport : Transport} {resource : String}
    {params : Option (Table String Value)} {status status' : Int} {body body' : List UInt8}
    (h : s.Answers transport resource params status body)
    (h' : s.Answers transport resource params status' body') : status = status' ∧ body = body' := by
  obtain ⟨path, sent, hpath, hsent, -, hreply⟩ := h
  obtain ⟨path', sent', hpath', hsent', -, hreply'⟩ := h'
  rw [hpath] at hpath'
  cases hpath'
  rw [hsent] at hsent'
  cases hsent'
  rw [hreply] at hreply'
  cases hreply'
  exact ⟨rfl, rfl⟩

section Agreement

variable {d : Directory} {codecs : Codecs} {disk : Disk} {file : String} {s : Service}
  {transport : Transport} {resource : String} {params : Option (Table String Value)}
  {text : List Char} {levels : Nat} {slice : Slice}

/-- A directory has the slice that the text of its file says. -/
theorem Directory.Holds.outcome_eq_ok_iff (hfile : d.Holds codecs disk file (encodeUtf8 text))
    (hmark : text.head? ≠ some (Char.ofNat 0xFEFF)) :
    (d.fetchText levels codecs disk file).outcome = .ok slice ↔
      ∃ v, Json.document levels text = .ok v ∧ Slice.ofDocument v = .ok slice := by
  rw [Directory.outcome_eq_ok_iff]
  simp only [Slice.read_eq_ok_iff]
  constructor
  · rintro ⟨bytes, decoded, hholds, hdecoded, v, hv, hslice⟩
    rw [← hfile.unique hholds, Text.decodeUtf8_encodeUtf8] at hdecoded
    cases hdecoded
    exact ⟨v, (Json.read_unifyLines_eq_ok_iff hmark).mp hv, hslice⟩
  · rintro ⟨v, hv, hslice⟩
    exact ⟨_, text, hfile, Text.decodeUtf8_encodeUtf8 text, v,
      (Json.read_unifyLines_eq_ok_iff hmark).mpr hv, hslice⟩

/-- A service has the slice that the text of its body says. -/
theorem Service.Answers.outcome_eq_ok_iff {status : Int}
    (hanswer : s.Answers transport resource params status (encodeUtf8 text))
    (hstatus : Service.isSuccess status = true) (hnull : Char.ofNat 0 ∉ text)
    (hmark : text.head? ≠ some (Char.ofNat 0xFEFF)) :
    (s.fetchWith levels transport resource params).outcome = .ok slice ↔
      ∃ v, Json.document levels text = .ok v ∧ Slice.ofDocument v = .ok slice := by
  rw [Service.outcome_eq_ok_iff]
  simp only [Service.readBody_eq_ok_iff]
  constructor
  · rintro ⟨status, body, hanswers, -, v, hv, hslice⟩
    rw [← (hanswer.unique hanswers).2] at hv
    exact ⟨v, (Json.readBytes_encodeUtf8_eq_ok_iff hnull hmark).mp hv, hslice⟩
  · rintro ⟨v, hv, hslice⟩
    exact ⟨status, _, hanswer, hstatus, v,
      (Json.readBytes_encodeUtf8_eq_ok_iff hnull hmark).mpr hv, hslice⟩

/-- **A file and a service agree on a text.** A directory that holds a text for a resource
and a service that answers with the same text have the same slice, or both have none,
unless one of them refuses the text for its depth. The two read to depths of their own: where
the file is read less deep, it has what the service has except for the texts too deep for it. -/
theorem file_and_service_agree {fileLevels bodyLevels : Nat}
    (hnull : Char.ofNat 0 ∉ text) (hmark : text.head? ≠ some (Char.ofNat 0xFEFF))
    (hfile : d.Holds codecs disk file (encodeUtf8 text))
    (hanswer : s.Answers transport resource params 200 (encodeUtf8 text)) (slice : Slice) :
    (¬ Json.IsTooDeep fileLevels text → ¬ Json.IsTooDeep bodyLevels text →
      ((d.fetchText fileLevels codecs disk file).outcome = .ok slice ↔
        (s.fetchWith bodyLevels transport resource params).outcome = .ok slice))
    ∧ (fileLevels ≤ bodyLevels →
      ((d.fetchText fileLevels codecs disk file).outcome = .ok slice ↔
        (s.fetchWith bodyLevels transport resource params).outcome = .ok slice
          ∧ ¬ Json.IsTooDeep fileLevels text)) := by
  rw [hfile.outcome_eq_ok_iff hmark, hanswer.outcome_eq_ok_iff rfl hnull hmark]
  refine ⟨fun hshallow hshallow' => ?_, fun hle => ?_⟩
  · constructor
    · rintro ⟨v, hv, hslice⟩
      exact ⟨v, Json.document_eq_ok_of_shallow hv hshallow', hslice⟩
    · rintro ⟨v, hv, hslice⟩
      exact ⟨v, Json.document_eq_ok_of_shallow hv hshallow, hslice⟩
  · constructor
    · rintro ⟨v, hv, hslice⟩
      refine ⟨⟨v, Json.document_mono hle hv, hslice⟩, ?_⟩
      rintro ⟨container, hdeep⟩
      rw [hv] at hdeep
      cases hdeep
    · rintro ⟨⟨v, hv, hslice⟩, hshallow⟩
      exact ⟨v, Json.document_eq_ok_of_shallow hv hshallow, hslice⟩

end Agreement

/-! ## A text on both sides -/

section Example

/-- A disk whose directory `slices` holds the text in the file of the resource `all`. -/
def diskWith (extension : String) (text : List Char) : Disk :=
  ⟨[(["slices".toList], .directory),
    (["slices".toList, "all.".toList ++ extension.toList], .file (encodeUtf8 text))], []⟩

def slicesDirectory (extension : String) : Directory :=
  ⟨Storage.Path.parse "slices".toList, extension.toList⟩

def graphService : Service := { baseUrl := .str "http://graph.test/api" }

/-- The directory holds the text for the resource. -/
theorem holds_diskWith (text : List Char) :
    (slicesDirectory "json").Holds Codecs.standard (diskWith "json" text) "all"
      (encodeUtf8 text) :=
  ⟨_, rfl, rfl, rfl⟩

/-- A service behind such a transport answers with the body. -/
theorem answers_graphService (body : List UInt8) :
    graphService.Answers (fun _ => .answer 200 body) "packages" none 200 body := by
  obtain ⟨base, hparse, habs⟩ : ∃ base, Url.parse "http://graph.test/api".toList = .ok base ∧
      base.isAbsolute = true := ⟨_, rfl, rfl⟩
  obtain ⟨sent, hsent⟩ : ∃ sent, graphService.request "packages".toList none = .ok sent :=
    ⟨_, rfl⟩
  exact ⟨_, sent, rfl, hsent, Service.schemeFault?_target rfl hparse habs hsent, rfl⟩

end Example

/-- A text with a carriage return, a line end of two characters and a character beyond
ASCII. -/
theorem file_and_service_agree_line_ends :
    let text := "\x7b\r\"nodes\":\r\n[\x7b\"id\": \"é\"\x7d]\x7d".toList
    ∃ slice, slice.nodes ≠ [] ∧
      ((slicesDirectory "json").fetchText 3 Codecs.standard (diskWith "json" text) "all").outcome
        = .ok slice ∧
      (graphService.fetchWith 4 (fun _ => .answer 200 (encodeUtf8 text)) "packages" none).outcome
        = .ok slice := by
  intro text
  obtain ⟨slice, hslice, hnodes⟩ : ∃ slice, Slice.read 3 (unifyLines text) = .ok slice ∧
      (!slice.nodes.isEmpty) = true := exists_ok_of_any (by decide +kernel)
  have hfetch := Directory.outcome_eq_ok_iff.mpr
    ⟨_, text, holds_diskWith text, Text.decodeUtf8_encodeUtf8 text, hslice⟩
  have hagree := (file_and_service_agree (by decide) (by decide) (holds_diskWith text)
    (answers_graphService _) slice).2 (by decide : 3 ≤ 4)
  exact ⟨slice, by simpa using hnodes, hfetch, (hagree.mp hfetch).1⟩

/-! ## Where they part -/

def nested : Nat → Value
  | 0 => .dict []
  | n + 1 => .dict [("x", nested n)]

theorem nesting_nested (n : Nat) : Json.nesting (nested n) = n + 1 := by
  induction n with
  | zero => rfl
  | succ n ih => simp [nested, Json.nesting, Json.nestingOfFields, ih]

theorem isExact_nested (n : Nat) : Json.isExact (nested n) = true := by
  induction n with
  | zero => rfl
  | succ n ih => simpa [nested, Json.isData, Json.fieldsData, Table.keys] using ih

/-- Nested objects without sections are an empty slice. -/
theorem ofDocument_nested (n : Nat) : Slice.ofDocument (nested n) = .ok Slice.empty := by
  cases n <;> rfl

def nestedText (n : Nat) : List Char := Json.render .inline 0 (nested n)

theorem render_nested_succ (level n : Nat) :
    Json.render .inline level (nested (n + 1))
      = "\x7b\"x\": ".toList ++ Json.render .inline (level + 1) (nested n) ++ "\x7d".toList := by
  have hname : Json.stringText "x".toList = "\"x\"".toList := by decide
  rw [nested, Json.render, Json.renderEntries, hname, Json.Layout.enclose, if_neg (by simp)]
  simp [Json.Layout.newline]

/-- Their text needs five characters. -/
theorem mem_render_nested {n level : Nat} {c : Char}
    (h : c ∈ Json.render .inline level (nested n)) : c ∈ "\x7b\"x\": \x7d".toList := by
  induction n generalizing level with
  | zero =>
    rw [nested, Json.render, Json.renderEntries, Json.Layout.enclose, List.isEmpty_nil,
      if_pos rfl] at h
    exact List.Sublist.mem h (by decide)
  | succ n ih =>
    rw [render_nested_succ, List.mem_append, List.mem_append] at h
    rcases h with (h | h) | h
    · exact List.mem_append_left "\x7d".toList h
    · exact ih h
    · exact List.mem_append_right "\x7b\"x\": ".toList h

theorem head?_nestedText (n : Nat) : (nestedText n).head? ≠ some (Char.ofNat 0xFEFF) :=
  fun h => absurd (mem_render_nested (List.mem_of_mem_head? h)) (by decide)

/-- A depth that just fits reads them. -/
theorem document_nestedText (n : Nat) :
    Json.document (n + 1) (nestedText n) = .ok (nested n) := by
  have hblank : Json.Layout.inline.IsBlank := trivial
  have hread : Json.read (n + 1) (nestedText n) = .ok (nested n) :=
    Json.read_render hblank (isExact_nested n) (nesting_nested n).le
  rwa [Json.read, if_neg (head?_nestedText n)] at hread

/-- However deep a service reads, a file that is read one level less deep is refused for a text
that the service reads. And a file whose extension stands for no format is refused for every
text. -/
theorem file_refused_where_service_reads :
    (∀ levels, ∃ text, Char.ofNat 0 ∉ text ∧ text.head? ≠ some (Char.ofNat 0xFEFF) ∧
      (slicesDirectory "json").Holds Codecs.standard (diskWith "json" text) "all"
        (encodeUtf8 text) ∧
      (graphService.fetchWith (levels + 1) (fun _ => .answer 200 (encodeUtf8 text)) "packages"
        none).outcome = .ok Slice.empty ∧
      ∀ slice, ((slicesDirectory "json").fetchText levels Codecs.standard (diskWith "json" text)
        "all").outcome ≠ .ok slice) ∧
    ∀ levels text, (diskWith "txt" text).read (Storage.Path.parse "slices/all.txt".toList)
        = .ok (encodeUtf8 text) ∧
      ∃ fault, ((slicesDirectory "txt").fetchText levels Codecs.standard (diskWith "txt" text)
        "all").outcome = .error fault := by
  refine ⟨fun levels => ?_, fun levels text => ⟨rfl, _, rfl⟩⟩
  have hnull : Char.ofNat 0 ∉ nestedText levels :=
    fun h => absurd (mem_render_nested h) (by decide)
  have hmark := head?_nestedText levels
  refine ⟨nestedText levels, hnull, hmark, holds_diskWith _, ?_, fun slice => ?_⟩
  · rw [(answers_graphService _).outcome_eq_ok_iff rfl hnull hmark]
    exact ⟨nested levels, document_nestedText levels, ofDocument_nested levels⟩
  · rw [Ne, (holds_diskWith _).outcome_eq_ok_iff hmark]
    rintro ⟨v, hv, -⟩
    have hsame := Json.document_mono (Nat.le_succ levels) hv
    rw [document_nestedText] at hsame
    cases hsame
    have hnesting := Json.nesting_le_of_obstacle? _ _ (Json.obstacle?_of_document hv)
    rw [nesting_nested] at hnesting
    omega

end CodeAtlas
