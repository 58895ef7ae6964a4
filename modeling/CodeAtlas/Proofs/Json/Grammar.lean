/-
CodeAtlas.Proofs.Json.Grammar — which texts are JSON.

`IsJson t` is the grammar of RFC 8259, as it stands there: white space around one value, six
kinds of values, strings without control characters, numbers by `IsNumber`. It
says nothing about meaning, so it has room for texts that `Spells` leaves out: numbers with
a fraction or an exponent, names that repeat, and surrogates that stand alone. The values are
given for any condition on numbers (`IsValue`), so that a text can also be asked to keep to
numbers of some size.

To show that a text is not JSON, one would have to look at all the ways to take it apart.
`scan` makes that easier. It goes through a text from left to right and keeps track of strings
only, and it passes every text of the grammar (`IsDocument.scan_eq`). Where it stops, there is
none: at a control character, at a capital N or I outside of strings, at anything outside of
strings that is not ASCII.
-/
import CodeAtlas.Proofs.Json.Script

namespace CodeAtlas.Json

/-! ## Strings -/

def isHexDigit (c : Char) : Bool :=
  c.isDigit || ('a' ≤ c && c ≤ 'f') || ('A' ≤ c && c ≤ 'F')

/-- The characters that can stand behind a backslash by themselves. -/
def escapeLetters : List Char := ['"', '\\', '/', 'b', 'f', 'n', 'r', 't']

/-- One character of a string: as it is, behind a backslash, or by number. -/
inductive IsCharacter : List Char → Prop
  | plain {c : Char} (hc : 32 ≤ c.toNat) (hq : c ≠ '"') (hb : c ≠ '\\') : IsCharacter [c]
  | escape {e : Char} (he : e ∈ escapeLetters) : IsCharacter ['\\', e]
  | unit {x₁ x₂ x₃ x₄ : Char} (h : ∀ x ∈ [x₁, x₂, x₃, x₄], isHexDigit x = true) :
      IsCharacter ['\\', 'u', x₁, x₂, x₃, x₄]

/-- The characters of a string, between its quotes. -/
inductive IsCharacters : List Char → Prop
  | nil : IsCharacters []
  | cons {t ts : List Char} (h : IsCharacter t) (hs : IsCharacters ts) : IsCharacters (t ++ ts)

inductive IsString : List Char → Prop
  | mk {t : List Char} (h : IsCharacters t) : IsString ('"' :: (t ++ ['"']))

/-! ## Values -/

mutual

/-- A value in which every number meets a condition. -/
inductive IsValue (admits : List Char → Prop) : List Char → Prop
  | null : IsValue admits "null".toList
  | bool (b : Bool) : IsValue admits (if b then "true" else "false").toList
  | number {t : List Char} (h : IsNumber t) (ht : admits t) : IsValue admits t
  | string {t : List Char} (h : IsString t) : IsValue admits t
  | emptyArray {w : List Char} (hw : IsPad w) : IsValue admits ('[' :: (w ++ [']']))
  | array {w t : List Char} (hw : IsPad w) (h : IsItems admits t) : IsValue admits ('[' :: (w ++ t))
  | emptyObject {w : List Char} (hw : IsPad w) : IsValue admits ('\x7b' :: (w ++ ['\x7d']))
  | object {w t : List Char} (hw : IsPad w) (h : IsFields admits t) :
      IsValue admits ('\x7b' :: (w ++ t))

/-- The items of an array, from the first one to the closing bracket. -/
inductive IsItems (admits : List Char → Prop) : List Char → Prop
  | last {t w : List Char} (h : IsValue admits t) (hw : IsPad w) :
      IsItems admits (t ++ (w ++ [']']))
  | cons {t ts w w' : List Char} (h : IsValue admits t) (hw : IsPad w) (hw' : IsPad w')
      (hs : IsItems admits ts) : IsItems admits (t ++ (w ++ ',' :: (w' ++ ts)))

/-- The fields of an object, from the first one to the closing brace. -/
inductive IsFields (admits : List Char → Prop) : List Char → Prop
  | last {n t u u' w : List Char} (hn : IsString n) (hu : IsPad u) (hu' : IsPad u')
      (h : IsValue admits t) (hw : IsPad w) :
      IsFields admits (n ++ (u ++ ':' :: (u' ++ (t ++ (w ++ ['\x7d'])))))
  | cons {n t ts u u' w w' : List Char} (hn : IsString n) (hu : IsPad u) (hu' : IsPad u')
      (h : IsValue admits t) (hw : IsPad w) (hw' : IsPad w') (hs : IsFields admits ts) :
      IsFields admits (n ++ (u ++ ':' :: (u' ++ (t ++ (w ++ ',' :: (w' ++ ts))))))

end

/-- A value with white space around it. -/
inductive IsDocument (admits : List Char → Prop) : List Char → Prop
  | mk {w t w' : List Char} (hw : IsPad w) (h : IsValue admits t) (hw' : IsPad w') :
      IsDocument admits (w ++ (t ++ w'))

def IsJson (t : List Char) : Prop := IsDocument (fun _ => True) t

/-! ## First characters -/

variable {admits : List Char → Prop}

/-- A value begins neither with white space nor with a closing bracket. -/
theorem IsValue.head {t : List Char} (h : IsValue admits t) :
    ∃ c cs, t = c :: cs ∧ isSpace c = false ∧ c ≠ ']' := by
  cases h with
  | null => exact ⟨'n', _, rfl, by decide, by decide⟩
  | bool b =>
    cases b with
    | false => exact ⟨'f', _, rfl, by decide, by decide⟩
    | true => exact ⟨'t', _, rfl, by decide, by decide⟩
  | number h _ =>
    obtain ⟨c, cs, rfl, hc⟩ := h.head
    exact ⟨c, cs, rfl, not_isSpace_of_numberHead hc, ne_of_numberHead hc (by decide) (by decide)⟩
  | string h => cases h; exact ⟨'"', _, rfl, by decide, by decide⟩
  | emptyArray _ => exact ⟨'[', _, rfl, by decide, by decide⟩
  | array _ _ => exact ⟨'[', _, rfl, by decide, by decide⟩
  | emptyObject _ => exact ⟨'\x7b', _, rfl, by decide, by decide⟩
  | object _ _ => exact ⟨'\x7b', _, rfl, by decide, by decide⟩

/-- Items start with the sign of a value. -/
theorem IsItems.head {t : List Char} (h : IsItems admits t) :
    ∃ c cs, t = c :: cs ∧ isSpace c = false ∧ c ≠ ']' := by
  cases h with
  | last h _ =>
    obtain ⟨c, cs, rfl, hc⟩ := h.head
    exact ⟨c, _, rfl, hc⟩
  | cons h _ _ _ =>
    obtain ⟨c, cs, rfl, hc⟩ := h.head
    exact ⟨c, _, rfl, hc⟩

/-- Fields start with the quote of a name. -/
theorem IsFields.head {t : List Char} (h : IsFields admits t) : ∃ cs, t = '"' :: cs := by
  cases h with
  | last hn _ _ _ _ => cases hn; exact ⟨_, rfl⟩
  | cons hn _ _ _ _ _ _ => cases hn; exact ⟨_, rfl⟩

/-! ## A scanner -/

/-- Where in a text a character stands. -/
inductive Place where
  | outside
  | inside
  | escaped
  deriving DecidableEq

def isOuter (c : Char) : Bool :=
  c ≠ '"' && (isSpace c || (isPlain c && c ≠ 'N' && c ≠ 'I'))

/-- The place behind a character, if the character can stand at the place. -/
def Place.step : Place → Char → Option Place
  | .outside, c =>
      if c = '"' then some .inside else if isOuter c then some .outside else none
  | .inside, c =>
      if c = '"' then some .outside
      else if c = '\\' then some .escaped
      else if 32 ≤ c.toNat then some .inside
      else none
  | .escaped, c => if 32 ≤ c.toNat then some .inside else none

/-- The place behind a text. -/
def scan (place : Place) (cs : List Char) : Option Place := cs.foldlM Place.step place

/-- A text is scanned piece by piece. -/
theorem scan_append (place : Place) (as bs : List Char) :
    scan place (as ++ bs) = (scan place as).bind fun next => scan next bs :=
  List.foldlM_append ..

theorem scan_cons (place : Place) (c : Char) (cs : List Char) :
    scan place (c :: cs) = (place.step c).bind fun next => scan next cs :=
  List.foldlM_cons ..

theorem scan_append_of_some {place next : Place} {as : List Char} (h : scan place as = some next)
    (bs : List Char) : scan place (as ++ bs) = scan next bs := by
  rw [scan_append, h, Option.bind_some]

/-- Characters that stand outside of strings leave the scan outside. -/
theorem scan_outer {cs : List Char} (h : ∀ c ∈ cs, isOuter c = true) :
    scan .outside cs = some .outside := by
  induction cs with
  | nil => rfl
  | cons c cs ih =>
    obtain ⟨hc, hcs⟩ := List.forall_mem_cons.mp h
    have hquote : c ≠ '"' := by
      rintro rfl
      exact absurd hc (by decide)
    rw [scan_cons, Place.step, if_neg hquote, if_pos hc]
    exact ih hcs

theorem scan_outer_cons {c : Char} (hc : isOuter c = true) (cs : List Char) :
    scan .outside (c :: cs) = scan .outside cs :=
  scan_append_of_some (scan_outer fun _ ha => List.mem_singleton.mp ha ▸ hc) cs

/-! ## What the scanner passes -/

theorem scan_pad {w : List Char} (h : IsPad w) : scan .outside w = some .outside := by
  refine scan_outer fun c hc => ?_
  have hspace := h c hc
  simp only [isSpace, Bool.or_eq_true, decide_eq_true_eq] at hspace
  rcases hspace with ((rfl | rfl) | rfl) | rfl
  all_goals decide

theorem isOuter_of_isDigit {c : Char} (h : c.isDigit = true) : isOuter c = true := by
  have hrange := Number.toNat_of_isDigit h
  have hne : ∀ d : Char, 58 ≤ d.toNat ∨ d.toNat < 48 → c ≠ d := by
    rintro d hd rfl
    omega
  have hplain := isPlain_of_isNumeralChar (Number.isNumeralChar_of_isDigit h)
  simp [isOuter, hplain, hne '"' (by decide), hne 'N' (by decide), hne 'I' (by decide)]

/-- The characters of a number stand outside of strings. -/
theorem IsNumber.isOuter {t : List Char} (h : IsNumber t) : ∀ c ∈ t, isOuter c = true := by
  have hdigits : ∀ {ds : List Char}, IsDigits ds → ∀ c ∈ ds, Json.isOuter c = true :=
    fun h c hc => isOuter_of_isDigit (h.digit c hc)
  have hmagnitude : ∀ {t : List Char}, IsMagnitude t → ∀ c ∈ t, Json.isOuter c = true := by
    intro t ht c hc
    cases ht with
    | mk hw hf he =>
      simp only [List.mem_append] at hc
      rcases hc with hc | hc | hc
      · cases hw with
        | zero => rw [List.mem_singleton.mp hc]; decide
        | digits _ h => exact hdigits h c hc
      · cases hf with
        | none => cases hc
        | digits h =>
          rcases List.mem_cons.mp hc with rfl | hc
          · decide
          · exact hdigits h c hc
      · cases he with
        | none => cases hc
        | digits he h =>
          rcases List.mem_cons.mp hc with rfl | hc
          · rcases he with rfl | rfl <;> decide
          · exact hdigits h c hc
        | signed he hs h =>
          rcases List.mem_cons.mp hc with rfl | hc
          · rcases he with rfl | rfl <;> decide
          · rcases List.mem_cons.mp hc with rfl | hc
            · rcases hs with rfl | rfl <;> decide
            · exact hdigits h c hc
  cases h with
  | positive h => exact hmagnitude h
  | negative h => exact List.forall_mem_cons.mpr ⟨by decide, hmagnitude h⟩

/-- Inside of a string nearly every character may stand. -/
theorem step_inside {c : Char} (hc : 32 ≤ c.toNat) (hq : c ≠ '"') (hb : c ≠ '\\') :
    Place.inside.step c = some .inside := by
  rw [Place.step, if_neg hq, if_neg hb, if_pos hc]

theorem step_hexDigit {c : Char} (h : isHexDigit c = true) :
    Place.inside.step c = some .inside := by
  have hrange : 48 ≤ c.toNat ∧ c.toNat < 58 ∨ 97 ≤ c.toNat ∧ c.toNat ≤ 102 ∨
      65 ≤ c.toNat ∧ c.toNat ≤ 70 := by
    simp only [isHexDigit, Bool.or_eq_true, Bool.and_eq_true, decide_eq_true_eq] at h
    rcases h with (hdigit | ⟨ha, hf⟩) | ⟨ha, hf⟩
    · exact Or.inl (Number.toNat_of_isDigit hdigit)
    · exact Or.inr (Or.inl ⟨ha, hf⟩)
    · exact Or.inr (Or.inr ⟨ha, hf⟩)
  refine step_inside (by omega) ?_ ?_
  · rintro rfl
    simp at hrange
  · rintro rfl
    simp at hrange

/-- A character of a string leaves the scan inside, in each of its spellings. -/
theorem IsCharacter.scan_eq {t : List Char} (h : IsCharacter t) :
    scan .inside t = some .inside := by
  cases h with
  | plain hc hq hb => rw [scan_cons, step_inside hc hq hb]; rfl
  | escape he =>
    have hletter : escapeLetters.all (32 ≤ ·.toNat) = true := by decide
    have hvisible := of_decide_eq_true (List.all_eq_true.mp hletter _ he)
    rw [scan_cons, show Place.inside.step '\\' = some .escaped from rfl, Option.bind_some,
      scan_cons, Place.step, if_pos hvisible]
    rfl
  | unit h =>
    simp only [List.forall_mem_cons] at h
    obtain ⟨h₁, h₂, h₃, h₄, -⟩ := h
    rw [scan_cons, show Place.inside.step '\\' = some .escaped from rfl, Option.bind_some,
      scan_cons, show Place.escaped.step 'u' = some .inside from rfl, Option.bind_some]
    simp only [scan_cons, step_hexDigit h₁, step_hexDigit h₂, step_hexDigit h₃, step_hexDigit h₄,
      Option.bind_some]
    rfl

theorem IsCharacters.scan_eq {t : List Char} (h : IsCharacters t) :
    scan .inside t = some .inside := by
  induction h with
  | nil => rfl
  | cons h _ ih => rw [scan_append_of_some h.scan_eq, ih]

/-- A string leads from outside to outside. -/
theorem IsString.scan_eq {t : List Char} (h : IsString t) :
    scan .outside t = some .outside := by
  cases h with
  | mk h =>
    rw [scan_cons, show Place.outside.step '"' = some .inside from rfl, Option.bind_some,
      scan_append_of_some h.scan_eq]
    rfl

mutual

/-- The scanner passes every value. -/
theorem IsValue.scan_eq : ∀ {t : List Char}, IsValue admits t → scan .outside t = some .outside
  | _, .null => rfl
  | _, .bool b => by cases b <;> rfl
  | _, .number h _ => scan_outer h.isOuter
  | _, .string h => h.scan_eq
  | _, .emptyArray hw => by
      rw [scan_outer_cons (by decide), scan_append_of_some (scan_pad hw)]
      rfl
  | _, .array hw h => by
      rw [scan_outer_cons (by decide), scan_append_of_some (scan_pad hw), h.scan_eq]
  | _, .emptyObject hw => by
      rw [scan_outer_cons (by decide), scan_append_of_some (scan_pad hw)]
      rfl
  | _, .object hw h => by
      rw [scan_outer_cons (by decide), scan_append_of_some (scan_pad hw), h.scan_eq]

/-- Items lead from outside to outside. -/
theorem IsItems.scan_eq : ∀ {t : List Char}, IsItems admits t → scan .outside t = some .outside
  | _, .last h hw => by
      rw [scan_append_of_some h.scan_eq, scan_append_of_some (scan_pad hw)]
      rfl
  | _, .cons h hw hw' hs => by
      rw [scan_append_of_some h.scan_eq, scan_append_of_some (scan_pad hw),
        scan_outer_cons (by decide), scan_append_of_some (scan_pad hw'), hs.scan_eq]

/-- Fields lead from outside to outside. -/
theorem IsFields.scan_eq : ∀ {t : List Char}, IsFields admits t → scan .outside t = some .outside
  | _, .last hn hu hu' h hw => by
      rw [scan_append_of_some hn.scan_eq, scan_append_of_some (scan_pad hu),
        scan_outer_cons (by decide), scan_append_of_some (scan_pad hu'),
        scan_append_of_some h.scan_eq, scan_append_of_some (scan_pad hw)]
      rfl
  | _, .cons hn hu hu' h hw hw' hs => by
      rw [scan_append_of_some hn.scan_eq, scan_append_of_some (scan_pad hu),
        scan_outer_cons (by decide), scan_append_of_some (scan_pad hu'),
        scan_append_of_some h.scan_eq, scan_append_of_some (scan_pad hw),
        scan_outer_cons (by decide), scan_append_of_some (scan_pad hw'), hs.scan_eq]

end

/-- A document can be scanned: it holds no character that stands nowhere in JSON. -/
theorem IsDocument.scan_eq {t : List Char} (h : IsDocument admits t) :
    scan .outside t = some .outside := by
  cases h with
  | mk hw h hw' =>
    rw [scan_append_of_some (scan_pad hw), scan_append_of_some h.scan_eq, scan_pad hw']

/-! ## Characters of a text -/

/-- There is no null character in a text of the grammar. -/
theorem IsDocument.null_not_mem {t : List Char} (h : IsDocument admits t) :
    Char.ofNat 0 ∉ t := by
  intro hmem
  obtain ⟨before, after, rfl⟩ := List.append_of_mem hmem
  have hnull : ∀ place, Place.step place (Char.ofNat 0) = none := by
    intro place
    cases place <;> decide
  have hscan := h.scan_eq
  rw [scan_append] at hscan
  obtain ⟨place, -, hplace⟩ := Option.bind_eq_some_iff.mp hscan
  rw [scan_cons, hnull place] at hplace
  cases hplace

/-- A text of the grammar does not begin with a byte order mark. -/
theorem IsDocument.head?_ne_mark {t : List Char} (h : IsDocument admits t) :
    t.head? ≠ some (Char.ofNat 0xFEFF) := by
  intro hhead
  obtain ⟨rest, rfl⟩ := List.head?_eq_some_iff.mp hhead
  have hscan := h.scan_eq
  rw [scan_cons, show Place.outside.step (Char.ofNat 0xFEFF) = none by decide] at hscan
  cases hscan

end CodeAtlas.Json
