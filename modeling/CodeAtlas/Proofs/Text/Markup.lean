/-
CodeAtlas.Proofs.Text.Markup — markup is what is fixed, not what is put in.

A page is fixed texts with other texts put in behind them (`fill`). Two things
about a text that is put in matter. It has no angle bracket (`IsAngleFree`), so
all angle brackets of the page are those of the fixed texts
(`filter_isAngle_fill`). And a mark that begins with an angle bracket, such as
the opening of an element, cannot begin in it, so all occurrences of the mark
are in the fixed texts too, unless one of them breaks off inside the mark
(`occurrences_fill`).

Escaped text has no angle bracket, and neither has script text.
-/
import CodeAtlas.Text.Markup

namespace CodeAtlas.Text

/-! ## Angle brackets -/

def isAngle (c : Char) : Bool := c = '<' || c = '>'

def IsAngleFree (cs : List Char) : Prop := ∀ c ∈ cs, isAngle c = false

instance (cs : List Char) : Decidable (IsAngleFree cs) :=
  List.decidableBAll (fun c => isAngle c = false) cs

theorem isAngleFree_flatMap {f : Char → List Char} (h : ∀ c, IsAngleFree (f c))
    (cs : List Char) : IsAngleFree (cs.flatMap f) := by
  intro c hc
  obtain ⟨a, -, ha⟩ := List.mem_flatMap.mp hc
  exact h a c ha

theorem filter_isAngle_of_free {cs : List Char} (h : IsAngleFree cs) :
    cs.filter isAngle = [] := by
  rw [List.filter_eq_nil_iff]
  intro c hc
  simp [h c hc]

/-- Escaped text has no brackets. -/
theorem isAngleFree_escape (cs : List Char) : IsAngleFree (escape cs) := by
  apply isAngleFree_flatMap
  intro c
  unfold escapeChar
  split
  · decide
  · decide
  · decide
  · decide
  · decide
  · intro a ha
    rw [List.mem_singleton.mp ha]
    simp_all [isAngle]

/-! ## Script text -/

/-- A character that may not stand as it is in a script. -/
def isScriptSign (c : Char) : Bool := c = '<' || c = '>' || c = '&'

theorem isScriptSign_eq_false {p : Char → Bool} {c : Char} (hc : p c = true)
    (hless : p '<' = false) (hgreater : p '>' = false) (hand : p '&' = false) :
    isScriptSign c = false := by
  rw [Bool.eq_false_iff]
  intro hsign
  simp only [isScriptSign, Bool.or_eq_true, decide_eq_true_eq] at hsign
  rcases hsign with (rfl | rfl) | rfl
  · exact absurd hc (by simp [hless])
  · exact absurd hc (by simp [hgreater])
  · exact absurd hc (by simp [hand])

/-- The characters of the escapes in script text. -/
def scriptEscapes : List Char :=
  "\\u003E".toList ++ "\\u003C".toList ++ "\\u0026".toList

/-- Other characters stand as they are. -/
theorem scriptChar_of_not_sign {c : Char} (h : isScriptSign c = false) :
    scriptChar c = [c] := by
  unfold scriptChar
  split
  · exact absurd h (by decide)
  · exact absurd h (by decide)
  · exact absurd h (by decide)
  · rfl

/-- What stands for a character is the character itself, or belongs to an escape. -/
theorem mem_scriptChar {a c : Char} (h : c ∈ scriptChar a) :
    (c = a ∧ isScriptSign a = false) ∨ c ∈ scriptEscapes := by
  unfold scriptChar at h
  split at h
  · exact Or.inr (List.mem_append_left _ (List.mem_append_left _ h))
  · exact Or.inr (List.mem_append_left _ (List.mem_append_right _ h))
  · exact Or.inr (List.mem_append_right _ h)
  · rw [List.mem_singleton] at h
    subst h
    refine Or.inl ⟨rfl, ?_⟩
    simp_all [isScriptSign]

/-- A character of safe text was there before, or belongs to an escape. -/
theorem mem_scriptSafe {cs : List Char} {c : Char} (h : c ∈ scriptSafe cs) :
    (c ∈ cs ∧ isScriptSign c = false) ∨ c ∈ scriptEscapes := by
  obtain ⟨a, ha, hc⟩ := List.mem_flatMap.mp h
  rcases mem_scriptChar hc with ⟨rfl, hsign⟩ | hescape
  · exact Or.inl ⟨ha, hsign⟩
  · exact Or.inr hescape

/-- Script text has no character that may not stand in a script. -/
theorem not_isScriptSign_of_mem {cs : List Char} {c : Char} (h : c ∈ scriptSafe cs) :
    isScriptSign c = false := by
  rcases mem_scriptSafe h with ⟨-, hsign⟩ | hescape
  · exact hsign
  · have hall : scriptEscapes.all (fun c => !isScriptSign c) = true := by decide
    simpa using List.all_eq_true.mp hall c hescape

theorem isAngle_eq_false {c : Char} (h : isScriptSign c = false) : isAngle c = false := by
  simp only [isScriptSign, Bool.or_eq_false_iff] at h
  simp only [isAngle, Bool.or_eq_false_iff]
  exact h.1

/-- Safe text has no brackets. -/
theorem isAngleFree_scriptSafe (cs : List Char) : IsAngleFree (scriptSafe cs) :=
  fun _ hc => isAngle_eq_false (not_isScriptSign_of_mem hc)

/-- A text without signs is its own script text. -/
theorem scriptSafe_of_free {cs : List Char} (h : ∀ c ∈ cs, isScriptSign c = false) :
    scriptSafe cs = cs := by
  induction cs with
  | nil => rfl
  | cons c cs ih =>
    have htail := ih fun a ha => h a (List.mem_cons_of_mem c ha)
    rw [scriptSafe] at htail ⊢
    rw [List.flatMap_cons, htail, scriptChar_of_not_sign (h c List.mem_cons_self)]
    rfl

theorem scriptSafe_append (as bs : List Char) :
    scriptSafe (as ++ bs) = scriptSafe as ++ scriptSafe bs :=
  List.flatMap_append

/-! ## Occurrences -/

def occurrences (mark : List Char) : List Char → Nat
  | [] => 0
  | c :: cs => (if mark.isPrefixOf (c :: cs) then 1 else 0) + occurrences mark cs

/-- The text does not break off inside the mark: no end of it is a beginning of the
mark, unless the mark is complete. -/
def isClosedFor (mark : List Char) : List Char → Bool
  | [] => true
  | c :: cs =>
      (mark.isPrefixOf (c :: cs) || !(c :: cs).isPrefixOf mark) && isClosedFor mark cs

def occurrencesIn (mark : List Char) : List (List Char) → Nat
  | [] => 0
  | text :: texts => occurrences mark text + occurrencesIn mark texts

theorem occurrencesIn_append (mark : List Char) (front back : List (List Char)) :
    occurrencesIn mark (front ++ back) = occurrencesIn mark front + occurrencesIn mark back := by
  induction front with
  | nil => simp [occurrencesIn]
  | cons text front ih => rw [List.cons_append, occurrencesIn, occurrencesIn, ih, Nat.add_assoc]

/-- What follows a closed text completes no mark that begins in it. -/
theorem occurrences_append {mark front : List Char} (h : isClosedFor mark front = true)
    (rest : List Char) :
    occurrences mark (front ++ rest) = occurrences mark front + occurrences mark rest := by
  induction front with
  | nil => simp [occurrences]
  | cons c cs ih =>
    simp only [isClosedFor, Bool.and_eq_true] at h
    have hsame : mark.isPrefixOf (c :: cs ++ rest) = mark.isPrefixOf (c :: cs) := by
      rw [Bool.eq_iff_iff, List.isPrefixOf_iff_prefix, List.isPrefixOf_iff_prefix]
      constructor
      · intro hmark
        rcases List.prefix_or_prefix_of_prefix hmark (List.prefix_append _ rest) with hin | hover
        · exact hin
        · have hfirst := h.1
          rw [List.isPrefixOf_iff_prefix.mpr hover, Bool.not_true, Bool.or_false] at hfirst
          exact List.isPrefixOf_iff_prefix.mp hfirst
      · intro hmark
        exact hmark.trans (List.prefix_append _ rest)
    rw [List.cons_append] at hsame ⊢
    rw [occurrences, occurrences, hsame, ih h.2, Nat.add_assoc]

/-- A mark does not begin in a text without its first character. -/
theorem occurrences_append_of_not_mem {c : Char} {mark front : List Char} (h : c ∉ front)
    (rest : List Char) :
    occurrences (c :: mark) (front ++ rest) = occurrences (c :: mark) rest := by
  induction front with
  | nil => rfl
  | cons a front ih =>
    rw [List.mem_cons, not_or] at h
    rw [List.cons_append, occurrences, ih h.2]
    simp [List.isPrefixOf, h.1]

/-! ## Filling in -/

/-- Fixed texts, each with what is put in behind it. -/
def fill (slots : List (List Char × List Char)) : List Char :=
  slots.flatMap fun slot => slot.1 ++ slot.2

/-- What is put in adds no brackets to those of the fixed texts. -/
theorem filter_isAngle_fill {slots : List (List Char × List Char)}
    (h : ∀ slot ∈ slots, IsAngleFree slot.2) :
    (fill slots).filter isAngle = slots.flatMap fun slot => slot.1.filter isAngle := by
  induction slots with
  | nil => rfl
  | cons slot slots ih =>
    have hslot := filter_isAngle_of_free (h slot List.mem_cons_self)
    have hrest := ih fun s hs => h s (List.mem_cons_of_mem slot hs)
    rw [fill] at hrest ⊢
    rw [List.flatMap_cons, List.flatMap_cons, List.filter_append, List.filter_append, hslot,
      hrest, List.append_nil]

/-- What is put in adds no marks either, if the fixed texts do not break off inside one. -/
theorem occurrences_fill {mark : List Char} {slots : List (List Char × List Char)}
    (hmark : mark.head? = some '<') (hfree : ∀ slot ∈ slots, IsAngleFree slot.2)
    (hclosed : ∀ slot ∈ slots, isClosedFor mark slot.1 = true) :
    occurrences mark (fill slots) = occurrencesIn mark (slots.map Prod.fst) := by
  obtain ⟨m, rfl⟩ : ∃ m, mark = '<' :: m := List.head?_eq_some_iff.mp hmark
  induction slots with
  | nil => rfl
  | cons slot slots ih =>
    have hnot : '<' ∉ slot.2 := by
      intro hmem
      exact absurd (hfree slot List.mem_cons_self '<' hmem) (by decide)
    have hrest := ih (fun s hs => hfree s (List.mem_cons_of_mem slot hs))
      (fun s hs => hclosed s (List.mem_cons_of_mem slot hs))
    rw [fill] at hrest ⊢
    rw [List.flatMap_cons, List.append_assoc,
      occurrences_append (hclosed slot List.mem_cons_self), occurrences_append_of_not_mem hnot,
      hrest, List.map_cons, occurrencesIn]

end CodeAtlas.Text
