/-
CodeAtlas.Proofs.Text.Classes — classes of characters, and what they take off a text.

A class is given by ranges of code points, so two classes have nothing in common if their
ranges lie apart (`inRanges_eq_false_of_apart`). That is how it is known that what passes for
a digit is no blank (`isBlank_of_isDigitLike`) and has no other capital form
(`upperChar_of_isSignOrDigit`).

Trimming takes the characters of a class off both ends of a text, and only these
(`exists_trim_eq`), so more of them at the ends change nothing (`trim_append`). Capital
letters come from letters: a text whose capital form has only signs and digits in it is that
form already (`upper_eq_self_of_upper`).
-/
import CodeAtlas.Text.Case
import CodeAtlas.Text.Numeral
import CodeAtlas.Proofs.Text.Split

namespace CodeAtlas.Text

/-! ## Ranges -/

/-- What holds of the characters of ASCII, one by one, holds of a character in ASCII. -/
theorem of_ascii {p : Char → Prop} (h : ∀ n, n < 128 → p (Char.ofNat n)) {c : Char}
    (hc : c.toNat < 128) : p c :=
  Char.ofNat_toNat c ▸ h c.toNat hc

def apart (ranges others : List (Nat × Nat)) : Bool :=
  ranges.all fun r => others.all fun o => r.2 < o.1 || o.2 < r.1

/-- Ranges that do not meet have no code point in common. -/
theorem inRanges_eq_false_of_apart {ranges others : List (Nat × Nat)}
    (h : apart ranges others = true) {n : Nat} (hn : inRanges ranges n = true) :
    inRanges others n = false := by
  obtain ⟨r, hr, hrn⟩ := List.any_eq_true.mp hn
  rw [inRanges, List.any_eq_false]
  intro o ho hon
  have hapart := List.all_eq_true.mp (List.all_eq_true.mp h r hr) o ho
  simp only [Bool.and_eq_true, Bool.or_eq_true, decide_eq_true_eq] at hrn hon hapart
  omega

/-! ## Digits -/

/-- The code points of all that passes for a digit. -/
def digitRanges : List (Nat × Nat) := decimalZeros.map (fun z => (z, z + 9)) ++ digitMarks

/-- The ranges hold every digit. -/
theorem inRanges_digitRanges {c : Char} (h : isDigitLike c = true) :
    inRanges digitRanges c.toNat = true := by
  rw [isDigitLike, Bool.or_eq_true] at h
  rw [inRanges, digitRanges, List.any_append, Bool.or_eq_true]
  refine h.imp_left fun hdecimal => ?_
  rw [decimalValue?] at hdecimal
  split at hdecimal
  · next z hz =>
    have hmem := List.mem_of_find?_eq_some hz
    have hrange := List.find?_some hz
    simp only [Bool.and_eq_true, decide_eq_true_eq] at hrange
    refine List.any_eq_true.mpr ⟨(z, z + 9), List.mem_map_of_mem hmem, ?_⟩
    simp only [Bool.and_eq_true, decide_eq_true_eq]
    omega
  · cases hdecimal

/-- No digit is blank. -/
theorem isBlank_of_isDigitLike {c : Char} (h : isDigitLike c = true) : isBlank c = false :=
  inRanges_eq_false_of_apart (by decide +kernel) (inRanges_digitRanges h)

theorem isLayout_of_isDigitLike {c : Char} (h : isDigitLike c = true) : isLayout c = false := by
  rw [isLayout, isBlank_of_isDigitLike h, Bool.false_and]

/-- What has a value as a digit is one. -/
theorem isDigitLike_of_isSome {c : Char} (h : (decimalValue? c).isSome = true) :
    isDigitLike c = true := by
  rw [isDigitLike, h, Bool.true_or]

/-! ## Capital letters -/

/-- A minus sign, or what passes for a digit. -/
def isSignOrDigit (c : Char) : Bool := c = '-' || isDigitLike c

theorem isBlank_of_isSignOrDigit {c : Char} (h : isSignOrDigit c = true) : isBlank c = false := by
  rw [isSignOrDigit, Bool.or_eq_true, decide_eq_true_eq] at h
  rcases h with rfl | hdigit
  · decide
  · exact isBlank_of_isDigitLike hdigit

/-- Within ASCII there are the minus sign and ten digits. -/
theorem isSignOrDigit_of_ascii {c : Char} (h : c.toNat < 128) :
    isSignOrDigit c = (c == '-' || c.isDigit) :=
  of_ascii (p := fun c => isSignOrDigit c = (c == '-' || c.isDigit)) (by decide +kernel) h

/-- Capitals leave signs and digits alone. -/
theorem upperChar_of_isSignOrDigit {c : Char} (h : isSignOrDigit c = true) :
    upperChar c = [c] := by
  rw [upperChar]
  split
  · next hascii =>
    rw [isSignOrDigit_of_ascii hascii] at h
    have hsame := of_ascii (p := fun c => (c == '-' || c.isDigit) = true → c.toUpper = c)
      (by decide +kernel) hascii h
    rw [hsame]
  · next hbeyond =>
    have hdigit : isDigitLike c = true := by
      rw [isSignOrDigit, Bool.or_eq_true, decide_eq_true_eq] at h
      refine h.resolve_left ?_
      rintro rfl
      exact hbeyond (by decide)
    have hapart : inRanges (foldedCapitals.map fun p => (p.1, p.1)) c.toNat = false :=
      inRanges_eq_false_of_apart (by decide +kernel) (inRanges_digitRanges hdigit)
    have hnone : (foldedCapitals.find? fun p => p.1 == c.toNat) = none := by
      rw [List.find?_eq_none]
      intro p hp hfound
      rw [inRanges, List.any_eq_false] at hapart
      refine hapart (p.1, p.1) (List.mem_map_of_mem hp) ?_
      rw [beq_iff_eq.mp hfound]
      simp
    rw [hnone]

theorem upper_eq_self {cs : List Char} (h : ∀ c ∈ cs, isSignOrDigit c = true) :
    upper cs = cs := by
  induction cs with
  | nil => rfl
  | cons c cs ih =>
    have hrest : cs.flatMap upperChar = cs := ih fun c hc => h c (List.mem_cons_of_mem _ hc)
    rw [upper, List.flatMap_cons, upperChar_of_isSignOrDigit (h c List.mem_cons_self), hrest]
    rfl

/-- No other character becomes a sign or a digit. -/
theorem isSignOrDigit_of_upperChar {c : Char} (h : ∀ d ∈ upperChar c, isSignOrDigit d = true) :
    isSignOrDigit c = true := by
  rw [upperChar] at h
  split at h
  · next hascii =>
    have hupper := h c.toUpper List.mem_cons_self
    have hascii' := of_ascii (p := fun c => c.toUpper.toNat < 128) (by decide +kernel) hascii
    rw [isSignOrDigit_of_ascii hascii'] at hupper
    rw [isSignOrDigit_of_ascii hascii]
    exact of_ascii (p := fun c => (c.toUpper == '-' || c.toUpper.isDigit) = true →
      (c == '-' || c.isDigit) = true) (by decide +kernel) hascii hupper
  · split at h
    · next p hp =>
      -- A letter that becomes letters of ASCII is no sign and no digit.
      have hletters : ∀ p ∈ foldedCapitals, p.2.toList.all isSignOrDigit = false := by
        decide +kernel
      have hall := hletters p (List.mem_of_find?_eq_some hp)
      rw [List.all_eq_true.mpr h] at hall
      cases hall
    · exact h c List.mem_cons_self

/-- What has only signs and digits in its capital form is that form. -/
theorem upper_eq_self_of_upper {cs : List Char} (h : ∀ d ∈ upper cs, isSignOrDigit d = true) :
    upper cs = cs := by
  refine upper_eq_self fun c hc => isSignOrDigit_of_upperChar fun d hd => ?_
  exact h d (List.mem_flatMap.mpr ⟨c, hc, hd⟩)

/-! ## Ends of texts -/

variable {p : Char → Bool} {c : Char} {cs : List Char}

theorem mem_dropWhile_iff (hc : p c = false) : c ∈ cs.dropWhile p ↔ c ∈ cs := by
  constructor
  · exact fun h => List.dropWhile_subset p h
  · intro h
    rw [← List.takeWhile_append_dropWhile (p := p) (l := cs)] at h
    rcases List.mem_append.mp h with htake | hdrop
    · have hall := List.all_eq_true.mp (List.all_takeWhile (p := p) (l := cs)) c htake
      rw [hc] at hall
      cases hall
    · exact hdrop

/-- Trimming takes away characters of its class only. -/
theorem mem_trim_iff (hc : p c = false) : c ∈ trim p cs ↔ c ∈ cs := by
  rw [trim, trimRight, List.mem_reverse, mem_dropWhile_iff hc, List.mem_reverse,
    mem_dropWhile_iff hc]

/-- Nothing is left where all characters are of the class. -/
theorem trim_eq_nil_iff : trim p cs = [] ↔ ∀ c ∈ cs, p c = true := by
  constructor
  · intro h c hc
    cases hp : p c with
    | true => rfl
    | false =>
      have hmem := (mem_trim_iff hp).mpr hc
      rw [h] at hmem
      exact absurd hmem List.not_mem_nil
  · intro h
    rw [trim, dropWhile_all h]
    rfl

/-- What is trimmed ends in no character of the class. -/
theorem getLast?_trim (p : Char → Bool) (cs : List Char) :
    ∀ c ∈ (trim p cs).getLast?, p c = false := by
  intro c hc
  rw [trim, trimRight, List.getLast?_reverse] at hc
  have hnot := List.head?_dropWhile_not p (cs.dropWhile p).reverse
  rw [Option.mem_def.mp hc] at hnot
  simpa using hnot

/-- A text is what is left of it when it is trimmed, between characters of the class. -/
theorem exists_trim_eq (p : Char → Bool) (cs : List Char) :
    ∃ front back, cs = front ++ trim p cs ++ back
      ∧ (∀ c ∈ front, p c = true) ∧ ∀ c ∈ back, p c = true := by
  refine ⟨cs.takeWhile p, ((cs.dropWhile p).reverse.takeWhile p).reverse, ?_, ?_, ?_⟩
  · rw [trim, trimRight, List.append_assoc, ← List.reverse_append,
      List.takeWhile_append_dropWhile, List.reverse_reverse, List.takeWhile_append_dropWhile]
  · exact List.all_eq_true.mp List.all_takeWhile
  · intro c hc
    exact List.all_eq_true.mp List.all_takeWhile c (List.mem_reverse.mp hc)

theorem trimRight_append {back : List Char} (hback : ∀ c ∈ back, p c = true) :
    trimRight p (cs ++ back) = trimRight p cs := by
  have hfront : ∀ c ∈ back.reverse, p c = true := fun c hc => hback c (List.mem_reverse.mp hc)
  rw [trimRight, List.reverse_append, List.dropWhile_append_of_pos hfront, trimRight]

/-- Characters of the class around a text make no difference to what is left of it. -/
theorem trim_append {front back : List Char} (hfront : ∀ c ∈ front, p c = true)
    (hback : ∀ c ∈ back, p c = true) : trim p (front ++ cs ++ back) = trim p cs := by
  rw [List.append_assoc, trim, List.dropWhile_append_of_pos hfront, List.dropWhile_append]
  split
  · -- Nothing is left of the text itself, so nothing is left behind it.
    next hempty => rw [dropWhile_all hback, trim, List.isEmpty_iff.mp hempty]
  · exact trimRight_append hback

theorem trim_eq_self (h : ∀ c ∈ cs, p c = false) : trim p cs = cs := by
  have hfirst : cs.dropWhile p = cs := dropWhile_stop fun c hc => h c (List.mem_of_mem_head? hc)
  have hlast : cs.reverse.dropWhile p = cs.reverse :=
    dropWhile_stop fun c hc => h c (List.mem_reverse.mp (List.mem_of_mem_head? hc))
  rw [trim, hfirst, trimRight, hlast, List.reverse_reverse]

end CodeAtlas.Text
