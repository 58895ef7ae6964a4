/-
CodeAtlas.Proofs.Url.Domain — what host names are written with.

Whatever script a host name is given in, its form in ASCII holds small letters,
digits, hyphens and points only (`isNameChar_of_ascii?`). There are three sources of
characters. A label of ASCII characters is checked as it stands, and of all the
characters that may stand in a label only those of `isNamePoint` are ASCII. The
numbers of the written form of a label are made of letters and digits. And a label that
already is in such a form has been read: its numbers were numbers, and the characters
before them belong to the label that was found.
-/
import CodeAtlas.Url.Domain.Basic
import CodeAtlas.Proofs.Text.Split
import CodeAtlas.Proofs.Traverse

namespace CodeAtlas.Url.Domain

def isNamePoint (n : Nat) : Bool := n == 45 || (48 ≤ n && n ≤ 57) || (97 ≤ n && n ≤ 122)

/-- A character of a host name. -/
def isNameChar (c : Char) : Bool := isNamePoint c.toNat || c = '.'

/-! ## Labels -/

/-- The letters within ASCII are the hyphen, the digits and the small letters. -/
theorem letterRun_ascii : ∀ r ∈ letterRuns,
    128 ≤ r.first ∨ (r.first = 45 ∧ r.last = 45) ∨ (r.first = 48 ∧ r.last = 57)
      ∨ (r.first = 97 ∧ r.last = 122) := by
  decide +kernel

theorem isNamePoint_of_isLetter {n : Nat} (h : isLetter n = true) (hn : n < asciiEnd) :
    isNamePoint n = true := by
  rw [isLetter, List.any_eq_true] at h
  obtain ⟨r, hr, h⟩ := h
  simp only [Bool.and_eq_true, decide_eq_true_eq] at h
  have hrun := letterRun_ascii r hr
  simp only [isNamePoint, Bool.or_eq_true, Bool.and_eq_true, beq_iff_eq, decide_eq_true_eq]
  rw [asciiEnd] at hn
  omega

/-- The characters that may stand in certain places only are not ASCII. -/
theorem isLetter_of_fits {before after : List Nat} {n : Nat} (h : fits before n after = true)
    (hn : n < asciiEnd) : isLetter n = true := by
  rw [asciiEnd] at hn
  simp only [fits, isArabicDigit, isPersianDigit, nonJoiner, joiner, Bool.or_eq_true,
    Bool.and_eq_true, beq_iff_eq, decide_eq_true_eq] at h
  rcases h with (((((((h | h) | h) | h) | h) | h) | h) | h) | h
  · exact h
  all_goals omega

theorem isNamePoint_of_allFit : ∀ {before label : List Nat}, allFit before label = true →
    ∀ n ∈ label, n < asciiEnd → isNamePoint n = true
  | _, [], _, n, hmem, _ => absurd hmem List.not_mem_nil
  | _, m :: label, h, n, hmem, hn => by
    rw [allFit, Bool.and_eq_true] at h
    rcases List.mem_cons.mp hmem with rfl | hmem
    · exact isNamePoint_of_isLetter (isLetter_of_fits h.1 hn) hn
    · exact isNamePoint_of_allFit h.2 n hmem hn

/-- The ASCII characters of a label are name characters. -/
theorem isNamePoint_of_isLabel {label : List Nat} (h : isLabel label = true) :
    ∀ n ∈ label, n < asciiEnd → isNamePoint n = true := by
  simp only [isLabel, Bool.and_eq_true] at h
  exact isNamePoint_of_allFit h.1.1.2

/-! ## Writing -/

theorem isNamePoint_digitChar : ∀ d, d < 36 → isNamePoint (digitChar d).toNat = true := by
  decide

theorem threshold_le (bias place : Nat) : threshold bias place ≤ 26 := by
  rw [threshold]
  omega

/-- A number is written with name characters. -/
theorem isNamePoint_numberText (bias place n : Nat) :
    ∀ c ∈ numberText bias place n, isNamePoint c.toNat = true := by
  fun_induction numberText bias place n with
  | case1 place n t hlt =>
    intro c hc
    have ht : t ≤ 26 := threshold_le bias place
    rw [List.mem_singleton.mp hc]
    exact isNamePoint_digitChar n (by omega)
  | case2 place n t hlt ih =>
    intro c hc
    have ht : t ≤ 26 := threshold_le bias place
    have hdigit : t + (n - t) % (digitBase - t) < 36 := by
      have := Nat.mod_lt (n - t) (show 0 < digitBase - t by rw [digitBase]; omega)
      rw [digitBase] at this ⊢
      omega
    rcases List.mem_cons.mp hc with rfl | hc
    · exact isNamePoint_digitChar _ hdigit
    · exact ih c hc

/-- All numbers that are written so far are made of letters and digits. -/
def Writing.IsPlain (w : Writing) : Prop := ∀ c ∈ w.numbers, isNamePoint c.toNat = true

/-- One pass over a code point keeps this. -/
theorem Writing.IsPlain.pass {ascii n m : Nat} {w : Writing} (h : w.IsPlain) :
    (Writing.pass ascii n w m).IsPlain := by
  rw [Writing.pass]
  split
  · exact h
  · split
    · intro c hc
      rcases List.mem_append.mp hc with hc | hc
      · exact h c hc
      · exact isNamePoint_numberText _ _ _ c hc
    · exact h

theorem Writing.IsPlain.foldl_pass (ascii n : Nat) : ∀ (label : List Nat) {w : Writing},
    w.IsPlain → (label.foldl (Writing.pass ascii n) w).IsPlain
  | [], _, h => h
  | _ :: label, _, h => by
    rw [List.foldl_cons]
    exact Writing.IsPlain.foldl_pass ascii n label h.pass

/-- So does the whole run. -/
theorem Writing.IsPlain.run (label : List Nat) (ascii : Nat) :
    ∀ (others : List Nat) (next : Nat) {w : Writing}, w.IsPlain →
      (Writing.run label ascii w next others).IsPlain
  | [], _, _, h => h
  | n :: others, next, w, h => by
    rw [Writing.run]
    have hstart : { w with delta := w.delta + (n - next) * (w.length + 1) }.IsPlain := h
    exact Writing.IsPlain.run label ascii others _ (hstart.foldl_pass ascii n label)

theorem toNat_ofNat : ∀ n, n < asciiEnd → (Char.ofNat n).toNat = n := by decide

/-- The ASCII form of a label is made of name characters. -/
theorem isNamePoint_punycode {label : List Nat} (h : isLabel label = true) :
    ∀ c ∈ punycode label, isNamePoint c.toNat = true := by
  intro c hc
  simp only [punycode, List.mem_append] at hc
  rcases hc with (hc | hc) | hc
  · obtain ⟨n, hn, rfl⟩ := List.mem_map.mp hc
    simp only [List.mem_filter, decide_eq_true_eq] at hn
    rw [toNat_ofNat n hn.2]
    exact isNamePoint_of_isLabel h n hn.1 hn.2
  · split at hc
    · exact absurd hc List.not_mem_nil
    · rw [List.mem_singleton.mp hc]
      decide
  · have hstart : (Writing.mk 0 firstBias (label.filter (· < asciiEnd)).length []).IsPlain :=
      fun c hc => absurd hc List.not_mem_nil
    exact hstart.run label _ _ _ c hc

/-! ## Reading -/

theorem isNamePoint_of_digitValue? {c : Char} {d : Nat} (h : digitValue? c = some d) :
    isNamePoint c.toNat = true := by
  simp only [digitValue?, Char.isDigit, Bool.and_eq_true, decide_eq_true_eq] at h
  simp only [isNamePoint, Bool.or_eq_true, Bool.and_eq_true, beq_iff_eq, decide_eq_true_eq]
  split at h
  · next hc => exact Or.inr hc
  · split at h
    · next hc => exact Or.inl (Or.inr hc)
    · cases h

/-- A number that was read is made of letters and digits. -/
theorem isNamePoint_of_readNumber (bias : Nat) :
    ∀ {cs rest : List Char} {place weight n m : Nat},
      readNumber bias place weight n cs = some (m, rest) →
      (∀ c ∈ rest, isNamePoint c.toNat = true) → ∀ c ∈ cs, isNamePoint c.toNat = true
  | [], _, _, _, _, _, h, _ => by simp [readNumber] at h
  | d :: cs, rest, place, weight, n, m, h, hrest => by
    rw [readNumber] at h
    split at h
    · cases h
    · next value hvalue =>
      intro c hc
      rcases List.mem_cons.mp hc with rfl | hc
      · exact isNamePoint_of_digitValue? hvalue
      · dsimp only at h
        split at h
        · cases h
          exact hrest c hc
        · exact isNamePoint_of_readNumber bias h hrest c hc

/-- The label that was found holds the characters it was begun with. -/
theorem mem_of_insertAll (isFirst : Bool) (bias n place : Nat) (label : List Nat)
    (cs : List Char) {found : List Nat}
    (h : insertAll isFirst bias n place label cs = some found) :
    (∀ c ∈ cs, isNamePoint c.toNat = true) ∧ ∀ m ∈ label, m ∈ found := by
  fun_induction insertAll isFirst bias n place label cs with
  | case1 isFirst bias n place label cs hempty =>
    cases h
    rw [List.isEmpty_iff.mp hempty]
    exact ⟨fun c hc => absurd hc List.not_mem_nil, fun m hm => hm⟩
  | case2 => cases h
  | case3 isFirst bias n place label cs hempty delta rest hread hlt places n' place' ih =>
    obtain ⟨hrest, hfound⟩ := ih h
    refine ⟨isNamePoint_of_readNumber bias hread hrest, fun m hm => hfound m ?_⟩
    rw [← List.take_append_drop place' label] at hm
    rcases List.mem_append.mp hm with hm | hm
    · exact List.mem_append_left _ hm
    · exact List.mem_append_right _ (List.mem_cons_of_mem _ hm)

/-- A form that was read: the numbers were numbers, and what stands before the last
hyphen is part of the label. -/
theorem isNamePoint_of_ofPunycode? {form : List Char} {label : List Nat}
    (hread : ofPunycode? form = some label)
    (hlabel : ∀ n ∈ label, n < asciiEnd → isNamePoint n = true)
    (hascii : ∀ c ∈ form, c.toNat < asciiEnd) : ∀ c ∈ form, isNamePoint c.toNat = true := by
  rw [ofPunycode?] at hread
  obtain ⟨hnumbers, hfound⟩ := mem_of_insertAll _ _ _ _ _ _ hread
  intro c hc
  by_cases hhyphen : '-' ∈ form
  · obtain ⟨front, numbers, rfl, hfree⟩ := Text.exists_last_mark hhyphen
    rw [Text.takeWhile_reverse_last hfree, List.reverse_reverse] at hnumbers hfound
    have hfront : (front ++ '-' :: numbers).take ((front ++ '-' :: numbers).length - numbers.length)
        = front ++ ['-'] := by
      rw [List.append_cons]
      refine List.take_left' ?_
      simp only [List.length_append, List.length_cons, List.length_nil]
      omega
    rw [hfront, List.dropLast_concat] at hfound
    rcases List.mem_append.mp hc with hfrontmem | hrest
    · have hmem : c.toNat ∈ label := hfound _ (List.mem_map_of_mem hfrontmem)
      exact hlabel _ hmem (hascii c hc)
    · rcases List.mem_cons.mp hrest with rfl | hrest
      · decide
      · exact hnumbers c hrest
  · rw [Text.takeWhile_reverse_of_not_mem hhyphen, List.reverse_reverse] at hnumbers
    exact hnumbers c hc

/-! ## Names -/

theorem isNamePoint_formMark : ∀ c ∈ formMark, isNamePoint c.toNat = true :=
  List.all_eq_true.mp (by decide)

/-- So is a label that is ASCII already. -/
theorem isNamePoint_of_isAsciiLabel {label : List Char} (h : isAsciiLabel label = true)
    (hascii : ∀ c ∈ label, c.toNat < asciiEnd) : ∀ c ∈ label, isNamePoint c.toNat = true := by
  rw [isAsciiLabel] at h
  split at h
  · next hmark =>
    obtain ⟨form, rfl⟩ := List.isPrefixOf_iff_prefix.mp hmark
    simp only [List.drop_left, Bool.and_eq_true, Option.any_eq_true] at h
    obtain ⟨-, points, hread, hlabel⟩ := h
    have hform := isNamePoint_of_ofPunycode? hread (isNamePoint_of_isLabel hlabel)
      fun c hc => hascii c (List.mem_append_right _ hc)
    intro c hc
    exact (List.mem_append.mp hc).elim (isNamePoint_formMark c) (hform c)
  · intro c hc
    exact isNamePoint_of_isLabel h _ (List.mem_map_of_mem hc) (hascii c hc)

/-- So is every label that is written. -/
theorem isNamePoint_of_writtenLabel? {label written : List Char}
    (h : writtenLabel? label = some written) : ∀ c ∈ written, isNamePoint c.toNat = true := by
  rw [writtenLabel?] at h
  split at h
  · next hascii =>
    obtain ⟨hfine, hwritten⟩ := Option.ite_none_right_eq_some.mp h
    cases hwritten
    rw [Bool.and_eq_true] at hfine
    rw [List.all_map, List.all_eq_true] at hascii
    exact isNamePoint_of_isAsciiLabel hfine.1 fun c hc => of_decide_eq_true (hascii c hc)
  · obtain ⟨hfine, hwritten⟩ := Option.ite_none_right_eq_some.mp h
    cases hwritten
    rw [Bool.and_eq_true] at hfine
    intro c hc
    exact (List.mem_append.mp hc).elim (isNamePoint_formMark c) (isNamePoint_punycode hfine.1 c)

/-- A host name in ASCII is made of small letters, digits, hyphens and points. -/
theorem isNameChar_of_ascii? {host name : List Char} (h : ascii? host = some name) :
    ∀ c ∈ name, isNameChar c = true := by
  rw [ascii?] at h
  obtain ⟨-, h⟩ := Option.ite_none_left_eq_some.mp h
  split at h
  · cases h
  · next written hwritten =>
    obtain ⟨-, hname⟩ := Option.ite_none_right_eq_some.mp h
    cases hname
    intro c hc
    rw [isNameChar, Bool.or_eq_true, decide_eq_true_eq]
    rcases List.mem_append.mp hc with hc | hc
    · rcases Text.mem_joinWith hc with rfl | ⟨piece, hpiece, hc⟩
      · exact Or.inr rfl
      · obtain ⟨label, -, hlabel⟩ := exists_of_mem_mapM hwritten piece hpiece
        exact Or.inl (isNamePoint_of_writtenLabel? hlabel c hc)
    · split at hc
      · exact Or.inr (List.mem_singleton.mp hc)
      · exact absurd hc List.not_mem_nil

end CodeAtlas.Url.Domain
