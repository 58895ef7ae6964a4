/-
CodeAtlas.Proofs.Text.Percent — what percent-encoding leaves in a text.

Whatever the text, its encoded form holds only characters of the class that is kept,
as long as the class has the percent sign and the capital digits
(`keep_of_mem_percentEncode`). Encoding once more then changes nothing
(`percentEncode_of_keep`), which is why a component in normal form stays as it is.

A kept character that cuts a text cuts its encoded form in the same places
(`splitOn_percentEncode`).

Reading the bytes of an encoded form gives those of the text back, if the text has no percent
sign that was kept (`percentDecode_percentEncode`). What stands before a slash and what stands
behind it are read apart (`percentDecode_append_break`).
-/
import CodeAtlas.Text.Percent
import CodeAtlas.Proofs.Text.Split
import CodeAtlas.Proofs.Text.Utf8

namespace CodeAtlas.Text

variable {keep : Char → Bool}

/-- A kept character stands as it is. -/
theorem percentChar_of_keep {c : Char} (h : keep c = true) : percentChar keep c = [c] :=
  if_pos h

/-- A text of kept characters is its own encoded form. -/
theorem percentEncode_of_keep : ∀ {cs : List Char}, (∀ c ∈ cs, keep c = true) →
    percentEncode keep cs = cs
  | [], _ => rfl
  | c :: cs, h => by
    have hrest : percentEncode keep cs = cs :=
      percentEncode_of_keep fun c hc => h c (List.mem_cons_of_mem _ hc)
    rw [percentEncode] at hrest ⊢
    rw [List.flatMap_cons, percentChar_of_keep (h c List.mem_cons_self), hrest]
    rfl

/-- The class keeps what bytes are written with. -/
def KeepsBytes (keep : Char → Bool) : Prop :=
  keep '%' = true ∧ ∀ n, n < 16 → keep (capitalDigit n) = true

instance : Decidable (KeepsBytes keep) := inferInstanceAs (Decidable (_ ∧ _))

theorem keep_of_mem_percentByte (h : KeepsBytes keep) {b : UInt8} {c : Char}
    (hc : c ∈ percentByte b) : keep c = true := by
  have hb : b.toNat < 256 := b.toNat_lt
  simp only [percentByte, List.mem_cons, List.not_mem_nil, or_false] at hc
  rcases hc with rfl | rfl | rfl
  · exact h.1
  · exact h.2 _ (by omega)
  · exact h.2 _ (by omega)

/-- An encoded form holds characters that were kept, and those that bytes are written with. -/
theorem of_mem_percentEncode {q : Char → Bool} (hkeep : ∀ c, keep c = true → q c = true)
    (h : KeepsBytes q) {cs : List Char} {c : Char} (hc : c ∈ percentEncode keep cs) :
    q c = true := by
  rw [percentEncode, List.mem_flatMap] at hc
  obtain ⟨a, -, ha⟩ := hc
  rw [percentChar] at ha
  split at ha
  · next hkept =>
    rw [List.mem_singleton.mp ha]
    exact hkeep a hkept
  · obtain ⟨b, -, hb⟩ := List.mem_flatMap.mp ha
    exact keep_of_mem_percentByte h hb

/-- Encoded text is made of kept characters. -/
theorem keep_of_mem_percentEncode (h : KeepsBytes keep) {cs : List Char} {c : Char}
    (hc : c ∈ percentEncode keep cs) : keep c = true :=
  of_mem_percentEncode (fun _ hkept => hkept) h hc

/-! ## Pieces -/

/-- What is not kept is written with a percent sign in front. -/
theorem percentChar_of_not_keep {c : Char} (h : ¬ keep c = true) :
    ∃ rest, percentChar keep c = '%' :: rest := by
  obtain ⟨b, bs, hb⟩ := List.exists_cons_of_ne_nil (@String.utf8EncodeChar_ne_nil c)
  rw [percentChar, if_neg h, hb]
  exact ⟨_, rfl⟩

/-- Any other character leaves a percent sign. -/
theorem percent_mem_percentChar {c : Char} (h : ¬ keep c = true) : '%' ∈ percentChar keep c := by
  obtain ⟨rest, hrest⟩ := percentChar_of_not_keep h
  exact hrest ▸ List.mem_cons_self

/-- An encoded form that begins with anything but a percent sign is that of a text which begins
so. -/
theorem exists_of_percentEncode_eq_cons {cs rest : List Char} {c : Char} (hc : c ≠ '%')
    (h : percentEncode keep cs = c :: rest) :
    ∃ ds, cs = c :: ds ∧ percentEncode keep ds = rest := by
  cases cs with
  | nil => cases h
  | cons d ds =>
    have hcons : percentChar keep d ++ percentEncode keep ds = c :: rest := h
    by_cases hkeep : keep d = true
    · rw [percentChar_of_keep hkeep] at hcons
      obtain ⟨rfl, hrest⟩ := List.cons.inj hcons
      exact ⟨ds, rfl, hrest⟩
    · obtain ⟨more, hmore⟩ := percentChar_of_not_keep hkeep
      rw [hmore] at hcons
      exact absurd (List.cons.inj hcons).1.symm hc

/-- A first character that is no percent sign was the first one before. -/
theorem head?_of_percentEncode {cs : List Char} {c : Char} (hc : c ≠ '%')
    (h : (percentEncode keep cs).head? = some c) : cs.head? = some c := by
  obtain ⟨rest, hrest⟩ := List.head?_eq_some_iff.mp h
  obtain ⟨ds, rfl, -⟩ := exists_of_percentEncode_eq_cons hc hrest
  rfl

/-- Encoding makes no text shorter. -/
theorem length_le_percentEncode (cs : List Char) : cs.length ≤ (percentEncode keep cs).length := by
  induction cs with
  | nil => exact Nat.le_refl _
  | cons c cs ih =>
    have hchar : 0 < (percentChar keep c).length := by
      by_cases hkeep : keep c = true
      · rw [percentChar_of_keep hkeep]
        exact Nat.one_pos
      · obtain ⟨rest, hrest⟩ := percentChar_of_not_keep hkeep
        rw [hrest]
        exact Nat.succ_pos _
    have hcons : percentEncode keep (c :: cs) = percentChar keep c ++ percentEncode keep cs :=
      List.flatMap_cons
    rw [hcons, List.length_append, List.length_cons]
    omega

theorem percentEncode_eq_nil_iff {cs : List Char} : percentEncode keep cs = [] ↔ cs = [] := by
  constructor
  · intro h
    have hlength : cs.length ≤ (percentEncode keep cs).length := length_le_percentEncode cs
    rw [h] at hlength
    exact List.eq_nil_of_length_eq_zero (Nat.le_zero.mp hlength)
  · rintro rfl
    rfl

/-- An encoded form without a percent sign is the text itself. -/
theorem percentEncode_of_not_mem : ∀ {cs : List Char}, '%' ∉ percentEncode keep cs →
    percentEncode keep cs = cs
  | [], _ => rfl
  | c :: cs, h => by
    rw [percentEncode, List.flatMap_cons, List.mem_append, not_or] at h
    have hkeep : keep c = true := Classical.byContradiction fun hc =>
      h.1 (percent_mem_percentChar hc)
    have hrest : percentEncode keep cs = cs := percentEncode_of_not_mem h.2
    rw [percentEncode] at hrest ⊢
    rw [List.flatMap_cons, percentChar_of_keep hkeep, hrest]
    rfl

variable {sep : Char}

/-- No other character is encoded with a separator. -/
theorem not_mem_percentChar (hbytes : KeepsBytes (· ≠ sep)) {c : Char} (hc : c ≠ sep) :
    sep ∉ percentChar keep c := by
  intro hmem
  rw [percentChar] at hmem
  split at hmem
  · exact hc (List.mem_singleton.mp hmem).symm
  · obtain ⟨b, -, hb⟩ := List.mem_flatMap.mp hmem
    exact absurd rfl (of_decide_eq_true (keep_of_mem_percentByte hbytes hb))

/-- Encoding a text encodes its pieces. -/
theorem splitOn_percentEncode (hsep : keep sep = true) (hbytes : KeepsBytes (· ≠ sep)) :
    ∀ cs : List Char, splitOn sep (percentEncode keep cs) = (splitOn sep cs).map (percentEncode keep)
  | [] => rfl
  | c :: cs => by
    have ih := splitOn_percentEncode hsep hbytes cs
    have hcons : percentEncode keep (c :: cs) = percentChar keep c ++ percentEncode keep cs :=
      List.flatMap_cons
    rw [hcons, splitOn]
    split
    · next hc =>
      subst hc
      rw [percentChar_of_keep hsep, List.singleton_append, splitOn, if_pos rfl, ih]
      rfl
    · next hc =>
      obtain ⟨first, pieces, hfirst, hall⟩ :=
        splitOn_append_of_not_mem (percentEncode keep cs) (not_mem_percentChar hbytes hc)
      rw [hall]
      obtain ⟨first', pieces', hsplit⟩ := List.exists_cons_of_ne_nil (splitOn_ne_nil sep cs)
      rw [hfirst, hsplit, List.map_cons] at ih
      obtain ⟨hhead, htail⟩ := List.cons.inj ih
      rw [hsplit, List.map_cons, hhead, htail]
      rfl

/-! ## Reading back -/

/-- A byte that is no percent sign stands for itself. -/
theorem percentDecode_cons {b : UInt8} (h : b ≠ 0x25) (rest : List UInt8) :
    percentDecode (b :: rest) = b :: percentDecode rest := by
  match rest with
  | [] => rfl
  | [_] => rfl
  | _ :: _ :: _ => rw [percentDecode, if_neg h]

/-- Bytes without percent signs stand for themselves. -/
theorem percentDecode_append {bytes : List UInt8} (h : ∀ b ∈ bytes, b ≠ 0x25)
    (rest : List UInt8) : percentDecode (bytes ++ rest) = bytes ++ percentDecode rest := by
  induction bytes with
  | nil => rfl
  | cons b bytes ih =>
    rw [List.cons_append, percentDecode_cons (h b List.mem_cons_self),
      ih fun b hb => h b (List.mem_cons_of_mem _ hb), List.cons_append]

/-- So does any byte in front of one that is no digit. -/
theorem percentDecode_cons_of_none {a b : UInt8} (hb : hexByte? b = none) (rest : List UInt8) :
    percentDecode (a :: b :: rest) = a :: percentDecode (b :: rest) := by
  match rest with
  | [] => rfl
  | c :: rest =>
    rw [percentDecode, hb]
    exact ite_self _

theorem percentDecode_cons_cons_of_none {a b c : UInt8} (hc : hexByte? c = none)
    (rest : List UInt8) :
    percentDecode (a :: b :: c :: rest) = a :: percentDecode (b :: c :: rest) := by
  rw [percentDecode, hc]
  cases hexByte? b <;> exact ite_self _

/-- Reading goes on afresh behind a byte that is neither a percent sign nor a digit. -/
theorem percentDecode_append_break {b : UInt8} (hb : b ≠ 0x25) (hnone : hexByte? b = none)
    (ys : List UInt8) : ∀ xs : List UInt8,
    percentDecode (xs ++ b :: ys) = percentDecode (xs ++ [b]) ++ percentDecode ys
  | [] => percentDecode_cons hb ys
  | [a] => by
    rw [List.singleton_append, List.singleton_append, percentDecode_cons_of_none hnone,
      percentDecode_cons_of_none hnone, percentDecode_cons hb]
    rfl
  | [a, x] => by
    have ih := percentDecode_append_break hb hnone ys [x]
    simp only [List.cons_append, List.nil_append] at ih ⊢
    rw [percentDecode_cons_cons_of_none hnone, percentDecode_cons_cons_of_none hnone, ih]
    rfl
  | a :: x :: y :: xs => by
    have ih := percentDecode_append_break hb hnone ys xs
    have ih' := percentDecode_append_break hb hnone ys (x :: y :: xs)
    simp only [List.cons_append] at ih' ⊢
    rw [percentDecode, percentDecode, ih', ih]
    split
    · split <;> rfl
    · rfl

theorem utf8EncodeChar_capitalDigit {n : Nat} (h : n < 16) :
    ∃ b, String.utf8EncodeChar (capitalDigit n) = [b] ∧ hexByte? b = some n := by
  have hall : ∀ n, n < 16 → (capitalDigit n).toNat < 128
      ∧ hexByte? (UInt8.ofNat (capitalDigit n).toNat) = some n := by decide
  obtain ⟨hlt, hvalue⟩ := hall n h
  exact ⟨_, utf8EncodeChar_of_lt hlt, hvalue⟩

/-- An encoded byte is decoded to itself. -/
theorem percentDecode_percentByte (b : UInt8) (rest : List UInt8) :
    percentDecode (encodeUtf8 (percentByte b) ++ rest) = b :: percentDecode rest := by
  have hb : b.toNat < 256 := b.toNat_lt
  obtain ⟨high, hhigh, hhighValue⟩ := utf8EncodeChar_capitalDigit (show b.toNat / 16 < 16 by omega)
  obtain ⟨low, hlow, hlowValue⟩ := utf8EncodeChar_capitalDigit (show b.toNat % 16 < 16 by omega)
  have hbytes : encodeUtf8 (percentByte b) = [0x25, high, low] := by
    simp only [encodeUtf8, percentByte, List.flatMap_cons, List.flatMap_nil, hhigh, hlow]
    rfl
  have hvalue : UInt8.ofNat (b.toNat / 16 * 16 + b.toNat % 16) = b := by
    rw [Nat.div_add_mod']
    exact UInt8.ofNat_toNat
  rw [hbytes]
  simp only [List.cons_append, List.nil_append, percentDecode, if_true, hhighValue, hlowValue,
    hvalue]

theorem percentDecode_percentBytes (bytes rest : List UInt8) :
    percentDecode (encodeUtf8 (bytes.flatMap percentByte) ++ rest)
      = bytes ++ percentDecode rest := by
  induction bytes with
  | nil => rfl
  | cons b bytes ih =>
    rw [List.flatMap_cons, encodeUtf8_append, List.append_assoc, percentDecode_percentByte, ih,
      List.cons_append]

/-- No other character has the byte of the percent sign. -/
theorem byte_ne_percent {c : Char} (hc : c ≠ '%') {b : UInt8} (h : b ∈ String.utf8EncodeChar c) :
    b ≠ 0x25 := by
  rintro rfl
  have hnumber : c.toNat = '%'.toNat := by
    have hrange := byte_range h
    have hbyte : (0x25 : UInt8).toNat = '%'.toNat := rfl
    have hlt : '%'.toNat < 128 := by decide
    omega
  exact hc (by rw [← Char.ofNat_toNat c, hnumber, Char.ofNat_toNat])

/-- Reading undoes encoding, as long as no percent sign was kept. -/
theorem percentDecode_percentEncode {cs : List Char} (h : ∀ c ∈ cs, keep c = true → c ≠ '%')
    (rest : List UInt8) :
    percentDecode (encodeUtf8 (percentEncode keep cs) ++ rest)
      = encodeUtf8 cs ++ percentDecode rest := by
  induction cs with
  | nil => rfl
  | cons c cs ih =>
    have hrest := ih fun c hc => h c (List.mem_cons_of_mem _ hc)
    have hchar : ∀ more, percentDecode (encodeUtf8 (percentChar keep c) ++ more)
        = String.utf8EncodeChar c ++ percentDecode more := by
      intro more
      rw [percentChar]
      split
      · next hkeep =>
        rw [show encodeUtf8 [c] = String.utf8EncodeChar c from List.append_nil _]
        exact percentDecode_append
          (fun b hb => byte_ne_percent (h c List.mem_cons_self hkeep) hb) more
      · exact percentDecode_percentBytes _ more
    rw [percentEncode, List.flatMap_cons, ← percentEncode, encodeUtf8_append, List.append_assoc,
      hchar, hrest, ← List.append_assoc]
    rfl

/-- Decoding undoes encoding, where the percent sign itself is encoded. -/
theorem percentDecode_percentEncode_all {cs : List Char}
    (h : ∀ c ∈ cs, keep c = true → c ≠ '%') :
    percentDecode (encodeUtf8 (percentEncode keep cs)) = encodeUtf8 cs := by
  have happend := percentDecode_percentEncode h []
  rwa [List.append_nil, show percentDecode [] = [] from rfl, List.append_nil] at happend

/-- A form field of characters that never need to be written as bytes is the text itself. -/
theorem formEncode_of_isUnreserved {cs : List Char} (h : ∀ c ∈ cs, isUnreserved c = true) :
    formEncode cs = cs := by
  induction cs with
  | nil => rfl
  | cons c cs ih =>
    have hc := h c List.mem_cons_self
    have hblank : c ≠ ' ' := by
      rintro rfl
      exact absurd hc (by decide)
    have hrest := ih fun c hc => h c (List.mem_cons_of_mem _ hc)
    rw [formEncode] at hrest ⊢
    rw [List.flatMap_cons, formChar, if_neg hblank, percentChar_of_keep hc, hrest]
    rfl

end CodeAtlas.Text
