/-
CodeAtlas.Proofs.Text.Utf8 — texts survive UTF-8.

A character is one byte or a first byte and one to three continuation bytes, and reading
takes exactly these bytes off (`utf8Head_encoded`). So reading undoes encoding, for both
readers, wherever it starts to count (`utf8From_encodeUtf8`).

A byte tells little about the character it belongs to, but this much: one below 128 is the
number of its character, and no character has a byte from 248 on (`byte_range`).
-/
import CodeAtlas.Text.Utf8

namespace CodeAtlas.Text

/-! ## Bytes -/

theorem toNat_byte {n : Nat} (h : n < 256) : (UInt8.ofNat n).toNat = n :=
  UInt8.toNat_ofNat_of_lt' h

theorem isContinuation_iff (b : UInt8) :
    isContinuation b = true ↔ 128 ≤ b.toNat ∧ b.toNat < 192 := by
  simp [isContinuation, UInt8.le_iff_toNat_le, UInt8.lt_iff_toNat_lt]

/-- Six bits behind the mark of a continuation are one. -/
theorem isContinuation_byte (n : Nat) : isContinuation (UInt8.ofNat (n % 64 + 128)) = true := by
  rw [isContinuation_iff, toNat_byte (by omega)]
  omega

/-- And they are read back. -/
theorem tailBits_byte (n : Nat) : tailBits (UInt8.ofNat (n % 64 + 128)) = n % 64 := by
  rw [tailBits, toNat_byte (by omega)]
  omega

/-- The second byte is bounded where a shorter form, a surrogate or a number that is too
large has to be kept out. -/
theorem isSecond_of_bounds {a b : UInt8} (hb : isContinuation b = true)
    (hshort : a.toNat = 224 → 160 ≤ b.toNat) (hsurrogate : a.toNat = 237 → b.toNat < 160)
    (hshort' : a.toNat = 240 → 144 ≤ b.toNat) (hlarge : a.toNat = 244 → b.toNat < 144) :
    isSecond a b = true := by
  have hbyte : ∀ n : UInt8, a = n → a.toNat = n.toNat := fun n h => by rw [h]
  rw [isSecond, hb, Bool.true_and]
  split
  · next h => simpa [UInt8.le_iff_toNat_le] using hshort (hbyte _ h)
  · split
    · next h => simpa [UInt8.lt_iff_toNat_lt] using hsurrogate (hbyte _ h)
    · split
      · next h => simpa [UInt8.le_iff_toNat_le] using hshort' (hbyte _ h)
      · split
        · next h => simpa [UInt8.lt_iff_toNat_lt] using hlarge (hbyte _ h)
        · rfl

/-! ## One character -/

section Head

variable {a b c d : UInt8} (rest : List UInt8)

/-- A single byte. -/
theorem utf8Head_one (h : a.toNat < 128) : utf8Head a rest = .ok (Char.ofNat a.toNat, 0) := by
  have hlt : a < 0x80 := UInt8.lt_iff_toNat_lt.mpr h
  simp [utf8Head, hlt]

/-- A character of two bytes. -/
theorem utf8Head_two (h : 194 ≤ a.toNat) (h' : a.toNat < 224) (hb : isContinuation b = true) :
    utf8Head a (b :: rest) = .ok (Char.ofNat (a.toNat % 32 * 64 + tailBits b), 1) := by
  simp [utf8Head, UInt8.lt_iff_toNat_lt, hb, h', show ¬ a.toNat < 128 by omega,
    show ¬ a.toNat < 194 by omega]

/-- A character of three bytes. -/
theorem utf8Head_three (h : 224 ≤ a.toNat) (h' : a.toNat < 240) (hb : isSecond a b = true)
    (hc : isContinuation c = true) :
    utf8Head a (b :: c :: rest)
      = .ok (Char.ofNat ((a.toNat % 16 * 64 + tailBits b) * 64 + tailBits c), 2) := by
  simp [utf8Head, UInt8.lt_iff_toNat_lt, hb, hc, h', show ¬ a.toNat < 128 by omega,
    show ¬ a.toNat < 194 by omega, show ¬ a.toNat < 224 by omega]

/-- A character of four bytes. -/
theorem utf8Head_four (h : 240 ≤ a.toNat) (h' : a.toNat < 245) (hb : isSecond a b = true)
    (hc : isContinuation c = true) (hd : isContinuation d = true) :
    utf8Head a (b :: c :: d :: rest)
      = .ok (Char.ofNat (((a.toNat % 8 * 64 + tailBits b) * 64 + tailBits c) * 64
          + tailBits d), 3) := by
  simp [utf8Head, UInt8.lt_iff_toNat_lt, hb, hc, hd, h', show ¬ a.toNat < 128 by omega,
    show ¬ a.toNat < 194 by omega, show ¬ a.toNat < 224 by omega, show ¬ a.toNat < 240 by omega]

end Head

/-- The bytes of a character are read as that character, whatever follows them. -/
theorem utf8Head_encoded (c : Char) (rest : List UInt8) :
    ∃ first more, String.utf8EncodeChar c = first :: more
      ∧ utf8Head first (more ++ rest) = .ok (c, more.length) := by
  have hchar : Char.ofNat c.val.toNat = c := Char.ofNat_toNat c
  have hvalid : c.val.toNat < 55296 ∨ (57343 < c.val.toNat ∧ c.val.toNat < 1114112) := c.valid
  unfold String.utf8EncodeChar
  generalize c.val.toNat = v at hchar hvalid
  dsimp only
  split
  · have hbyte : (UInt8.ofNat v).toNat = v := toNat_byte (by omega)
    refine ⟨_, [], rfl, ?_⟩
    rw [utf8Head_one _ (by omega), hbyte, hchar]
    rfl
  · split
    · have hbyte : (UInt8.ofNat (v / 64 % 32 + 192)).toNat = v / 64 % 32 + 192 :=
        toNat_byte (by omega)
      refine ⟨_, [_], rfl, ?_⟩
      rw [List.cons_append, utf8Head_two _ (by omega) (by omega) (isContinuation_byte v),
        tailBits_byte, hbyte,
        show (v / 64 % 32 + 192) % 32 * 64 + v % 64 = v by omega, hchar]
      rfl
    · split
      · have hbyte : (UInt8.ofNat (v / 4096 % 16 + 224)).toNat = v / 4096 % 16 + 224 :=
          toNat_byte (by omega)
        have hsecond : (UInt8.ofNat (v / 64 % 64 + 128)).toNat = v / 64 % 64 + 128 :=
          toNat_byte (by omega)
        refine ⟨_, [_, _], rfl, ?_⟩
        rw [List.cons_append, List.cons_append, utf8Head_three _ (by omega) (by omega)
            (isSecond_of_bounds (isContinuation_byte _) (by omega) (by omega) (by omega)
              (by omega)) (isContinuation_byte v),
          tailBits_byte, tailBits_byte, hbyte,
          show ((v / 4096 % 16 + 224) % 16 * 64 + v / 64 % 64) * 64 + v % 64 = v by omega, hchar]
        rfl
      · have hbyte : (UInt8.ofNat (v / 262144 % 8 + 240)).toNat = v / 262144 % 8 + 240 :=
          toNat_byte (by omega)
        have hsecond : (UInt8.ofNat (v / 4096 % 64 + 128)).toNat = v / 4096 % 64 + 128 :=
          toNat_byte (by omega)
        refine ⟨_, [_, _, _], rfl, ?_⟩
        rw [List.cons_append, List.cons_append, List.cons_append,
          utf8Head_four _ (by omega) (by omega)
            (isSecond_of_bounds (isContinuation_byte _) (by omega) (by omega) (by omega)
              (by omega)) (isContinuation_byte _) (isContinuation_byte v),
          tailBits_byte, tailBits_byte, tailBits_byte, hbyte,
          show (((v / 262144 % 8 + 240) % 8 * 64 + v / 4096 % 64) * 64 + v / 64 % 64) * 64
            + v % 64 = v by omega, hchar]
        rfl

/-- The bytes of a character: one of its own number in ASCII, and larger ones beyond it. -/
theorem byte_range {c : Char} {b : UInt8} (h : b ∈ String.utf8EncodeChar c) :
    (c.toNat < 128 ∧ b.toNat = c.toNat)
      ∨ (128 ≤ c.toNat ∧ 128 ≤ b.toNat ∧ b.toNat < 248) := by
  have hval : c.toNat = c.val.toNat := rfl
  unfold String.utf8EncodeChar at h
  rw [hval]
  generalize c.val.toNat = v at h
  dsimp only at h
  split at h
  · obtain rfl := List.mem_singleton.mp h
    rw [toNat_byte (by omega)]
    omega
  · split at h
    · simp only [List.mem_cons, List.not_mem_nil, or_false] at h
      rcases h with rfl | rfl <;> rw [toNat_byte (by omega)] <;> omega
    · split at h
      · simp only [List.mem_cons, List.not_mem_nil, or_false] at h
        rcases h with rfl | rfl | rfl <;> rw [toNat_byte (by omega)] <;> omega
      · simp only [List.mem_cons, List.not_mem_nil, or_false] at h
        rcases h with rfl | rfl | rfl | rfl <;> rw [toNat_byte (by omega)] <;> omega

/-- No byte of a character is as large as those of a byte order mark, and a byte is zero
only in the null character. -/
theorem byte_cases {c : Char} {b : UInt8} (h : b ∈ String.utf8EncodeChar c) :
    b.toNat < 248 ∧ (b.toNat = 0 → c.toNat = 0) := by
  have hrange := byte_range h
  omega

/-- A character of ASCII is one byte, of its own number. -/
theorem utf8EncodeChar_of_lt {c : Char} (h : c.toNat < 128) :
    String.utf8EncodeChar c = [UInt8.ofNat c.toNat] := by
  have hval : c.toNat = c.val.toNat := rfl
  rw [hval] at h ⊢
  unfold String.utf8EncodeChar
  rw [if_pos (by omega)]

/-! ## Texts -/

theorem encodeUtf8_append (xs ys : List Char) :
    encodeUtf8 (xs ++ ys) = encodeUtf8 xs ++ encodeUtf8 ys := List.flatMap_append

/-- Reading undoes encoding. -/
theorem utf8From_encodeUtf8 (lenient : Bool) (cs : List Char) (pos : Nat) :
    utf8From lenient pos (encodeUtf8 cs) = .ok cs := by
  induction cs generalizing pos with
  | nil => rw [encodeUtf8, List.flatMap_nil, utf8From]
  | cons c cs ih =>
    obtain ⟨first, more, hbytes, hhead⟩ := utf8Head_encoded c (encodeUtf8 cs)
    have hsplit : encodeUtf8 (c :: cs) = first :: (more ++ encodeUtf8 cs) := by
      rw [encodeUtf8, List.flatMap_cons, hbytes, List.cons_append, ← encodeUtf8]
    rw [hsplit, utf8From, hhead]
    dsimp only
    rw [List.drop_left, ih]

/-- Decoding undoes encoding. -/
theorem decodeUtf8_encodeUtf8 (cs : List Char) : decodeUtf8 (encodeUtf8 cs) = .ok cs :=
  utf8From_encodeUtf8 false cs 0

/-- So does the decoder that lets lone surrogates pass. -/
theorem decodeUtf8Lenient_encodeUtf8 (cs : List Char) :
    decodeUtf8Lenient (encodeUtf8 cs) = .ok cs :=
  utf8From_encodeUtf8 true cs 0

/-- ASCII text has ASCII bytes. -/
theorem toNat_lt_of_mem_encodeUtf8 {cs : List Char} (h : ∀ c ∈ cs, c.toNat < 128) {b : UInt8}
    (hb : b ∈ encodeUtf8 cs) : b.toNat < 128 := by
  obtain ⟨c, hc, hbyte⟩ := List.mem_flatMap.mp hb
  have hlt := h c hc
  rw [utf8EncodeChar_of_lt hlt] at hbyte
  rw [List.mem_singleton.mp hbyte, toNat_byte (by omega)]
  exact hlt

end CodeAtlas.Text
