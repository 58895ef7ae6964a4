/-
CodeAtlas.Proofs.Number.Integer — which texts are read as integers.

The digits of a number are decimal digits, at least one, without a zero in front
unless the number is zero itself (`eq_zero_of_digits_eq_cons`), and as many as
its size says (`withinLimit_iff`).

A text of minus signs and of characters that pass for digits looks like an integer.
It is read as one if it has one sign at most and decimal digits only, and not too many
of them (`LooksSigned.readInteger_eq_ok_iff`). So the text of an integer is read back
(`readInteger_integerText`), and what was read can be written
(`withinLimit_of_readInteger`).
-/
import CodeAtlas.Number.Integer
import CodeAtlas.Proofs.Text.Classes

namespace CodeAtlas.Number

/-! ## Digits -/

theorem isDigit_of_mem_digits {n : Nat} {c : Char} (h : c ∈ digits n) : c.isDigit = true :=
  Nat.isDigit_of_mem_toDigits (by decide) (by decide) h

theorem digits_ne_nil (n : Nat) : digits n ≠ [] := Nat.toDigits_ne_nil

/-- There is a digit at least. -/
theorem digits_eq_cons (n : Nat) :
    ∃ d ds, digits n = d :: ds ∧ ∀ c ∈ d :: ds, c.isDigit = true := by
  cases h : digits n with
  | nil => exact absurd h (digits_ne_nil n)
  | cons d ds => exact ⟨d, ds, rfl, fun c hc => isDigit_of_mem_digits (h ▸ hc)⟩

/-- Only zero begins with a zero. -/
theorem eq_zero_of_digits_eq_cons {n : Nat} {ds : List Char} (h : digits n = '0' :: ds) :
    n = 0 := by
  induction n using Nat.strongRecOn generalizing ds with
  | ind n ih =>
    rw [digits, Nat.toDigits_eq_if (by decide)] at h
    split at h
    · simpa using (List.cons.inj h).1
    · rename_i hn
      -- the first digit of a longer number is the first digit of its tenth
      obtain ⟨d, ds', hd, _⟩ := digits_eq_cons (n / 10)
      rw [digits] at hd
      rw [hd, List.cons_append] at h
      have hfront : digits (n / 10) = '0' :: ds' := by rw [digits, hd, (List.cons.inj h).1]
      have hzero := ih (n / 10) (by omega) hfront
      omega

/-- The limit is one on the number of digits. -/
theorem withinLimit_iff {n : Int} :
    withinLimit n = true ↔ (digits n.natAbs).length ≤ digitLimit := by
  have hlimit : 0 < digitLimit := by decide
  rw [withinLimit, decide_eq_true_eq, digits]
  generalize digitLimit = limit at hlimit ⊢
  exact (Nat.length_toDigits_le_iff (by decide) hlimit).symm

theorem ofDigitChars_digits (n : Nat) : Nat.ofDigitChars 10 (digits n) 0 = n :=
  Nat.ofDigitChars_ten_toDigits

/-! ## Reading -/

theorem toNat_of_isDigit {c : Char} (h : c.isDigit = true) : 48 ≤ c.toNat ∧ c.toNat < 58 := by
  simp only [Char.isDigit, Bool.and_eq_true, decide_eq_true_eq] at h
  obtain ⟨h1, h2⟩ := h
  rw [ge_iff_le, UInt32.le_iff_toNat_le] at h1
  rw [UInt32.le_iff_toNat_le] at h2
  have e1 : '0'.val.toNat = 48 := rfl
  have e2 : '9'.val.toNat = 57 := rfl
  have e3 : c.val.toNat = c.toNat := rfl
  omega

/-- The digits of ASCII have their values. -/
theorem decimalValue?_of_isDigit {c : Char} (h : c.isDigit = true) :
    Text.decimalValue? c = some (c.toNat - 48) := by
  have hc := toNat_of_isDigit h
  have hz : (decide (48 ≤ c.toNat) && decide (c.toNat < 48 + 10)) = true := by
    simp only [Bool.and_eq_true, decide_eq_true_eq]
    omega
  have hfind : Text.decimalZeros.find? (fun z => z ≤ c.toNat && c.toNat < z + 10) = some 48 := by
    unfold Text.decimalZeros
    exact List.find?_cons_of_pos hz
  rw [Text.decimalValue?, hfind]

theorem isSome_decimalValue?_of_isDigit {c : Char} (h : c.isDigit = true) :
    (Text.decimalValue? c).isSome = true := by
  rw [decimalValue?_of_isDigit h]
  rfl

theorem digitValues_of_digits {ds : List Char} (h : ∀ c ∈ ds, c.isDigit = true) :
    digitValues ds = ds.map fun c => c.toNat - 48 := by
  induction ds with
  | nil => rfl
  | cons c ds ih =>
    have hc := decimalValue?_of_isDigit (h c List.mem_cons_self)
    have hds := ih fun d hd => h d (List.mem_cons_of_mem c hd)
    rw [digitValues, List.filterMap_cons_some hc, ← digitValues, hds, List.map_cons]

/-- The digits of a number are read as the number. -/
theorem ofDigits_digitValues_digits (n : Nat) : ofDigits (digitValues (digits n)) = n := by
  rw [digitValues_of_digits fun _ => isDigit_of_mem_digits, ofDigits, List.foldl_map]
  exact ofDigitChars_digits n

/-! ### Behind the sign

Reading passes over layout and one sign, and then reads digits of any script. -/

def readDigits (text : List Char) (negative : Bool) (unsigned : List Char) :
    Except IntegerError Int :=
  let numeral := numeralPart unsigned
  let ds := digitValues numeral
  if !wellSpaced numeral then .error (.notAnInteger text)
  else if digitLimit < ds.length then .error (.tooManyDigits ds.length)
  else if (unsigned.drop numeral.length).all Text.isLayout then
    .ok (if negative then -(ofDigits ds : Int) else (ofDigits ds : Int))
  else .error (.notAnInteger text)

/-- Without layout and sign in front, digits are read at once. -/
theorem readInteger_unsigned {c : Char} {cs : List Char} (hlayout : Text.isLayout c = false)
    (hminus : c ≠ '-') (hplus : c ≠ '+') :
    readInteger (c :: cs) = readDigits (c :: cs) false (c :: cs) := by
  have hbody : (c :: cs).dropWhile Text.isLayout = c :: cs :=
    List.dropWhile_cons_of_neg (by simp [hlayout])
  simp [readInteger, readDigits, hbody, hminus, hplus]

/-- A minus is taken off. -/
theorem readInteger_minus (cs : List Char) :
    readInteger ('-' :: cs) = readDigits ('-' :: cs) true cs := by
  have hbody : ('-' :: cs).dropWhile Text.isLayout = '-' :: cs :=
    List.dropWhile_cons_of_neg (by decide)
  simp [readInteger, readDigits, hbody]

/-- Digits without a mark between them are well spaced. -/
theorem wellSpaced_of_free : ∀ {cs : List Char}, '_' ∉ cs → cs ≠ [] → wellSpaced cs = true
  | [], _, hne => absurd rfl hne
  | [c], h, _ => by
    rw [List.mem_singleton] at h
    simpa [wellSpaced] using Ne.symm h
  | c :: d :: cs, h, _ => by
    simp only [List.mem_cons, not_or] at h
    have hrest : wellSpaced (d :: cs) = true :=
      wellSpaced_of_free (by simp [h.2.1, h.2.2]) (List.cons_ne_nil d cs)
    rw [wellSpaced]
    · exact hrest
    · exact List.cons_ne_nil d cs
    · exact Ne.symm h.1
    · rintro rest ⟨⟩
      exact h.2.1 rfl

section Digits

variable {text numeral : List Char} {negative : Bool}

/-- Every decimal digit counts. -/
theorem length_digitValues (h : ∀ c ∈ numeral, (Text.decimalValue? c).isSome = true) :
    (digitValues numeral).length = numeral.length := by
  induction numeral with
  | nil => rfl
  | cons c cs ih =>
    obtain ⟨d, hd⟩ := Option.isSome_iff_exists.mp (h c List.mem_cons_self)
    have hrest := ih fun c hc => h c (List.mem_cons_of_mem _ hc)
    rw [digitValues, List.filterMap_cons_some hd, ← digitValues, List.length_cons, hrest,
      List.length_cons]

/-- Decimal digits of any script are read, as long as there are not too many. -/
theorem readDigits_of_decimal (hne : numeral ≠ [])
    (h : ∀ c ∈ numeral, (Text.decimalValue? c).isSome = true) :
    readDigits text negative numeral
      = if digitLimit < numeral.length then .error (.tooManyDigits numeral.length)
        else .ok (if negative then -(ofDigits (digitValues numeral) : Int)
          else ofDigits (digitValues numeral)) := by
  have hfree : '_' ∉ numeral := fun hmem => absurd (h '_' hmem) (by decide +kernel)
  have hpart : numeralPart numeral = numeral :=
    Text.takeWhile_all fun c hc => by rw [h c hc, Bool.true_or]
  simp only [readDigits, hpart, wellSpaced_of_free hfree hne, length_digitValues h,
    List.drop_length]
  rfl

/-- What only passes for a digit is not read, wherever it stands. -/
theorem readDigits_of_mark (hlike : ∀ c ∈ numeral, Text.isDigitLike c = true)
    (hmark : ∃ c ∈ numeral, Text.decimalValue? c = none) :
    ∃ cause, readDigits text negative numeral = .error cause := by
  have hrest : (numeral.drop (numeralPart numeral).length).all Text.isLayout = false := by
    obtain ⟨c, hc, hnone⟩ := hmark
    have hline : c ≠ '_' := by
      rintro rfl
      exact absurd (hlike '_' hc) (by decide +kernel)
    have hsplit := List.takeWhile_append_dropWhile
      (p := fun c => (Text.decimalValue? c).isSome || decide (c = '_')) (l := numeral)
    have hmem : c ∈ numeral.drop (numeralPart numeral).length := by
      have hdrop := congrArg (List.drop (numeralPart numeral).length) hsplit
      rw [← hdrop, numeralPart, List.drop_left]
      exact (Text.mem_dropWhile_iff (by simp [hnone, hline])).mpr hc
    refine List.all_eq_false.mpr ⟨c, hmem, ?_⟩
    rw [Text.isLayout_of_isDigitLike (hlike c hc)]
    exact Bool.false_ne_true
  simp only [readDigits, hrest]
  split
  · exact ⟨_, rfl⟩
  · split
    · exact ⟨_, rfl⟩
    · exact ⟨_, rfl⟩

/-- A second sign is no digit. -/
theorem readDigits_minus (cs : List Char) :
    readDigits text negative ('-' :: cs) = .error (.notAnInteger text) := by
  have hpart : numeralPart ('-' :: cs) = [] := List.takeWhile_cons_of_neg (by decide +kernel)
  simp [readDigits, hpart, wellSpaced]

end Digits

/-! ### Texts that look like integers -/

/-- So many minus signs, and behind them what passes for digits. -/
structure LooksSigned (signs : Nat) (numeral text : List Char) : Prop where
  text_eq : text = List.replicate signs '-' ++ numeral
  nonempty : numeral ≠ []
  digits : ∀ c ∈ numeral, Text.isDigitLike c = true

/-- There is one sign at most, and the digits are decimal and not too many. -/
def IsReadable (signs : Nat) (numeral : List Char) : Prop :=
  signs ≤ 1 ∧ (∀ c ∈ numeral, (Text.decimalValue? c).isSome = true)
    ∧ numeral.length ≤ digitLimit

/-- The integer that signs and digits stand for. -/
def signedValue (signs : Nat) (numeral : List Char) : Int :=
  if signs = 0 then ofDigits (digitValues numeral) else -ofDigits (digitValues numeral)

section LooksSigned

variable {signs : Nat} {numeral text : List Char}

/-- What looks like an integer is made of signs and digits. -/
theorem LooksSigned.isSignOrDigit (h : LooksSigned signs numeral text) :
    ∀ c ∈ text, Text.isSignOrDigit c = true := by
  intro c hc
  rw [h.text_eq] at hc
  rw [Text.isSignOrDigit, Bool.or_eq_true, decide_eq_true_eq]
  exact (List.mem_append.mp hc).imp List.eq_of_mem_replicate (h.digits c)

/-- The digits are what is left without the signs. -/
theorem LooksSigned.dropWhile_eq (h : LooksSigned signs numeral text) :
    text.dropWhile (· = '-') = numeral := by
  rw [h.text_eq]
  refine Text.dropWhile_append_stop ?_ ?_
  · exact fun c hc => decide_eq_true (List.eq_of_mem_replicate hc)
  · intro c hc
    rw [decide_eq_false_iff_not]
    rintro rfl
    exact absurd (h.digits '-' (List.mem_of_mem_head? hc)) (by decide +kernel)

/-- One sign is taken off, and the others are left to the digits. -/
theorem LooksSigned.readInteger_eq (h : LooksSigned signs numeral text) :
    readInteger text
      = readDigits text (decide (signs ≠ 0)) (List.replicate (signs - 1) '-' ++ numeral) := by
  obtain ⟨rfl, hne, hlike⟩ := h
  cases signs with
  | zero =>
    obtain ⟨c, cs, rfl⟩ := List.exists_cons_of_ne_nil hne
    have hc := hlike c List.mem_cons_self
    refine readInteger_unsigned (Text.isLayout_of_isDigitLike hc) ?_ ?_
    · rintro rfl
      exact absurd hc (by decide +kernel)
    · rintro rfl
      exact absurd hc (by decide +kernel)
  | succ signs => exact readInteger_minus _

/-- Of the texts that look like integers, those are read that are readable. -/
theorem LooksSigned.readInteger_eq_ok_iff (h : LooksSigned signs numeral text) {n : Int} :
    readInteger text = .ok n ↔ IsReadable signs numeral ∧ n = signedValue signs numeral := by
  rw [h.readInteger_eq]
  by_cases hsigns : signs ≤ 1
  · have hnone : signs - 1 = 0 := by omega
    rw [hnone, List.replicate_zero, List.nil_append]
    by_cases hdecimal : ∀ c ∈ numeral, (Text.decimalValue? c).isSome = true
    · rw [readDigits_of_decimal h.nonempty hdecimal]
      split
      · next hlong => simp [IsReadable, Nat.not_le.mpr hlong]
      · next hshort =>
        have hreadable : IsReadable signs numeral :=
          ⟨hsigns, hdecimal, Nat.le_of_not_lt hshort⟩
        rw [and_iff_right hreadable, Except.ok.injEq, eq_comm, signedValue]
        by_cases hzero : signs = 0 <;> simp [hzero]
    · have hmark : ∃ c ∈ numeral, Text.decimalValue? c = none := by
        simpa using hdecimal
      obtain ⟨cause, hcause⟩ := readDigits_of_mark h.digits hmark
      rw [hcause]
      constructor
      · intro herror
        cases herror
      · exact fun hreadable => absurd hreadable.1.2.1 hdecimal
  · have hmore : signs - 1 = signs - 2 + 1 := by omega
    rw [hmore, List.replicate_succ, List.cons_append, readDigits_minus]
    constructor
    · intro herror
      cases herror
    · exact fun hreadable => absurd hreadable.1.1 hsigns

/-- It is refused exactly if it is not readable. -/
theorem LooksSigned.readInteger_eq_error_iff (h : LooksSigned signs numeral text) :
    (∃ cause, readInteger text = .error cause) ↔ ¬ IsReadable signs numeral := by
  cases hread : readInteger text with
  | ok n => simpa using (h.readInteger_eq_ok_iff.mp hread).1
  | error cause =>
    refine ⟨fun _ hreadable => ?_, fun _ => ⟨cause, rfl⟩⟩
    rw [h.readInteger_eq_ok_iff.mpr ⟨hreadable, rfl⟩] at hread
    cases hread

end LooksSigned

/-- The text of an integer looks like one. -/
theorem looksSigned_integerText (n : Int) :
    LooksSigned (if n < 0 then 1 else 0) (digits n.natAbs) (integerText n) where
  text_eq := by
    rw [integerText]
    split <;> rfl
  nonempty := digits_ne_nil n.natAbs
  digits := fun _ hc => Text.isDigitLike_of_isSome
    (isSome_decimalValue?_of_isDigit (isDigit_of_mem_digits hc))

/-- An integer is read back from its text. -/
theorem readInteger_integerText {n : Int} (h : withinLimit n = true) :
    readInteger (integerText n) = .ok n := by
  refine (looksSigned_integerText n).readInteger_eq_ok_iff.mpr ⟨⟨?_, ?_, withinLimit_iff.mp h⟩, ?_⟩
  · split <;> decide
  · exact fun c hc => isSome_decimalValue?_of_isDigit (isDigit_of_mem_digits hc)
  · rw [signedValue, ofDigits_digitValues_digits]
    split <;> split <;> omega

theorem mem_integerText {n : Int} {c : Char} (h : c ∈ integerText n) :
    c.isDigit = true ∨ c = '-' := by
  rw [integerText] at h
  split at h
  · exact (List.mem_cons.mp h).elim Or.inr fun h => Or.inl (isDigit_of_mem_digits h)
  · exact Or.inl (isDigit_of_mem_digits h)

/-! ## What is read can be written -/

theorem decimalValue?_lt {c : Char} {d : Nat} (h : Text.decimalValue? c = some d) : d < 10 := by
  rw [Text.decimalValue?] at h
  split at h
  · next z hz =>
    have hz := List.find?_some hz
    simp only [Bool.and_eq_true, decide_eq_true_eq] at hz
    cases h
    omega
  · cases h

theorem lt_of_mem_digitValues {cs : List Char} {d : Nat} (h : d ∈ digitValues cs) : d < 10 := by
  obtain ⟨c, -, hc⟩ := List.mem_filterMap.mp h
  exact decimalValue?_lt hc

theorem foldl_digits_lt : ∀ {ds : List Nat} {n : Nat}, (∀ d ∈ ds, d < 10) →
    ds.foldl (fun n d => 10 * n + d) n < (n + 1) * Nat.pow 10 ds.length
  | [], n, _ => by simp
  | d :: ds, n, h => by
    have hd := h d List.mem_cons_self
    have ih := foldl_digits_lt (n := 10 * n + d) fun d hd => h d (List.mem_cons_of_mem _ hd)
    calc ds.foldl (fun n d => 10 * n + d) (10 * n + d)
        < (10 * n + d + 1) * Nat.pow 10 ds.length := ih
      _ ≤ ((n + 1) * 10) * Nat.pow 10 ds.length := Nat.mul_le_mul_right _ (by omega)
      _ = (n + 1) * (Nat.pow 10 ds.length * 10) := by rw [Nat.mul_assoc, Nat.mul_comm 10]

/-- So many digits stand for a number below that power of ten. -/
theorem ofDigits_lt {ds : List Nat} (h : ∀ d ∈ ds, d < 10) : ofDigits ds < Nat.pow 10 ds.length := by
  have hlt : ofDigits ds < (0 + 1) * Nat.pow 10 ds.length := foldl_digits_lt h
  omega

/-- A number of no more digits than the limit can be written, whatever its sign. -/
theorem withinLimit_of_lt {m count : Nat} (negative : Prop) [Decidable negative]
    (hsize : m < Nat.pow 10 count) (hcount : count ≤ digitLimit) :
    withinLimit (if negative then -(m : Int) else m) = true := by
  rw [withinLimit, decide_eq_true_eq]
  generalize digitLimit = limit at hcount ⊢
  have hpow : Nat.pow 10 count ≤ Nat.pow 10 limit := Nat.pow_le_pow_right (by decide) hcount
  have hnat := Nat.lt_of_lt_of_le hsize hpow
  split
  · rwa [Int.natAbs_neg, Int.natAbs_natCast]
  · rwa [Int.natAbs_natCast]

/-- An integer that was read can be written. -/
theorem withinLimit_of_readInteger {text : List Char} {n : Int}
    (h : readInteger text = .ok n) : withinLimit n = true := by
  unfold readInteger at h
  extract_lets body negative unsigned numeral rest ds at h
  split at h
  · cases h
  · split at h
    · cases h
    · next hcount =>
      split at h
      · have hsize : ofDigits ds < Nat.pow 10 ds.length :=
          ofDigits_lt fun d hd => lt_of_mem_digitValues hd
        rw [← Except.ok.inj h]
        exact withinLimit_of_lt negative hsize (Nat.le_of_not_lt hcount)
      · cases h

end CodeAtlas.Number
