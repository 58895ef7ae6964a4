/-
CodeAtlas.Proofs.Number.Layout — the characters of numbers.

A finite number is written with digits, a point, signs and the mark of an
exponent, whatever its layout (`isNumeralChar_of_mem_magnitudeText`); an integer
with digits and a sign.

The numeral that stands for a positive number is not zero (`pos_shortest`): zero is
never among the reals that round to the number. So its first digit is not a zero.
-/
import CodeAtlas.Number.Layout
import CodeAtlas.Proofs.Number.Integer

namespace CodeAtlas.Number

/-! ## Characters -/

def isNumeralChar (c : Char) : Bool :=
  c.isDigit || c = '.' || c = 'e' || c = '+' || c = '-'

theorem isNumeralChar_of_isDigit {c : Char} (h : c.isDigit = true) :
    isNumeralChar c = true := by
  simp [isNumeralChar, h]

theorem isNumeralChar_of_mem_digits {n : Nat} {c : Char} (h : c ∈ digits n) :
    isNumeralChar c = true :=
  isNumeralChar_of_isDigit (isDigit_of_mem_digits h)

/-- Integers are written with such characters. -/
theorem isNumeralChar_of_mem_integerText {n : Int} {c : Char} (h : c ∈ integerText n) :
    isNumeralChar c = true := by
  rcases mem_integerText h with hdigit | rfl
  · exact isNumeralChar_of_isDigit hdigit
  · decide

theorem isNumeralChar_of_mem_zeros {n : Nat} {c : Char} (h : c ∈ List.replicate n '0') :
    isNumeralChar c = true := by
  rw [List.eq_of_mem_replicate h]
  decide

theorem isNumeralChar_of_mem_exponentText {layout : FloatLayout} {e : Int} {c : Char}
    (h : c ∈ exponentText layout e) : isNumeralChar c = true := by
  simp only [exponentText, padLeft, List.mem_cons, List.mem_append] at h
  rcases h with rfl | hsign | hzero | hdigit
  · decide
  · split at hsign <;> subst hsign <;> decide
  · exact isNumeralChar_of_mem_zeros hzero
  · exact isNumeralChar_of_mem_digits hdigit

/-- Decimals are, wherever their point is. -/
theorem isNumeralChar_of_mem_decimalText {layout : FloatLayout} {d : Decimal} {c : Char}
    (h : c ∈ decimalText layout d) : isNumeralChar c = true := by
  have hpoint : isNumeralChar '.' = true := by decide
  have hzero : isNumeralChar '0' = true := by decide
  unfold decimalText at h
  simp only at h
  split at h
  · split at h
    · simp only [List.cons_append, List.mem_cons, List.mem_append] at h
      rcases h with rfl | rfl | hzeros | hdigits
      · exact hzero
      · exact hpoint
      · exact isNumeralChar_of_mem_zeros hzeros
      · exact isNumeralChar_of_mem_digits hdigits
    · split at h
      · simp only [List.mem_append, List.mem_cons, List.not_mem_nil, or_false] at h
        rcases h with (hdigits | hzeros) | rfl | rfl
        · exact isNumeralChar_of_mem_digits hdigits
        · exact isNumeralChar_of_mem_zeros hzeros
        · exact hpoint
        · exact hzero
      · simp only [List.mem_append, List.mem_cons] at h
        rcases h with hwhole | rfl | hplaces
        · exact isNumeralChar_of_mem_digits (List.mem_of_mem_take hwhole)
        · exact hpoint
        · exact isNumeralChar_of_mem_digits (List.mem_of_mem_drop hplaces)
  · simp only [List.mem_append] at h
    rcases h with (hfirst | hplaces) | hexponent
    · exact isNumeralChar_of_mem_digits (List.mem_of_mem_take hfirst)
    · split at hplaces
      · cases hplaces
      · rcases List.mem_cons.mp hplaces with rfl | hplaces
        · exact hpoint
        · exact isNumeralChar_of_mem_digits (List.mem_of_mem_drop hplaces)
    · exact isNumeralChar_of_mem_exponentText hexponent

/-- Magnitudes of floating-point numbers are. -/
theorem isNumeralChar_of_mem_magnitudeText {layout : FloatLayout} {m : Nat} {e : Int} {c : Char}
    (h : c ∈ magnitudeText layout m e) : isNumeralChar c = true := by
  unfold magnitudeText at h
  split at h
  · exact List.all_eq_true.mp (show ['0', '.', '0'].all isNumeralChar = true by decide) c h
  · exact isNumeralChar_of_mem_decimalText h

/-- A floating-point number is written with the characters of numbers or by its
name. -/
theorem mem_floatText {names : SpecialNames} {x : Binary64} {c : Char}
    (h : c ∈ floatText names x) :
    isNumeralChar c = true ∨ c ∈ names.nan.toList ∨ c ∈ names.infinity.toList := by
  have hminus : isNumeralChar '-' = true := by decide
  unfold floatText at h
  split at h
  · exact Or.inr (Or.inl h)
  · exact Or.inr (Or.inr h)
  · rcases List.mem_cons.mp h with rfl | h
    · exact Or.inl hminus
    · exact Or.inr (Or.inr h)
  · exact Or.inl (isNumeralChar_of_mem_magnitudeText h)
  · rcases List.mem_cons.mp h with rfl | h
    · exact Or.inl hminus
    · exact Or.inl (isNumeralChar_of_mem_magnitudeText h)

/-! ## Shortest numerals -/

/-- No interval of reals that round to a positive number reaches down to zero. -/
theorem not_contains_zero {m : Nat} (hm : m ≠ 0) (e : Int) {unit : Nat} (hunit : 0 < unit) :
    (Rounding.of m e).contains unit 0 = false := by
  have hlow : 0 < (Rounding.of m e).low := by
    dsimp only [Rounding.of]
    split <;> omega
  have hpos : 0 < (Rounding.of m e).low * unit := Nat.mul_pos hlow hunit
  unfold Rounding.contains
  split
  · simp only [Bool.and_eq_false_iff, decide_eq_false_iff_not]
    omega
  · simp only [Bool.and_eq_false_iff, decide_eq_false_iff_not]
    omega

/-- A decimal in the interval of a number that is not zero is not zero. -/
theorem pos_of_onGrid {m : Nat} (hm : m ≠ 0) {e p : Int} {n : Nat}
    (h : (Rounding.of m e).onGrid p = some n) : 0 < n := by
  have hunit : 0 < Nat.pow 2 (Rounding.of m e).scale.toNat * Nat.pow 10 (-p).toNat :=
    Nat.mul_pos (Nat.pow_pos (by decide)) (Nat.pow_pos (by decide))
  have hzero := not_contains_zero hm e hunit
  unfold Rounding.onGrid at h
  extract_lets step unit below left lower upper at h
  -- zero is not in the interval, so the point below is taken only if it is another one
  have hbelow : lower = true → 0 < below := by
    intro hlower
    refine Nat.pos_of_ne_zero fun hbelow => ?_
    rw [show lower = (Rounding.of m e).contains unit (below * step) from rfl, hbelow,
      Nat.zero_mul, hzero] at hlower
    cases hlower
  split at h
  · next hboth =>
    have hpos := hbelow (Bool.and_eq_true _ _ ▸ hboth).1
    split at h
    · exact Option.some.inj h ▸ hpos
    · split at h
      · cases h; exact Nat.succ_pos _
      · split at h
        · exact Option.some.inj h ▸ hpos
        · cases h; exact Nat.succ_pos _
  · split at h
    · next hlower => exact Option.some.inj h ▸ hbelow hlower
    · split at h
      · cases h; exact Nat.succ_pos _
      · cases h

/-- Taking zeros off the end leaves a digit. -/
theorem pos_strip (fuel : Nat) {d : Decimal} (h : 0 < d.digits) :
    0 < (d.strip fuel).digits := by
  induction fuel generalizing d with
  | zero => exact h
  | succ fuel ih =>
    rw [Decimal.strip]
    split
    · next hzero =>
      simp only [Bool.and_eq_true, decide_eq_true_eq] at hzero
      apply ih
      dsimp only
      omega
    · exact h

/-- A positive number has a numeral that is not zero. -/
theorem pos_shortest {m : Nat} (hm : m ≠ 0) (e : Int) : 0 < (shortest m e).digits := by
  unfold shortest
  extract_lets r order found
  apply pos_strip
  cases hfound : found with
  | none => exact Nat.pos_of_ne_zero hm
  | some d =>
    obtain ⟨k, -, hk⟩ := List.exists_of_findSome?_eq_some hfound
    obtain ⟨n, hn, rfl⟩ := Option.map_eq_some_iff.mp hk
    exact pos_of_onGrid hm hn

end CodeAtlas.Number
