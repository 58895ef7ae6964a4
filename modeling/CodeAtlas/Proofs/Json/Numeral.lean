/-
CodeAtlas.Proofs.Json.Numeral — the numbers of JSON.

`IsNumber` is the grammar of numbers, part by part: digits before the point without a
superfluous zero, digits after it, an exponent. The reader takes each part off whole, wherever
the text cannot go on with it (`Ends`), so it takes numbers off whole (`numeral_append`), and
it does not mistake them for words (`find_words_of_isNumber`). The text of an integer is a
number (`isNumber_integerText`).
-/
import CodeAtlas.Json.Reader
import CodeAtlas.Proofs.Number.Integer

namespace CodeAtlas.Json

/-! ## The grammar of numbers -/

structure IsDigits (ds : List Char) : Prop where
  ne_nil : ds ≠ []
  digit : ∀ c ∈ ds, c.isDigit = true

/-- The digits before the point: a zero stands alone. -/
inductive IsWhole : List Char → Prop
  | zero : IsWhole ['0']
  | digits {d : Char} {ds : List Char} (hd : d ≠ '0') (h : IsDigits (d :: ds)) : IsWhole (d :: ds)

/-- Nothing, or a point and digits. -/
inductive IsFraction : List Char → Prop
  | none : IsFraction []
  | digits {ds : List Char} (h : IsDigits ds) : IsFraction ('.' :: ds)

/-- Nothing, or a mark and digits, with or without a sign. -/
inductive IsExponent : List Char → Prop
  | none : IsExponent []
  | digits {e : Char} {ds : List Char} (he : e = 'e' ∨ e = 'E') (h : IsDigits ds) :
      IsExponent (e :: ds)
  | signed {e s : Char} {ds : List Char} (he : e = 'e' ∨ e = 'E') (hs : s = '+' ∨ s = '-')
      (h : IsDigits ds) : IsExponent (e :: s :: ds)

/-- A number without its sign. -/
inductive IsMagnitude : List Char → Prop
  | mk {whole fraction exponent : List Char} (hw : IsWhole whole) (hf : IsFraction fraction)
      (he : IsExponent exponent) : IsMagnitude (whole ++ (fraction ++ exponent))

/-- A number. Only a minus can be its sign. -/
inductive IsNumber : List Char → Prop
  | positive {t : List Char} (h : IsMagnitude t) : IsNumber t
  | negative {t : List Char} (h : IsMagnitude t) : IsNumber ('-' :: t)

/-! ## First characters -/

/-- Digits start with a digit. -/
theorem IsDigits.head {ds : List Char} (h : IsDigits ds) :
    ∃ d rest, ds = d :: rest ∧ d.isDigit = true := by
  cases ds with
  | nil => exact absurd rfl h.ne_nil
  | cons d rest => exact ⟨d, rest, rfl, h.digit d List.mem_cons_self⟩

/-- A number without its sign starts with a digit. -/
theorem IsMagnitude.head {t : List Char} (h : IsMagnitude t) :
    ∃ d rest, t = d :: rest ∧ d.isDigit = true := by
  cases h with
  | mk hw _ _ =>
    cases hw with
    | zero => exact ⟨'0', _, rfl, by decide⟩
    | digits hd h => exact ⟨_, _, rfl, h.digit _ List.mem_cons_self⟩

/-- A number begins with a minus or a digit. -/
theorem IsNumber.head {t : List Char} (h : IsNumber t) :
    ∃ c cs, t = c :: cs ∧ (c = '-' ∨ c.isDigit = true) := by
  cases h with
  | positive h =>
    obtain ⟨d, rest, rfl, hd⟩ := h.head
    exact ⟨d, rest, rfl, Or.inr hd⟩
  | negative h => exact ⟨'-', _, rfl, Or.inl rfl⟩

/-- No other sign of the grammar is one that a number can begin with. -/
theorem ne_of_numberHead {c : Char} (h : c = '-' ∨ c.isDigit = true) {a : Char} (hm : a ≠ '-')
    (hd : a.isDigit = false) : c ≠ a := by
  rintro rfl
  rcases h with rfl | hdigit
  · exact hm rfl
  · rw [hd] at hdigit
    cases hdigit

theorem not_isSpace_of_numberHead {c : Char} (h : c = '-' ∨ c.isDigit = true) :
    isSpace c = false := by
  simp only [isSpace, Bool.or_eq_false_iff, decide_eq_false_iff_not]
  exact ⟨⟨⟨ne_of_numberHead h (by decide) (by decide), ne_of_numberHead h (by decide) (by decide)⟩,
    ne_of_numberHead h (by decide) (by decide)⟩, ne_of_numberHead h (by decide) (by decide)⟩

/-! ## Integers -/

/-- A natural number is written in digits. -/
theorem isDigits_digits (n : Nat) : IsDigits (Number.digits n) :=
  ⟨Number.digits_ne_nil n, fun _ => Number.isDigit_of_mem_digits⟩

theorem isDigit_of_mem_zeros {n : Nat} {c : Char} (h : c ∈ List.replicate n '0') :
    c.isDigit = true := by
  rw [List.eq_of_mem_replicate h]
  decide

/-- A positive number is written without leading zeros. -/
theorem digits_eq_cons_of_pos {n : Nat} (h : 0 < n) :
    ∃ d ds, Number.digits n = d :: ds ∧ d ≠ '0' ∧ ∀ c ∈ d :: ds, c.isDigit = true := by
  obtain ⟨d, ds, hd, hall⟩ := Number.digits_eq_cons n
  refine ⟨d, ds, hd, ?_, hall⟩
  rintro rfl
  exact absurd (Number.eq_zero_of_digits_eq_cons hd) (Nat.ne_of_gt h)

/-- The first digits of a positive number, at least one, stand before a point. -/
theorem isWhole_take {n : Nat} (h : 0 < n) {k : Nat} (hk : 0 < k) (zeros : Nat) :
    IsWhole ((Number.digits n).take k ++ List.replicate zeros '0') := by
  obtain ⟨d, ds, hd, hne, hall⟩ := digits_eq_cons_of_pos h
  obtain ⟨k, rfl⟩ := Nat.exists_eq_succ_of_ne_zero (Nat.ne_of_gt hk)
  rw [hd, List.take_succ_cons, List.cons_append]
  refine .digits hne ⟨by simp, fun c hc => ?_⟩
  rw [← List.cons_append] at hc
  rcases List.mem_append.mp hc with hc | hc
  · rw [← List.take_succ_cons] at hc
    exact hall c (List.mem_of_mem_take hc)
  · exact isDigit_of_mem_zeros hc

/-- The digits of a number may stand before a point. -/
theorem isWhole_digits (n : Nat) : IsWhole (Number.digits n) := by
  by_cases hn : n = 0
  · rw [hn]
    exact .zero
  · have hwhole := isWhole_take (Nat.pos_of_ne_zero hn)
      (List.length_pos_iff.mpr (Number.digits_ne_nil n)) 0
    rwa [List.take_length, List.replicate_zero, List.append_nil] at hwhole

/-- Integers are written as numbers of JSON. -/
theorem isNumber_integerText (n : Int) : IsNumber (Number.integerText n) := by
  have hmagnitude := IsMagnitude.mk (isWhole_digits n.natAbs) .none .none
  rw [List.append_nil, List.append_nil] at hmagnitude
  unfold Number.integerText
  split
  · exact .negative hmagnitude
  · exact .positive hmagnitude

/-! ## Reading -/

def Ends (rest : List Char) : Prop :=
  ∀ c ∈ rest.head?, c.isDigit = false ∧ c ≠ '.' ∧ c ≠ 'e' ∧ c ≠ 'E'

theorem ends_nil : Ends [] := fun c hc => by simp at hc

def StopsDigits (rest : List Char) : Prop := ∀ c ∈ rest.head?, c.isDigit = false

theorem stopsDigits_nil : StopsDigits [] := fun c hc => by simp at hc

/-- Digits are taken up to the first character that is none. -/
theorem spanDigits_append {ds rest : List Char} (h : ∀ c ∈ ds, c.isDigit = true)
    (hr : StopsDigits rest) : spanDigits (ds ++ rest) = (ds, rest) := by
  rw [spanDigits, Text.takeWhile_append_stop h hr, Text.dropWhile_append_stop h hr]

/-- The whole part of a number is taken off the text. -/
theorem wholePart_append {w rest : List Char} (h : IsWhole w) (hr : StopsDigits rest) :
    wholePart (w ++ rest) = some (w, rest) := by
  cases h with
  | zero => rfl
  | @digits d ds hd h =>
    have hspan := spanDigits_append h.digit hr
    rw [List.cons_append] at hspan ⊢
    rw [wholePart, if_neg hd, if_pos (h.digit d List.mem_cons_self), hspan]

/-- The fraction is taken off, if what follows cannot continue it. -/
theorem fractionPart_append {f rest : List Char} (h : IsFraction f) (hr : StopsDigits rest)
    (hpoint : rest.head? ≠ some '.') : fractionPart (f ++ rest) = ((fractionPart f).1, rest) := by
  cases h with
  | none =>
    cases rest with
    | nil => rfl
    | cons c rest =>
      rw [List.nil_append, fractionPart]
      · rfl
      · rintro after ⟨⟩
        exact hpoint rfl
  | @digits ds h =>
    have hempty : ds.isEmpty = false := List.isEmpty_eq_false_iff.mpr h.ne_nil
    have hspan := spanDigits_append h.digit stopsDigits_nil
    rw [List.append_nil] at hspan
    simp [fractionPart, spanDigits_append h.digit hr, hspan, hempty]

theorem exponentSign_of_isDigit {d : Char} (hd : d.isDigit = true) (cs : List Char) :
    exponentSign (d :: cs) = (false, d :: cs) := by
  rw [exponentSign]
  · rintro rest ⟨⟩
    exact absurd hd (by decide)
  · rintro rest ⟨⟩
    exact absurd hd (by decide)

/-- The exponent is taken off, if what follows cannot continue the number. -/
theorem exponentPart_append {e rest : List Char} (h : IsExponent e) (hr : Ends rest) :
    exponentPart (e ++ rest) = ((exponentPart e).1, rest) := by
  have hstop : StopsDigits rest := fun c hc => (hr c hc).1
  cases h with
  | none =>
    cases rest with
    | nil => rfl
    | cons c rest =>
      obtain ⟨-, -, he, hE⟩ := hr c rfl
      simp [exponentPart, he, hE]
  | @digits c ds hc h =>
    have hmark : (decide (c = 'e') || decide (c = 'E')) = true := by simpa using hc
    obtain ⟨d, more, rfl, hd⟩ := h.head
    have hspan := spanDigits_append h.digit hstop
    have halone := spanDigits_append h.digit stopsDigits_nil
    rw [List.cons_append] at hspan
    rw [List.append_nil] at halone
    simp [exponentPart, hmark, exponentSign_of_isDigit hd, hspan, halone]
  | @signed c s ds hc hs h =>
    have hmark : (decide (c = 'e') || decide (c = 'E')) = true := by simpa using hc
    have hempty : ds.isEmpty = false := List.isEmpty_eq_false_iff.mpr h.ne_nil
    have hspan := spanDigits_append h.digit hstop
    have halone := spanDigits_append h.digit stopsDigits_nil
    rw [List.append_nil] at halone
    rcases hs with rfl | rfl <;> simp [exponentPart, hmark, exponentSign, hspan, halone, hempty]

/-- An exponent ends the digits before it, and starts no fraction. -/
theorem stopsDigits_exponent {e rest : List Char} (h : IsExponent e) (hr : Ends rest) :
    StopsDigits (e ++ rest) ∧ (e ++ rest).head? ≠ some '.' := by
  have hmark : ∀ {c : Char} {cs : List Char}, c = 'e' ∨ c = 'E' →
      StopsDigits (c :: cs) ∧ (c :: cs).head? ≠ some '.' := by
    intro c cs hc
    refine ⟨?_, ?_⟩
    · rintro a ⟨⟩
      rcases hc with rfl | rfl <;> decide
    · rintro ⟨⟩
      exact absurd hc (by decide)
  cases h with
  | none => exact ⟨fun c hc => (hr c hc).1, fun hc => (hr '.' hc).2.1 rfl⟩
  | digits hc h => exact hmark hc
  | signed hc hs h => exact hmark hc

theorem stopsDigits_fraction {f rest : List Char} (h : IsFraction f) (hr : StopsDigits rest) :
    StopsDigits (f ++ rest) := by
  cases h with
  | none => exact hr
  | digits h =>
    rintro a ⟨⟩
    decide

/-- The numeral of a number, by its parts. -/
def numeralOf (negative : Bool) (whole fraction exponent : List Char) : Numeral :=
  ⟨negative, whole, (fractionPart fraction).1, (exponentPart exponent).1⟩

section

variable {w f e rest : List Char}

/-- Read one after the other, the parts of a number are taken off the text. -/
theorem parts_append (hw : IsWhole w) (hf : IsFraction f) (he : IsExponent e) (hr : Ends rest) :
    wholePart (w ++ (f ++ e) ++ rest) = some (w, f ++ (e ++ rest)) ∧
      fractionPart (f ++ (e ++ rest)) = ((fractionPart f).1, e ++ rest) ∧
      exponentPart (e ++ rest) = ((exponentPart e).1, rest) := by
  obtain ⟨hstop, hpoint⟩ := stopsDigits_exponent he hr
  rw [List.append_assoc, List.append_assoc]
  exact ⟨wholePart_append hw (stopsDigits_fraction hf hstop), fractionPart_append hf hstop hpoint,
    exponentPart_append he hr⟩

theorem numeral_positive (hw : IsWhole w) (hf : IsFraction f) (he : IsExponent e)
    (hr : Ends rest) :
    numeral (w ++ (f ++ e) ++ rest) = some (numeralOf false w f e, rest) := by
  obtain ⟨hwhole, hfraction, hexponent⟩ := parts_append hw hf he hr
  obtain ⟨d, ds, ht, hd⟩ := (IsMagnitude.mk hw hf he).head
  have hminus : d ≠ '-' := by
    rintro rfl
    exact absurd hd (by decide)
  rw [ht, List.cons_append] at hwhole ⊢
  simp [numeral, numeralOf, hminus, hwhole, hfraction, hexponent]

theorem numeral_negative (hw : IsWhole w) (hf : IsFraction f) (he : IsExponent e)
    (hr : Ends rest) :
    numeral ('-' :: (w ++ (f ++ e)) ++ rest) = some (numeralOf true w f e, rest) := by
  obtain ⟨hwhole, hfraction, hexponent⟩ := parts_append hw hf he hr
  rw [List.cons_append]
  generalize w ++ (f ++ e) ++ rest = text at hwhole ⊢
  simp [numeral, numeralOf, hwhole, hfraction, hexponent]

end

/-- The reader takes a number off whole, whatever comes next. -/
theorem numeral_append {t : List Char} (h : IsNumber t) :
    ∃ n, ∀ rest, Ends rest → numeral (t ++ rest) = some (n, rest) := by
  cases h with
  | positive h =>
    cases h with
    | mk hw hf he => exact ⟨_, fun rest => numeral_positive hw hf he⟩
  | negative h =>
    cases h with
    | mk hw hf he => exact ⟨_, fun rest => numeral_negative hw hf he⟩

/-- A number is none of the words: a word begins with a letter, or with a minus sign and a
letter. -/
theorem find_words_of_isNumber {t : List Char} (h : IsNumber t) (rest : List Char) :
    words.find? (fun w => w.1.isPrefixOf (t ++ rest)) = none := by
  have hne : ∀ {d : Char}, d.isDigit = true → ∀ c : Char, c.isDigit = false → c ≠ d := by
    rintro d hd c hc rfl
    rw [hd] at hc
    cases hc
  cases h with
  | positive h =>
    obtain ⟨d, ds, rfl, hd⟩ := h.head
    simp [words, List.isPrefixOf, hne hd 'n' (by decide), hne hd 't' (by decide),
      hne hd 'f' (by decide), hne hd 'N' (by decide), hne hd 'I' (by decide),
      hne hd '-' (by decide)]
  | negative h =>
    obtain ⟨d, ds, rfl, hd⟩ := h.head
    simp [words, List.isPrefixOf, hne hd 'I' (by decide)]

end CodeAtlas.Json
