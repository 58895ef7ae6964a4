/-
CodeAtlas.Proofs.Json.Reader — every spelling of a value is read as that value.

The reader of each part of a document is shown to take a spelling from the front
of a text and to leave the rest alone, whatever the rest is, with two provisos.
A number ends where the text cannot go on as a number (`Ends`), and a depth is
available that the value fits into. The items of a container are counted by fuel,
which a text always has enough of, since every item is at least one character.

Main statement: `read_of_spells`.
-/
import CodeAtlas.Proofs.Json.Numeral
import CodeAtlas.Proofs.Json.Spelling
import CodeAtlas.Proofs.Table

namespace CodeAtlas.Json

open Text (joinUnits unitChar isLeading isTrailing pairChar)

/-! ## Strings -/

/-- No character is a surrogate. -/
theorem not_surrogate (c : Char) : isLeading c.toNat = false ∧ isTrailing c.toNat = false := by
  have hv : c.toNat < 0xD800 ∨ (0xDFFF < c.toNat ∧ c.toNat < 0x110000) := c.valid
  simp only [isLeading, isTrailing, Bool.and_eq_false_iff, decide_eq_false_iff_not]
  omega

/-- A code point that is no surrogate is its character. -/
theorem joinUnits_char (c : Char) (more : List Nat) :
    joinUnits (c.toNat :: more) = c :: joinUnits more := by
  have hc := not_surrogate c
  have hunit : unitChar c.toNat = c := by simp [unitChar, hc, Char.ofNat_toNat]
  cases more with
  | nil => simp [joinUnits, hunit]
  | cons m more => simp [joinUnits, hunit, hc]

/-- A leading and a trailing surrogate are one character. -/
theorem joinUnits_pair {high low : Nat} (hhigh : isLeading high = true)
    (hlow : isTrailing low = true) (more : List Nat) :
    joinUnits (high :: low :: more) = pairChar high low :: joinUnits more := by
  simp [joinUnits, hhigh, hlow]

/-- Pushing units one after the other puts them in front. -/
theorem foldr_push (units more : List Nat) (rest : List Char) :
    units.foldr push (.ok (more, rest)) = .ok (units ++ more, rest) := by
  induction units with
  | nil => rfl
  | cons n units ih => rw [List.foldr_cons, ih]; rfl

/-- An escape by number is read as its unit, if the text goes on. -/
theorem stringUnits_unit {x₁ x₂ x₃ x₄ : Char} {n : Nat} (h : hexUnit? x₁ x₂ x₃ x₄ = some n)
    (opening : List Char) {rest : List Char} (hrest : rest ≠ []) :
    stringUnits opening ('\\' :: 'u' :: x₁ :: x₂ :: x₃ :: x₄ :: rest)
      = push n (stringUnits opening rest) := by
  have hne : rest.isEmpty = false := by simpa using hrest
  rw [stringUnits, h, hne]

/-- The units of one character; they are read off by themselves, so that what
comes next cannot change them. -/
theorem stringUnits_of_spellsChar {c : Char} {t : List Char} (h : SpellsChar c t) :
    ∃ units, (∀ more, joinUnits (units ++ more) = c :: joinUnits more) ∧
      ∀ opening rest, rest ≠ [] →
        stringUnits opening (t ++ rest) = units.foldr push (stringUnits opening rest) := by
  cases h with
  | plain hc hq hb =>
    refine ⟨[c.toNat], joinUnits_char c, fun opening rest _ => ?_⟩
    have hlt : ¬ c.toNat < 32 := by omega
    rw [List.singleton_append, stringUnits]
    · simp [hlt]
    all_goals simp_all
  | short h =>
    rename_i e
    refine ⟨[c.toNat], joinUnits_char c, fun opening rest _ => ?_⟩
    have hu : e ≠ 'u' := by
      rintro rfl
      simp [shortEscape?] at h
    rw [List.cons_append, List.singleton_append, stringUnits]
    · simp [h]
    all_goals simp_all
  | unit h =>
    refine ⟨[c.toNat], joinUnits_char c, fun opening rest hrest => ?_⟩
    exact stringUnits_unit h opening hrest
  | pair hx hy hhigh hlow hc =>
    rename_i high low
    refine ⟨[high, low], fun more => ?_, fun opening rest hrest => ?_⟩
    · rw [← hc]
      exact joinUnits_pair hhigh hlow more
    · rw [List.foldr_cons, List.foldr_cons, List.foldr_nil, ← stringUnits_unit hy opening hrest]
      exact stringUnits_unit hx opening (by simp)

/-- A spelling of a text is read as units that make up the text. -/
theorem stringUnits_of_spellsText {cs t : List Char} (h : SpellsText cs t) :
    ∃ units, joinUnits units = cs ∧
      ∀ opening rest, stringUnits opening (t ++ '"' :: rest) = .ok (units, rest) := by
  induction h with
  | nil => exact ⟨[], rfl, fun opening rest => stringUnits.eq_2 opening rest⟩
  | cons hc _ ih =>
    obtain ⟨first, hjoin, hfirst⟩ := stringUnits_of_spellsChar hc
    obtain ⟨units, rfl, hrest⟩ := ih
    refine ⟨first ++ units, hjoin units, fun opening rest => ?_⟩
    rw [List.append_assoc, hfirst opening _ (by simp), hrest, foldr_push]

/-- A string is read as the text that it spells. -/
theorem stringBody_of_spellsText {s : String} {t : List Char} (h : SpellsText s.toList t)
    (opening rest : List Char) :
    stringBody opening (t ++ '"' :: rest) = .ok (s, rest) := by
  obtain ⟨units, hjoin, hread⟩ := stringUnits_of_spellsText h
  simp only [stringBody, hread, hjoin, String.ofList_toList]

/-! ## White space -/

/-- White space is skipped up to the first character that is none. -/
theorem skip_pad {w rest : List Char} (hw : IsPad w) (hr : ∀ c ∈ rest.head?, isSpace c = false) :
    skip (w ++ rest) = rest := Text.dropWhile_append_stop hw hr

theorem skip_none {rest : List Char} (hr : ∀ c ∈ rest.head?, isSpace c = false) :
    skip rest = rest := Text.dropWhile_stop hr

/-! ## Numbers -/

/-- The digits of a number have its value. -/
theorem digitsValue_digits (n : Nat) : digitsValue (Number.digits n) = n :=
  Number.ofDigitChars_digits n

/-- The text of an integer is one numeral, without fraction and exponent. -/
theorem numeral_integerText (n : Int) {rest : List Char} (h : Ends rest) :
    numeral (Number.integerText n ++ rest)
      = some (⟨decide (n < 0), Number.digits n.natAbs, none, none⟩, rest) := by
  have hwhole := isWhole_digits n.natAbs
  by_cases hn : n < 0
  · have hread := numeral_negative hwhole .none .none h
    rw [List.append_nil, List.append_nil] at hread
    rw [Number.integerText, if_pos hn, decide_eq_true hn]
    exact hread
  · have hread := numeral_positive hwhole .none .none h
    rw [List.append_nil, List.append_nil] at hread
    rw [Number.integerText, if_neg hn, decide_eq_false hn]
    exact hread

/-- The numeral of an integer within the limit has its value. -/
theorem value_numeral {n : Int} (h : Number.withinLimit n = true) :
    Numeral.value ⟨decide (n < 0), Number.digits n.natAbs, none, none⟩ = .ok (.int n) := by
  have hlen : ¬ Number.digitLimit < (Number.digits n.natAbs).length :=
    Nat.not_lt.mpr (Number.withinLimit_iff.mp h)
  by_cases hn : n < 0
  · have hneg : -((n.natAbs : Int)) = n := by omega
    generalize n.natAbs = size at hlen hneg
    simp [Numeral.value, hlen, hn, digitsValue_digits, hneg]
  · have hpos : (n.natAbs : Int) = n := by omega
    generalize n.natAbs = size at hlen hpos
    simp [Numeral.value, hlen, hn, digitsValue_digits, hpos]

/-! ## Values that are no containers -/

/-- The text of an integer is read as the integer. -/
theorem scalar_integerText {n : Int} (hn : Number.withinLimit n = true) {rest : List Char}
    (h : Ends rest) : scalar (Number.integerText n ++ rest) = .ok (.int n, rest) := by
  simp only [scalar, find_words_of_isNumber (isNumber_integerText n) rest, numeral_integerText n h,
    value_numeral hn]

theorem scalar_null (rest : List Char) :
    scalar ("null".toList ++ rest) = .ok (.null, rest) := by
  simp [scalar, words, List.isPrefixOf]

theorem scalar_bool (b : Bool) (rest : List Char) :
    scalar ((if b then "true" else "false").toList ++ rest) = .ok (.bool b, rest) := by
  cases b <;> simp [scalar, words, List.isPrefixOf]

/-- What begins like no string and no container is read as a scalar, at any
depth. -/
theorem value_eq_scalar (fuel depth : Nat) {c : Char} {cs : List Char} (hq : c ≠ '"')
    (ha : c ≠ '[') (ho : c ≠ '\x7b') : value fuel depth (c :: cs) = scalar (c :: cs) := by
  cases depth <;> rw [value, term] <;> simp_all

/-- A number is read without looking at containers. -/
theorem value_of_isNumber (fuel depth : Nat) {t : List Char} (h : IsNumber t) (rest : List Char) :
    value fuel depth (t ++ rest) = scalar (t ++ rest) := by
  obtain ⟨c, cs, rfl, hc⟩ := h.head
  exact value_eq_scalar fuel depth (ne_of_numberHead hc (by decide) (by decide))
    (ne_of_numberHead hc (by decide) (by decide)) (ne_of_numberHead hc (by decide) (by decide))

theorem value_integerText (fuel depth : Nat) {n : Int} (hn : Number.withinLimit n = true)
    {rest : List Char} (h : Ends rest) :
    value fuel depth (Number.integerText n ++ rest) = .ok (.int n, rest) := by
  rw [value_of_isNumber fuel depth (isNumber_integerText n), scalar_integerText hn h]

/-- A string in quotes is read as the text that it spells. -/
theorem value_string (fuel depth : Nat) {s : String} {t : List Char}
    (h : SpellsText s.toList t) (rest : List Char) :
    value fuel depth ('"' :: (t ++ '"' :: rest)) = .ok (.str s, rest) := by
  cases depth <;> rw [value, term, stringBody_of_spellsText h]

/-! ## First characters -/

/-- A value begins with a sign of ASCII, neither with white space nor with a
closing bracket. -/
theorem Spells.head {v : Value} {t : List Char} (h : Spells v t) :
    ∃ c cs, t = c :: cs ∧ c.toNat < 128 ∧ isSpace c = false ∧ c ≠ ']' := by
  cases h with
  | null => exact ⟨'n', _, rfl, by decide, by decide, by decide⟩
  | bool b =>
    cases b with
    | false => exact ⟨'f', _, rfl, by decide, by decide, by decide⟩
    | true => exact ⟨'t', _, rfl, by decide, by decide, by decide⟩
  | @int n _ =>
    obtain ⟨c, cs, hc, hfirst⟩ := (isNumber_integerText n).head
    refine ⟨c, cs, hc, ?_, not_isSpace_of_numberHead hfirst,
      ne_of_numberHead hfirst (by decide) (by decide)⟩
    rcases hfirst with rfl | hd
    · decide
    · have hrange := Number.toNat_of_isDigit hd
      omega
  | str _ => exact ⟨'"', _, rfl, by decide, by decide, by decide⟩
  | emptyList _ => exact ⟨'[', _, rfl, by decide, by decide, by decide⟩
  | list _ _ => exact ⟨'[', _, rfl, by decide, by decide, by decide⟩
  | emptyDict _ => exact ⟨'\x7b', _, rfl, by decide, by decide, by decide⟩
  | dict _ _ _ => exact ⟨'\x7b', _, rfl, by decide, by decide, by decide⟩

theorem SpellsItems.head {vs : List Value} {t : List Char} (h : SpellsItems vs t) :
    ∃ c cs, t = c :: cs ∧ isSpace c = false ∧ c ≠ ']' := by
  cases h with
  | last h _ =>
    obtain ⟨c, cs, rfl, _, hc⟩ := h.head
    exact ⟨c, _, rfl, hc⟩
  | cons h _ _ _ =>
    obtain ⟨c, cs, rfl, _, hc⟩ := h.head
    exact ⟨c, _, rfl, hc⟩

theorem SpellsFields.head {es : List (String × Value)} {t : List Char}
    (h : SpellsFields es t) : ∃ cs, t = '"' :: cs := by
  cases h with
  | last hn _ _ => cases hn; exact ⟨_, rfl⟩
  | cons hn _ _ _ _ => cases hn; exact ⟨_, rfl⟩

/-! ## Containers -/

/-- An item takes a character at least, so the text has enough steps for all of them. -/
theorem length_le_of_spellsItems : ∀ {vs : List Value} {t : List Char},
    SpellsItems vs t → vs.length ≤ t.length
  | _, _, .last _ _ => by
      simp only [List.length_cons, List.length_append, List.length_nil]
      omega
  | _, _, .cons _ _ _ hs => by
      have ih := length_le_of_spellsItems hs
      simp only [List.length_cons, List.length_append]
      omega

/-- The same for fields. -/
theorem length_le_of_spellsFields : ∀ {es : List (String × Value)} {t : List Char},
    SpellsFields es t → es.length ≤ t.length
  | _, _, .last _ _ _ => by
      simp only [List.length_cons, List.length_append, List.length_nil]
      omega
  | _, _, .cons _ _ _ _ hs => by
      have ih := length_le_of_spellsFields hs
      simp only [List.length_cons, List.length_append]
      omega

/-- A spelling of a name is read as the name. -/
theorem fieldName_of_spellsName {name : String} {n rest : List Char} (h : SpellsName name n)
    (hr : ∀ c ∈ rest.head?, isSpace c = false) : fieldName (n ++ rest) = .ok (name, rest) := by
  cases h with
  | mk h hw hw' =>
    rename_i t w w'
    have htext : ('"' :: (t ++ '"' :: (w ++ ':' :: w'))) ++ rest
        = '"' :: (t ++ '"' :: (w ++ ':' :: (w' ++ rest))) := by simp
    have hcolon : skip (w ++ ':' :: (w' ++ rest)) = ':' :: (w' ++ rest) :=
      skip_pad hw fun c hc => by cases hc; decide
    rw [htext, fieldName]
    simp only [stringBody_of_spellsText h, hcolon, skip_pad hw' hr]

/-- A number ends before any sign that cannot continue it. -/
theorem ends_cons {c : Char} (rest : List Char) (hd : c.isDigit = false) (hp : c ≠ '.')
    (he : c ≠ 'e') (hE : c ≠ 'E') : Ends (c :: rest) := by
  rintro a ⟨⟩
  exact ⟨hd, hp, he, hE⟩

theorem ends_pad {w rest : List Char} (hw : IsPad w) (hr : Ends rest) : Ends (w ++ rest) := by
  cases w with
  | nil => exact hr
  | cons c w =>
    have hc := hw c List.mem_cons_self
    simp only [isSpace, Bool.or_eq_true, decide_eq_true_eq] at hc
    rcases hc with ((rfl | rfl) | rfl) | rfl <;>
      exact ends_cons _ (by decide) (by decide) (by decide) (by decide)

/-! One step of each loop, for any reader of items. -/

theorem skip_sign {w : List Char} (hw : IsPad w) {c : Char} (hc : isSpace c = false)
    (rest : List Char) : skip (w ++ c :: rest) = c :: rest :=
  skip_pad hw fun a ha => by cases ha; exact hc

/-- The last item, with the bracket behind it. -/
theorem elements_last {item : Reader Value} {v : Value} {t w rest : List Char} (count : Nat)
    (hw : IsPad w)
    (hread : item (t ++ (w ++ ']' :: rest)) = .ok (v, w ++ ']' :: rest)) :
    elements item (count + 1) (t ++ (w ++ ']' :: rest)) = .ok ([v], rest) := by
  rw [elements, hread]
  simp only [skip_sign hw (show isSpace ']' = false by decide)]

/-- An item with a comma behind it, and the items after that. -/
theorem elements_cons {item : Reader Value} {v : Value} {vs : List Value}
    {t w w' ts rest : List Char} {count : Nat} (hw : IsPad w) (hw' : IsPad w')
    (hhead : ∀ c ∈ (ts ++ rest).head?, isSpace c = false)
    (hread : item (t ++ (w ++ ',' :: (w' ++ (ts ++ rest))))
      = .ok (v, w ++ ',' :: (w' ++ (ts ++ rest))))
    (hmore : elements item count (ts ++ rest) = .ok (vs, rest)) :
    elements item (count + 1) (t ++ (w ++ ',' :: (w' ++ (ts ++ rest))))
      = .ok (v :: vs, rest) := by
  rw [elements, hread]
  simp only [skip_sign hw (show isSpace ',' = false by decide), skip_pad hw' hhead, hmore]

/-- The last field, with the brace behind it. -/
theorem members_last {item : Reader Value} {name : String} {v : Value}
    {n t w rest : List Char} (count : Nat) (hw : IsPad w)
    (hname : fieldName (n ++ (t ++ (w ++ '\x7d' :: rest)))
      = .ok (name, t ++ (w ++ '\x7d' :: rest)))
    (hread : item (t ++ (w ++ '\x7d' :: rest)) = .ok (v, w ++ '\x7d' :: rest)) :
    members item (count + 1) (n ++ (t ++ (w ++ '\x7d' :: rest)))
      = .ok ([(name, v)], rest) := by
  rw [members, hname]
  simp only [hread, skip_sign hw (show isSpace '\x7d' = false by decide)]

/-- A field with a comma behind it, and the fields after that. -/
theorem members_cons {item : Reader Value} {name : String} {v : Value}
    {es : List (String × Value)} {n t w w' ts rest : List Char} {count : Nat}
    (hw : IsPad w) (hw' : IsPad w') (hhead : ∀ c ∈ (ts ++ rest).head?, isSpace c = false)
    (hname : fieldName (n ++ (t ++ (w ++ ',' :: (w' ++ (ts ++ rest)))))
      = .ok (name, t ++ (w ++ ',' :: (w' ++ (ts ++ rest)))))
    (hread : item (t ++ (w ++ ',' :: (w' ++ (ts ++ rest))))
      = .ok (v, w ++ ',' :: (w' ++ (ts ++ rest))))
    (hmore : members item count (ts ++ rest) = .ok (es, rest)) :
    members item (count + 1) (n ++ (t ++ (w ++ ',' :: (w' ++ (ts ++ rest)))))
      = .ok ((name, v) :: es, rest) := by
  rw [members, hname]
  simp only [hread, skip_sign hw (show isSpace ',' = false by decide), skip_pad hw' hhead,
    hmore]

/-- An array that is not empty is read as its items. -/
theorem arrayBody_of_elements {item : Reader Value} {fuel : Nat} {items : List Value}
    {w t rest : List Char} (hw : IsPad w) (h : SpellsItems items t)
    (hread : elements item fuel (t ++ rest) = .ok (items, rest)) :
    arrayBody fuel item (w ++ (t ++ rest)) = .ok (.list items, rest) := by
  obtain ⟨c, cs, rfl, hc, hne⟩ := h.head
  rw [List.cons_append] at hread ⊢
  rw [arrayBody, skip_sign hw hc]
  split
  · rename_i hclose
    exact absurd (List.cons.inj hclose).1 hne
  · rw [hread]

/-- An object that is not empty is read as its fields, if their names differ. -/
theorem objectBody_of_members {item : Reader Value} {fuel : Nat}
    {entries : List (String × Value)} {w t rest : List Char} (hw : IsPad w)
    (hk : (Table.keys entries).Nodup) (h : SpellsFields entries t)
    (hread : members item fuel (t ++ rest) = .ok (entries, rest)) :
    objectBody fuel item (w ++ (t ++ rest)) = .ok (.dict entries, rest) := by
  obtain ⟨cs, rfl⟩ := h.head
  rw [List.cons_append] at hread ⊢
  rw [objectBody, skip_sign hw (by decide)]
  split
  · rename_i hclose
    exact absurd (List.cons.inj hclose).1 (by decide)
  · simp only [hread, Table.ofPairs_of_nodup hk]

/-! ## All values

The induction is over the spelling. An item is read at the depth that its
container leaves, and with the fuel of the whole text. -/

theorem Spells.head_not_space {v : Value} {t : List Char} (h : Spells v t) (rest : List Char) :
    ∀ c ∈ (t ++ rest).head?, isSpace c = false := by
  obtain ⟨c, cs, rfl, _, hc, _⟩ := h.head
  rintro a ⟨⟩
  exact hc

theorem SpellsItems.head_not_space {vs : List Value} {t : List Char} (h : SpellsItems vs t)
    (rest : List Char) : ∀ c ∈ (t ++ rest).head?, isSpace c = false := by
  obtain ⟨c, cs, rfl, hc, _⟩ := h.head
  rintro a ⟨⟩
  exact hc

theorem SpellsFields.head_not_space {es : List (String × Value)} {t : List Char}
    (h : SpellsFields es t) (rest : List Char) :
    ∀ c ∈ (t ++ rest).head?, isSpace c = false := by
  obtain ⟨cs, rfl⟩ := h.head
  rintro a ⟨⟩
  decide

/-- A sign that stands behind an item ends a number. -/
theorem ends_pad_sign {w : List Char} (hw : IsPad w) {c : Char}
    (hc : c ∈ [']', '\x7d', ',']) (rest : List Char) : Ends (w ++ c :: rest) := by
  refine ends_pad hw ?_
  simp only [List.mem_cons, List.not_mem_nil, or_false] at hc
  rcases hc with rfl | rfl | rfl <;>
    exact ends_cons rest (by decide) (by decide) (by decide) (by decide)

mutual

/-- A spelling is read as the value it spells, by induction on the spelling: depth bounds the
containers, fuel the length of the text. -/
theorem value_of_spells : ∀ {v : Value} {t : List Char}, Spells v t →
    ∀ (fuel depth : Nat) (rest : List Char), nesting v ≤ depth → t.length ≤ fuel →
      Ends rest → value fuel depth (t ++ rest) = .ok (v, rest)
  | _, _, .null, fuel, depth, rest, _, _, _ => by
      rw [← scalar_null rest]
      exact value_eq_scalar fuel depth (by decide) (by decide) (by decide)
  | _, _, .bool b, fuel, depth, rest, _, _, _ => by
      rw [← scalar_bool b rest]
      cases b <;> exact value_eq_scalar fuel depth (by decide) (by decide) (by decide)
  | _, _, .int hn, fuel, depth, rest, _, _, hr => value_integerText fuel depth hn hr
  | _, _, .str h, fuel, depth, rest, _, _, _ => by
      have hread := value_string fuel depth h rest
      simpa using hread
  | _, _, .emptyList hw, fuel, depth + 1, rest, _, _, _ => by
      have hclose := skip_sign hw (show isSpace ']' = false by decide) rest
      simp [value, term, arrayBody, hclose]
  | _, _, .list hw h, fuel, depth + 1, rest, hdepth, hfuel, _ => by
      simp only [nesting, Nat.add_le_add_iff_right] at hdepth
      simp only [List.length_cons, List.length_append] at hfuel
      have hcount := length_le_of_spellsItems h
      have hread := elements_of_spells h fuel depth fuel rest hdepth (by omega) (by omega)
      rw [List.cons_append, List.append_assoc, value, term]
      exact arrayBody_of_elements hw h hread
  | _, _, .emptyDict hw, fuel, depth + 1, rest, _, _, _ => by
      have hclose := skip_sign hw (show isSpace '\x7d' = false by decide) rest
      simp [value, term, objectBody, hclose]
  | _, _, .dict hw hk h, fuel, depth + 1, rest, hdepth, hfuel, _ => by
      simp only [nesting, Nat.add_le_add_iff_right] at hdepth
      simp only [List.length_cons, List.length_append] at hfuel
      have hcount := length_le_of_spellsFields h
      have hread := members_of_spells h fuel depth fuel rest hdepth (by omega) (by omega)
      rw [List.cons_append, List.append_assoc, value, term]
      exact objectBody_of_members hw hk h hread

/-- Items, within the number of steps that there are. -/
theorem elements_of_spells : ∀ {vs : List Value} {t : List Char}, SpellsItems vs t →
    ∀ (fuel depth count : Nat) (rest : List Char), nestingOfItems vs ≤ depth →
      t.length ≤ fuel → vs.length ≤ count →
      elements (value fuel depth) count (t ++ rest) = .ok (vs, rest)
  | _, _, @SpellsItems.last v t w h hw, fuel, depth, count + 1, rest, hdepth, hfuel, _ => by
      simp only [nestingOfItems, Nat.max_le] at hdepth
      simp only [List.length_append] at hfuel
      have hread := value_of_spells h fuel depth (w ++ ']' :: rest) hdepth.1 (by omega)
        (ends_pad_sign hw (by decide) rest)
      simpa using elements_last count hw hread
  | _, _, @SpellsItems.cons v vs t ts w w' h hw hw' hs, fuel, depth, count + 1, rest, hdepth,
      hfuel, hcount => by
      simp only [nestingOfItems, Nat.max_le] at hdepth
      simp only [List.length_append, List.length_cons] at hfuel hcount
      have hread := value_of_spells h fuel depth (w ++ ',' :: (w' ++ (ts ++ rest))) hdepth.1
        (by omega) (ends_pad_sign hw (by decide) _)
      have hmore := elements_of_spells hs fuel depth count rest hdepth.2 (by omega) (by omega)
      simpa using elements_cons hw hw' (hs.head_not_space rest) hread hmore

/-- Fields, likewise. -/
theorem members_of_spells : ∀ {es : List (String × Value)} {t : List Char},
    SpellsFields es t →
    ∀ (fuel depth count : Nat) (rest : List Char), nestingOfFields es ≤ depth →
      t.length ≤ fuel → es.length ≤ count →
      members (value fuel depth) count (t ++ rest) = .ok (es, rest)
  | _, _, @SpellsFields.last name v n t w hn h hw, fuel, depth, count + 1, rest, hdepth,
      hfuel, _ => by
      simp only [nestingOfFields, Nat.max_le] at hdepth
      simp only [List.length_append] at hfuel
      have hname := fieldName_of_spellsName hn (h.head_not_space (w ++ '\x7d' :: rest))
      have hread := value_of_spells h fuel depth (w ++ '\x7d' :: rest) hdepth.1 (by omega)
        (ends_pad_sign hw (by decide) rest)
      simpa using members_last count hw hname hread
  | _, _, @SpellsFields.cons name v es n t ts w w' hn h hw hw' hs, fuel, depth, count + 1,
      rest, hdepth, hfuel, hcount => by
      simp only [nestingOfFields, Nat.max_le] at hdepth
      simp only [List.length_append, List.length_cons] at hfuel hcount
      have hname := fieldName_of_spellsName hn
        (h.head_not_space (w ++ ',' :: (w' ++ (ts ++ rest))))
      have hread := value_of_spells h fuel depth (w ++ ',' :: (w' ++ (ts ++ rest))) hdepth.1
        (by omega) (ends_pad_sign hw (by decide) _)
      have hmore := members_of_spells hs fuel depth count rest hdepth.2 (by omega) (by omega)
      simpa using members_cons hw hw' (hs.head_not_space rest) hname hread hmore

end

/-- **Reading.** A text that spells a value is read as that value, if the value
does not nest too deep. -/
theorem read_of_spells {v : Value} {t : List Char} {depth : Nat} (h : Spells v t)
    (hdepth : nesting v ≤ depth) : read depth t = .ok v := by
  have hspace := h.head_not_space []
  have hread := value_of_spells h (t.length + 1) depth [] hdepth (by omega) ends_nil
  rw [List.append_nil] at hspace hread
  have hmark : t.head? ≠ some (Char.ofNat 0xFEFF) := by
    obtain ⟨c, cs, rfl, hc, _⟩ := h.head
    rintro ⟨⟩
    exact absurd hc (by decide)
  rw [read, if_neg hmark, document, skip_none hspace, hread]
  rfl

end CodeAtlas.Json
