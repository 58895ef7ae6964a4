/-
CodeAtlas.Proofs.Json.Decoded — what a reader returns, and what it leaves.

`Yields P r` says of a reader that all it returns has the property `P`, and that what it
leaves is an end of the text that it was given. There is one lemma for each reader, and
the property of the items of a container is handed on to the container. Three things
follow, the second by a relation of its own that goes through the same readers:

* what has been read can be written, within the depth in which it was read
  (`obstacle?_of_document`);
* less depth makes a text be refused for its depth, and changes nothing else
  (`document_fallsShort`);
* the fuel that the items of a container are counted by is no limit, once it is more than
  the text is long (`value_fuel`).
-/
import CodeAtlas.Json.Encoding
import CodeAtlas.Proofs.Json.Writer
import CodeAtlas.Proofs.Number.Integer
import CodeAtlas.Proofs.Table
import CodeAtlas.Value.Display

namespace CodeAtlas.Json

/-- All that is read has the property, and an end of the text is left. -/
def Yields {α : Type} (P : α → Prop) (r : Reader α) : Prop :=
  ∀ cs a rest, r cs = .ok (a, rest) → P a ∧ rest <:+ cs

theorem skip_suffix (cs : List Char) : skip cs <:+ cs := List.dropWhile_suffix _

/-- What stands behind a sign, once blanks have been skipped. -/
theorem suffix_of_skip {c : Char} {cs rest : List Char} (h : skip cs = c :: rest) :
    rest <:+ cs :=
  (List.suffix_cons c rest).trans (h ▸ skip_suffix cs)

/-- Going on behind a sign makes the text shorter, which is what readers recurse on. -/
theorem length_skip_lt {c : Char} {cs rest : List Char} (h : skip cs = c :: rest) :
    (skip rest).length < cs.length := by
  have hskip := (skip_suffix rest).length_le
  have hsign := (h ▸ skip_suffix cs).length_le
  simp only [List.length_cons] at hsign
  omega

/-! ## Strings -/

/-- A unit is put in front only of units that were read. -/
theorem push_eq_ok {n : Nat} {read : Except Halt (List Nat × List Char)} {units : List Nat}
    {rest : List Char} (h : push n read = .ok (units, rest)) : ∃ more, read = .ok (more, rest) := by
  cases read with
  | error halt => cases h
  | ok p =>
    obtain ⟨more, after⟩ := p
    cases h
    exact ⟨more, rfl⟩

/-- A string leaves an end of the text. -/
theorem yields_stringUnits (opening : List Char) :
    Yields (fun _ => True) (stringUnits opening) := by
  intro cs
  fun_induction stringUnits opening cs with
  | case1 => intro units rest h; cases h
  | case2 rest => intro units rest' h; cases h; exact ⟨trivial, List.suffix_cons _ _⟩
  | case3 => intro units rest h; cases h
  | case4 a b c d more n _ _ ih =>
    intro units rest h
    obtain ⟨units', h'⟩ := push_eq_ok h
    exact ⟨trivial, (ih units' rest h').2.trans ⟨['\\', 'u', a, b, c, d], rfl⟩⟩
  | case5 => intro units rest h; cases h
  | case6 => intro units rest h; cases h
  | case7 e more _ _ c _ ih =>
    intro units rest h
    obtain ⟨units', h'⟩ := push_eq_ok h
    exact ⟨trivial, (ih units' rest h').2.trans ⟨['\\', e], rfl⟩⟩
  | case8 => intro units rest h; cases h
  | case9 => intro units rest h; cases h
  | case10 c more _ _ _ _ _ _ ih =>
    intro units rest h
    obtain ⟨units', h'⟩ := push_eq_ok h
    exact ⟨trivial, (ih units' rest h').2.trans (List.suffix_cons _ _)⟩

theorem yields_stringBody (opening : List Char) : Yields (fun _ => True) (stringBody opening) := by
  intro cs s rest h
  unfold stringBody at h
  split at h
  · next units after hunits =>
    cases h
    exact yields_stringUnits opening cs units rest hunits
  · cases h

/-- The name of a field leaves an end of the text, the colon taken off. -/
theorem yields_fieldName : Yields (fun _ => True) fieldName := by
  intro cs name rest h
  unfold fieldName at h
  split at h
  · next body =>
    split at h
    · cases h
    · next key after hkey =>
      split at h
      · next last hcolon =>
        cases h
        have hafter := (yields_stringBody _ body name after hkey).2
        have hlast := suffix_of_skip hcolon
        exact ⟨trivial, (skip_suffix last).trans
          (hlast.trans (hafter.trans (List.suffix_cons _ _)))⟩
      · cases h
  · cases h

/-! ## Numbers -/

/-- So many digits stand for a number below that power of ten. -/
theorem digitsValue_lt {ds : List Char} (h : ∀ d ∈ ds, d.isDigit = true) :
    digitsValue ds < Nat.pow 10 ds.length := by
  have hmap : digitsValue ds = Number.ofDigits (ds.map fun d => d.toNat - 48) := by
    simp [digitsValue, Number.ofDigits, List.foldl_map]
  have hlt : Number.ofDigits (ds.map fun d => d.toNat - 48)
      < Nat.pow 10 (ds.map fun d => d.toNat - 48).length := by
    apply Number.ofDigits_lt
    intro n hn
    obtain ⟨d, hd, rfl⟩ := List.mem_map.mp hn
    have hrange := Number.toNat_of_isDigit (h d hd)
    omega
  rw [hmap]
  rwa [List.length_map] at hlt

/-- The whole part of a numeral is made of digits. -/
theorem isDigit_of_mem_wholePart {cs whole rest : List Char}
    (h : wholePart cs = some (whole, rest)) : (∀ d ∈ whole, d.isDigit = true) ∧ rest <:+ cs := by
  cases cs with
  | nil => cases h
  | cons c cs =>
    rw [wholePart] at h
    split at h
    · cases h
      exact ⟨by simp, List.suffix_cons _ _⟩
    · split at h
      · cases h
        refine ⟨?_, List.dropWhile_suffix _⟩
        intro d hd
        exact List.all_eq_true.mp (List.all_takeWhile (p := Char.isDigit)) d hd
      · cases h

theorem fractionPart_suffix (cs : List Char) : (fractionPart cs).2 <:+ cs := by
  unfold fractionPart
  split
  · next rest =>
    dsimp only [spanDigits]
    split
    · exact List.suffix_refl _
    · exact (List.dropWhile_suffix _).trans (List.suffix_cons _ _)
  · exact List.suffix_refl _

theorem exponentSign_suffix (cs : List Char) : (exponentSign cs).2 <:+ cs := by
  unfold exponentSign
  split
  · exact List.suffix_cons _ _
  · exact List.suffix_cons _ _
  · exact List.suffix_refl _

theorem exponentPart_suffix (cs : List Char) : (exponentPart cs).2 <:+ cs := by
  cases cs with
  | nil => exact List.suffix_refl _
  | cons c rest =>
    dsimp only [exponentPart, spanDigits]
    split
    · split
      · exact List.suffix_refl _
      · exact (List.dropWhile_suffix _).trans
          ((exponentSign_suffix rest).trans (List.suffix_cons _ _))
    · exact List.suffix_refl _

/-- The whole part of what is read as a numeral is made of digits, and an end of the text is
left. -/
theorem isDigit_of_mem_numeral {cs rest : List Char} {n : Numeral}
    (h : numeral cs = some (n, rest)) : (∀ d ∈ n.whole, d.isDigit = true) ∧ rest <:+ cs := by
  unfold numeral at h
  extract_lets negative unsigned at h
  have hunsigned : unsigned <:+ cs := by
    dsimp only [unsigned]
    split
    · exact List.tail_suffix cs
    · exact List.suffix_refl cs
  split at h
  · cases h
  · next whole after hwhole =>
    cases h
    obtain ⟨hdigits, hafter⟩ := isDigit_of_mem_wholePart hwhole
    refine ⟨hdigits, ?_⟩
    exact (exponentPart_suffix _).trans ((fractionPart_suffix _).trans (hafter.trans hunsigned))

/-! ## Values -/

theorem obstacle?_word {w : List Char × Value} (h : w ∈ words) (depth : Nat) :
    obstacle? depth w.2 = none := by
  simp only [words, List.mem_cons, List.not_mem_nil, or_false] at h
  rcases h with rfl | rfl | rfl | rfl | rfl | rfl <;> cases depth <;> simp [obstacle?]

/-- An integer that has been read has no more digits than can be written. -/
theorem obstacle?_numeral {n : Numeral} {v : Value} (hdigits : ∀ d ∈ n.whole, d.isDigit = true)
    (h : n.value = .ok v) (depth : Nat) : obstacle? depth v = none := by
  unfold Numeral.value at h
  split at h
  · split at h
    · cases h
    · next hcount =>
      cases h
      have hlimit := Number.withinLimit_of_lt (n.negative = true) (digitsValue_lt hdigits)
        (Nat.le_of_not_lt hcount)
      rw [obstacle?, if_pos hlimit]
  · cases h
    cases depth <;> simp [obstacle?]

/-- What is read without a container can be written in every depth: an integer that was read is
short enough. -/
theorem yields_scalar : Yields (fun v => ∀ depth, obstacle? depth v = none) scalar := by
  intro cs v rest h
  unfold scalar at h
  split at h
  · next w hw =>
    cases h
    exact ⟨obstacle?_word (List.mem_of_find?_eq_some hw), List.drop_suffix _ _⟩
  · split at h
    · cases h
    · next n after hn =>
      split at h
      · next u hu =>
        cases h
        obtain ⟨hdigits, hafter⟩ := isDigit_of_mem_numeral hn
        exact ⟨obstacle?_numeral hdigits hu, hafter⟩
      · cases h

section Containers

variable {P : Value → Prop} {item : Reader Value}

/-- The items of an array, by induction on how many can still be read. -/
theorem Yields.elements (h : Yields P item) (fuel : Nat) :
    Yields (fun vs => ∀ v ∈ vs, P v) (elements item fuel) := by
  induction fuel with
  | zero => intro cs vs rest hread; cases hread
  | succ fuel ih =>
    intro cs vs rest hread
    unfold Json.elements at hread
    split at hread
    · cases hread
    · next v after hv =>
      obtain ⟨hP, hafter⟩ := h cs v after hv
      split at hread
      · next last hlast =>
        cases hread
        exact ⟨by simpa using hP, (suffix_of_skip hlast).trans hafter⟩
      · next last hlast =>
        split at hread
        · next ws last' hws =>
          cases hread
          obtain ⟨hall, hrest⟩ := ih _ ws rest hws
          refine ⟨List.forall_mem_cons.mpr ⟨hP, hall⟩, ?_⟩
          exact hrest.trans ((skip_suffix last).trans ((suffix_of_skip hlast).trans hafter))
        · cases hread
      · cases hread

/-- The fields of an object, likewise. -/
theorem Yields.members (h : Yields P item) (fuel : Nat) :
    Yields (fun es => ∀ e ∈ es, P e.2) (members item fuel) := by
  induction fuel with
  | zero => intro cs es rest hread; cases hread
  | succ fuel ih =>
    intro cs es rest hread
    unfold Json.members at hread
    split at hread
    · cases hread
    · next name front hname =>
      have hfront := (yields_fieldName cs name front hname).2
      split at hread
      · cases hread
      · next v after hv =>
        obtain ⟨hP, hafter⟩ := h front v after hv
        split at hread
        · next last hlast =>
          cases hread
          exact ⟨by simpa using hP, (suffix_of_skip hlast).trans (hafter.trans hfront)⟩
        · next last hlast =>
          split at hread
          · next fs last' hfs =>
            cases hread
            obtain ⟨hall, hrest⟩ := ih _ fs rest hfs
            refine ⟨List.forall_mem_cons.mpr ⟨hP, hall⟩, ?_⟩
            exact hrest.trans ((skip_suffix last).trans
              ((suffix_of_skip hlast).trans (hafter.trans hfront)))
          · cases hread
        · cases hread

/-- An array holds what its items are read as. -/
theorem Yields.arrayBody (h : Yields P item) (fuel : Nat) :
    Yields (fun v => ∃ vs, v = .list vs ∧ ∀ v ∈ vs, P v) (arrayBody fuel item) := by
  intro cs v rest hread
  unfold Json.arrayBody at hread
  split at hread
  · next last hlast =>
    cases hread
    exact ⟨⟨[], rfl, by simp⟩, suffix_of_skip hlast⟩
  · split at hread
    · next vs last hvs =>
      cases hread
      obtain ⟨hall, hrest⟩ := h.elements fuel _ vs rest hvs
      exact ⟨⟨vs, rfl, hall⟩, hrest.trans (skip_suffix cs)⟩
    · cases hread

/-- An object holds what its fields are read as; a repeated name drops a value and adds none. -/
theorem Yields.objectBody (h : Yields P item) (fuel : Nat) :
    Yields (fun v => ∃ es, v = .dict es ∧ ∀ e ∈ es, P e.2) (objectBody fuel item) := by
  intro cs v rest hread
  unfold Json.objectBody at hread
  split at hread
  · next last hlast =>
    cases hread
    exact ⟨⟨[], rfl, by simp⟩, suffix_of_skip hlast⟩
  · split at hread
    · next es last hes =>
      cases hread
      obtain ⟨hall, hrest⟩ := h.members fuel _ es rest hes
      exact ⟨⟨_, rfl, fun e he => hall e (Table.mem_of_mem_ofPairs he)⟩,
        hrest.trans (skip_suffix cs)⟩
    · cases hread

/-- A value is a scalar, a string, an array or an object, and has what these have. -/
theorem yields_term {array object : Reader Value} (hscalar : Yields P scalar)
    (hstr : ∀ s, P (.str s)) (harray : Yields P array) (hobject : Yields P object) :
    Yields P (term array object) := by
  intro cs v rest hread
  unfold term at hread
  split at hread
  · next body =>
    split at hread
    · next s after hs =>
      cases hread
      exact ⟨hstr s, (yields_stringBody _ body s rest hs).2.trans (List.suffix_cons _ _)⟩
    · cases hread
  · next body =>
    obtain ⟨hP, hrest⟩ := harray body v rest hread
    exact ⟨hP, hrest.trans (List.suffix_cons _ _)⟩
  · next body =>
    obtain ⟨hP, hrest⟩ := hobject body v rest hread
    exact ⟨hP, hrest.trans (List.suffix_cons _ _)⟩
  · exact hscalar cs v rest hread

end Containers

theorem itemsObstacle?_eq_none_iff {depth : Nat} {vs : List Value} :
    itemsObstacle? depth vs = none ↔ ∀ v ∈ vs, obstacle? depth v = none := by
  induction vs with
  | nil => simp [itemsObstacle?]
  | cons v vs ih => simp [itemsObstacle?, ih]

theorem entriesObstacle?_eq_none_iff {depth : Nat} {es : List (String × Value)} :
    entriesObstacle? depth es = none ↔ ∀ e ∈ es, obstacle? depth e.2 = none := by
  induction es with
  | nil => simp [entriesObstacle?]
  | cons e es ih =>
    obtain ⟨k, v⟩ := e
    rw [entriesObstacle?, Option.or_eq_none_iff, ih, List.forall_mem_cons]

/-- A list can be written if its items can, one level less deep. -/
theorem obstacle?_list_iff {depth : Nat} {items : List Value} :
    obstacle? (depth + 1) (.list items) = none ↔ ∀ v ∈ items, obstacle? depth v = none := by
  rw [obstacle?, itemsObstacle?_eq_none_iff]

/-- An object can be written if the values of its fields can, one level less deep. -/
theorem obstacle?_dict_iff {depth : Nat} {fields : List (String × Value)} :
    obstacle? (depth + 1) (.dict fields) = none ↔ ∀ f ∈ fields, obstacle? depth f.2 = none := by
  rw [obstacle?, entriesObstacle?_eq_none_iff]

/-- What is read within a depth can be written within that depth. -/
theorem yields_value (fuel depth : Nat) :
    Yields (fun v => obstacle? depth v = none) (value fuel depth) := by
  have hscalar : ∀ depth, Yields (fun v => obstacle? depth v = none) scalar := by
    intro depth cs v rest h
    obtain ⟨hnone, hrest⟩ := yields_scalar cs v rest h
    exact ⟨hnone depth, hrest⟩
  induction depth with
  | zero =>
    rw [value]
    refine yields_term (hscalar 0) (by simp [obstacle?]) ?_ ?_ <;>
      · intro cs v rest h
        cases h
  | succ depth ih =>
    rw [value]
    refine yields_term (hscalar _) (by simp [obstacle?]) ?_ ?_
    · intro cs v rest h
      obtain ⟨⟨vs, rfl, hall⟩, hrest⟩ := ih.arrayBody fuel cs v rest h
      exact ⟨obstacle?_list_iff.mpr hall, hrest⟩
    · intro cs v rest h
      obtain ⟨⟨es, rfl, hall⟩, hrest⟩ := ih.objectBody fuel cs v rest h
      exact ⟨obstacle?_dict_iff.mpr hall, hrest⟩

/-! ## Values with a text -/

mutual

/-- What can be written in some depth can be written in every depth that it keeps to. -/
theorem obstacle?_of_nesting : ∀ (v : Value) {depth other : Nat}, obstacle? depth v = none →
    nesting v ≤ other → obstacle? other v = none
  | .null, _, _ | .bool _, _, _ | .float _, _, _ | .str _, _, _ => fun _ _ => by
      simp [obstacle?]
  | .int n, _, _ => fun h _ => by
      rw [obstacle?] at h ⊢
      exact h
  | .member m, _, _ => fun h _ => by simp [obstacle?] at h
  | .list items, 0, _ | .tuple items, 0, _ | .dict entries, 0, _ => fun h _ => by
      simp [obstacle?] at h
  | .list _, _ + 1, 0 | .tuple _, _ + 1, 0 | .dict _, _ + 1, 0 => fun _ hle => by
      simp [nesting] at hle
  | .list items, depth + 1, other + 1 | .tuple items, depth + 1, other + 1 => fun h hle => by
      rw [obstacle?] at h ⊢
      rw [nesting] at hle
      exact itemsObstacle?_of_nesting items h (Nat.le_of_succ_le_succ hle)
  | .dict entries, depth + 1, other + 1 => fun h hle => by
      rw [obstacle?] at h ⊢
      rw [nesting] at hle
      exact entriesObstacle?_of_nesting entries h (Nat.le_of_succ_le_succ hle)

theorem itemsObstacle?_of_nesting : ∀ (vs : List Value) {depth other : Nat},
    itemsObstacle? depth vs = none → nestingOfItems vs ≤ other → itemsObstacle? other vs = none
  | [], _, _ => fun _ _ => by rw [itemsObstacle?]
  | v :: vs, depth, other => fun h hle => by
      rw [itemsObstacle?, Option.or_eq_none_iff] at h ⊢
      rw [nestingOfItems, Nat.max_le] at hle
      exact ⟨obstacle?_of_nesting v h.1 hle.1, itemsObstacle?_of_nesting vs h.2 hle.2⟩

theorem entriesObstacle?_of_nesting : ∀ (es : List (String × Value)) {depth other : Nat},
    entriesObstacle? depth es = none → nestingOfFields es ≤ other →
      entriesObstacle? other es = none
  | [], _, _ => fun _ _ => by rw [entriesObstacle?]
  | (_, v) :: es, depth, other => fun h hle => by
      rw [entriesObstacle?, Option.or_eq_none_iff] at h ⊢
      rw [nestingOfFields, Nat.max_le] at hle
      exact ⟨obstacle?_of_nesting v h.1 hle.1, entriesObstacle?_of_nesting es h.2 hle.2⟩

end

/-- The value has JSON text, given depth enough. -/
def HasText (v : Value) : Prop := ∃ depth, obstacle? depth v = none

/-- Depth is all that can keep a value with a text from being written. -/
theorem HasText.obstacle?_iff {v : Value} (h : HasText v) {depth : Nat} :
    obstacle? depth v = none ↔ nesting v ≤ depth := by
  obtain ⟨other, hother⟩ := h
  exact ⟨nesting_le_of_obstacle? v depth, obstacle?_of_nesting v hother⟩

mutual

/-- What can be written in JSON can be written in messages. -/
theorem isWritable_of_obstacle? : ∀ (v : Value) (depth : Nat), obstacle? depth v = none →
    v.isWritable = true
  | .null, _ | .bool _, _ | .float _, _ | .str _, _ | .member _, _ => fun _ => by
      simp [Value.isWritable]
  | .int n, depth => fun h => by
      rw [obstacle?] at h
      rw [Value.isWritable]
      split at h
      · next hlimit => exact hlimit
      · cases h
  | .list items, 0 | .tuple items, 0 | .dict entries, 0 => fun h => by simp [obstacle?] at h
  | .list items, depth + 1 | .tuple items, depth + 1 => fun h => by
      rw [obstacle?] at h
      rw [Value.isWritable]
      exact areWritable_of_itemsObstacle? items depth h
  | .dict entries, depth + 1 => fun h => by
      rw [obstacle?] at h
      rw [Value.isWritable]
      exact fieldsWritable_of_entriesObstacle? entries depth h

theorem areWritable_of_itemsObstacle? : ∀ (vs : List Value) (depth : Nat),
    itemsObstacle? depth vs = none → Value.areWritable vs = true
  | [], _ => fun _ => by rw [Value.areWritable]
  | v :: vs, depth => fun h => by
      rw [itemsObstacle?, Option.or_eq_none_iff] at h
      rw [Value.areWritable, isWritable_of_obstacle? v depth h.1,
        areWritable_of_itemsObstacle? vs depth h.2]
      rfl

theorem fieldsWritable_of_entriesObstacle? : ∀ (es : List (String × Value)) (depth : Nat),
    entriesObstacle? depth es = none → Value.fieldsWritable es = true
  | [], _ => fun _ => by rw [Value.fieldsWritable]
  | (_, v) :: es, depth => fun h => by
      rw [entriesObstacle?, Option.or_eq_none_iff] at h
      rw [Value.fieldsWritable, isWritable_of_obstacle? v depth h.1,
        fieldsWritable_of_entriesObstacle? es depth h.2]
      rfl

end

/-- What has JSON text can be shown in a message, too. -/
theorem HasText.isWritable {v : Value} (h : HasText v) : v.isWritable = true := by
  obtain ⟨depth, hdepth⟩ := h
  exact isWritable_of_obstacle? v depth hdepth

mutual

/-- Text brings back what is free of floating-point numbers and short enough. -/
theorem isExact_of_isFloatFree : ∀ v : Value, isFloatFree v = true → v.isWritable = true →
    isExact v = true
  | .null | .bool _ | .str _ => fun _ _ => by simp [isExact, isData]
  | .int n => fun _ hwritable => by
      rw [Value.isWritable] at hwritable
      rw [isExact, isData]
      exact hwritable
  | .list items => fun h hwritable => by
      rw [isFloatFree, isData] at h
      rw [Value.isWritable] at hwritable
      rw [isExact, isData]
      exact areExact_of_areFloatFree items h hwritable
  | .dict entries => fun h hwritable => by
      rw [isFloatFree, isData, Bool.and_eq_true] at h
      rw [Value.isWritable] at hwritable
      rw [isExact, isData, Bool.and_eq_true]
      exact ⟨h.1, fieldsExact_of_fieldsFloatFree entries h.2 hwritable⟩
  | .float _ | .tuple _ | .member _ => fun h _ => by simp [isFloatFree, isData] at h

theorem areExact_of_areFloatFree : ∀ vs : List Value, areData (fun _ => true) vs = true →
    Value.areWritable vs = true → areData Number.withinLimit vs = true
  | [] => fun _ _ => by rw [areData]
  | v :: vs => fun h hwritable => by
      rw [areData, Bool.and_eq_true] at h
      rw [Value.areWritable, Bool.and_eq_true] at hwritable
      rw [areData, Bool.and_eq_true]
      exact ⟨isExact_of_isFloatFree v h.1 hwritable.1,
        areExact_of_areFloatFree vs h.2 hwritable.2⟩

theorem fieldsExact_of_fieldsFloatFree : ∀ es : List (String × Value),
    fieldsData (fun _ => true) es = true → Value.fieldsWritable es = true →
      fieldsData Number.withinLimit es = true
  | [] => fun _ _ => by rw [fieldsData]
  | (_, v) :: es => fun h hwritable => by
      rw [fieldsData, Bool.and_eq_true] at h
      rw [Value.fieldsWritable, Bool.and_eq_true] at hwritable
      rw [fieldsData, Bool.and_eq_true]
      exact ⟨isExact_of_isFloatFree v h.1 hwritable.1,
        fieldsExact_of_fieldsFloatFree es h.2 hwritable.2⟩

end

/-! ## Decoded documents -/

def IsDecoded (v : Value) : Prop := ∃ depth text, document depth text = .ok v

theorem isDecoded_of_read {depth : Nat} {text : List Char} {v : Value}
    (h : read depth text = .ok v) : IsDecoded v := by
  unfold read at h
  split at h
  · cases h
  · exact ⟨depth, text, h⟩

/-- What bytes say, some text says in the same depth. -/
theorem document_of_readBytes {depth : Nat} {bytes : List UInt8} {v : Value}
    (h : readBytes depth bytes = .ok v) : ∃ text, document depth text = .ok v := by
  unfold readBytes at h
  split at h
  · cases h
  · next text _ =>
    split at h
    · cases h
    · next u hu =>
      cases h
      exact ⟨text, hu⟩

theorem isDecoded_of_readBytes {depth : Nat} {bytes : List UInt8} {v : Value}
    (h : readBytes depth bytes = .ok v) : IsDecoded v :=
  ⟨depth, document_of_readBytes h⟩

/-- A value that text brings back is what its own text says. -/
theorem isDecoded_of_isExact {v : Value} (h : isExact v = true) : IsDecoded v := by
  have hblank : Layout.inline.IsBlank := trivial
  exact isDecoded_of_read (read_render hblank h (Nat.le_refl _))

/-- A document keeps to the depth in which it was read. -/
theorem obstacle?_of_document {depth : Nat} {text : List Char} {v : Value}
    (h : document depth text = .ok v) : obstacle? depth v = none := by
  unfold document at h
  split at h
  · cases h
  · next u rest hu =>
    split at h
    · cases h
      exact (yields_value _ _ _ v rest hu).1
    · cases h

/-- What was read can be written. -/
theorem IsDecoded.hasText {v : Value} (h : IsDecoded v) : HasText v := by
  obtain ⟨depth, text, htext⟩ := h
  exact ⟨depth, obstacle?_of_document htext⟩

/-! ## Depth -/

/-- The first reader says what the second says, unless it stops at a container that is too
deep for it. -/
def FallsShort {α : Type} (r r' : Reader α) : Prop :=
  ∀ cs, r cs = r' cs ∨ ∃ container, r cs = .error (.tooDeep container)

namespace FallsShort

variable {item item' : Reader Value}

/-- Items that one reader finds too deep and the other does not. -/
theorem elements (h : FallsShort item item') (fuel : Nat) :
    FallsShort (elements item fuel) (elements item' fuel) := by
  induction fuel with
  | zero => exact fun cs => .inl rfl
  | succ fuel ih =>
    intro cs
    rw [Json.elements, Json.elements]
    rcases h cs with hitem | ⟨container, hitem⟩
    · rw [hitem]
      cases item' cs with
      | error halt => exact .inl rfl
      | ok p =>
        dsimp only
        split
        · exact .inl rfl
        · next rest hcomma =>
          rcases ih (skip rest) with hmore | ⟨container, hmore⟩
          · rw [hmore]
            exact .inl rfl
          · rw [hmore]
            exact .inr ⟨container, rfl⟩
        · exact .inl rfl
    · rw [hitem]
      exact .inr ⟨container, rfl⟩

/-- Fields, likewise. -/
theorem members (h : FallsShort item item') (fuel : Nat) :
    FallsShort (members item fuel) (members item' fuel) := by
  induction fuel with
  | zero => exact fun cs => .inl rfl
  | succ fuel ih =>
    intro cs
    rw [Json.members, Json.members]
    cases fieldName cs with
    | error halt => exact .inl rfl
    | ok q =>
      dsimp only
      rcases h q.2 with hitem | ⟨container, hitem⟩
      · rw [hitem]
        cases item' q.2 with
        | error halt => exact .inl rfl
        | ok p =>
          dsimp only
          split
          · exact .inl rfl
          · next rest hcomma =>
            rcases ih (skip rest) with hmore | ⟨container, hmore⟩
            · rw [hmore]
              exact .inl rfl
            · rw [hmore]
              exact .inr ⟨container, rfl⟩
          · exact .inl rfl
      · rw [hitem]
        exact .inr ⟨container, rfl⟩

theorem arrayBody (h : FallsShort item item') (fuel : Nat) :
    FallsShort (arrayBody fuel item) (arrayBody fuel item') := by
  intro cs
  unfold Json.arrayBody
  split
  · exact .inl rfl
  · next hclosed =>
    rcases h.elements fuel (skip cs) with hitems | ⟨container, hitems⟩
    · rw [hitems]
      exact .inl rfl
    · rw [hitems]
      exact .inr ⟨container, rfl⟩

theorem objectBody (h : FallsShort item item') (fuel : Nat) :
    FallsShort (objectBody fuel item) (objectBody fuel item') := by
  intro cs
  unfold Json.objectBody
  split
  · exact .inl rfl
  · next hclosed =>
    rcases h.members fuel (skip cs) with hfields | ⟨container, hfields⟩
    · rw [hfields]
      exact .inl rfl
    · rw [hfields]
      exact .inr ⟨container, rfl⟩

/-- Only containers recurse, so only they can make a difference. -/
theorem term {array array' object object' : Reader Value} (harray : FallsShort array array')
    (hobject : FallsShort object object') :
    FallsShort (term array object) (term array' object') := by
  intro cs
  unfold Json.term
  split
  · exact .inl rfl
  · exact harray _
  · exact hobject _
  · exact .inl rfl

/-- A reader with less depth falls short of one with more. -/
theorem value (fuel : Nat) {depth deeper : Nat} (h : depth ≤ deeper) :
    FallsShort (value fuel depth) (value fuel deeper) := by
  induction depth generalizing deeper with
  | zero =>
    have hstop : ∀ (container : Container) (r : Reader Value),
        FallsShort (fun _ => .error (.tooDeep container)) r :=
      fun container r cs => .inr ⟨container, rfl⟩
    cases deeper with
    | zero => exact fun cs => .inl rfl
    | succ deeper => exact term (hstop .array _) (hstop .object _)
  | succ depth ih =>
    obtain ⟨deeper, rfl⟩ : ∃ d, deeper = d + 1 := ⟨deeper - 1, by omega⟩
    have hitem := ih (Nat.le_of_succ_le_succ h)
    exact term (hitem.arrayBody fuel) (hitem.objectBody fuel)

end FallsShort

/-- The text is refused for its depth. -/
def IsTooDeep (depth : Nat) (text : List Char) : Prop :=
  ∃ container, document depth text = .error (.tooDeep container)

/-- With less depth a text says the same, or is refused for its depth. -/
theorem document_fallsShort {depth deeper : Nat} (h : depth ≤ deeper) (text : List Char) :
    document depth text = document deeper text ∨ IsTooDeep depth text := by
  unfold IsTooDeep document
  rcases FallsShort.value (text.length + 1) h (skip text) with hvalue | ⟨container, hvalue⟩
  · rw [hvalue]
    exact .inl rfl
  · rw [hvalue]
    exact .inr ⟨container, rfl⟩

/-- What a text says with some depth it says with more. -/
theorem document_mono {depth deeper : Nat} (h : depth ≤ deeper) {text : List Char} {v : Value}
    (hv : document depth text = .ok v) : document deeper text = .ok v := by
  rcases document_fallsShort h text with heq | ⟨container, hdeep⟩
  · rw [← heq, hv]
  · rw [hv] at hdeep
    cases hdeep

/-! ## Fuel -/

section Fuel

variable {P : Value → Prop} {item item' : Reader Value} {cs : List Char}

/-- A loop over items runs out of text before it runs out of fuel. -/
theorem elements_fuel {n m : Nat} (h : Yields P item)
    (hsame : ∀ ds : List Char, ds.length ≤ cs.length → item ds = item' ds)
    (hn : cs.length < n) (hm : cs.length < m) : elements item n cs = elements item' m cs := by
  induction n generalizing m cs with
  | zero => omega
  | succ n ih =>
    obtain ⟨m, rfl⟩ : ∃ k, m = k + 1 := ⟨m - 1, by omega⟩
    rw [elements, elements, ← hsame cs (Nat.le_refl _)]
    cases hitem : item cs with
    | error halt => rfl
    | ok p =>
      obtain ⟨v, rest⟩ := p
      have hrest := (h cs v rest hitem).2.length_le
      dsimp only
      split
      · rfl
      · next last hlast =>
        have hshort := length_skip_lt hlast
        rw [ih (m := m) (fun ds hds => hsame ds (by omega)) (by omega) (by omega)]
      · rfl

/-- Fields are read alike with any number of steps that exceeds the text. -/
theorem members_fuel {n m : Nat} (h : Yields P item)
    (hsame : ∀ ds : List Char, ds.length ≤ cs.length → item ds = item' ds)
    (hn : cs.length < n) (hm : cs.length < m) : members item n cs = members item' m cs := by
  induction n generalizing m cs with
  | zero => omega
  | succ n ih =>
    obtain ⟨m, rfl⟩ : ∃ k, m = k + 1 := ⟨m - 1, by omega⟩
    rw [members, members]
    cases hname : fieldName cs with
    | error halt => rfl
    | ok q =>
      obtain ⟨name, front⟩ := q
      have hfront := (yields_fieldName cs name front hname).2.length_le
      dsimp only
      rw [← hsame front hfront]
      cases hitem : item front with
      | error halt => rfl
      | ok p =>
        obtain ⟨v, rest⟩ := p
        have hrest := (h front v rest hitem).2.length_le
        dsimp only
        split
        · rfl
        · next last hlast =>
          have hshort := length_skip_lt hlast
          rw [ih (m := m) (fun ds hds => hsame ds (by omega)) (by omega) (by omega)]
        · rfl

/-- A value depends on its readers of containers on shorter texts alone. -/
theorem term_congr {array array' object object' : Reader Value}
    (harray : ∀ ds : List Char, ds.length ≤ cs.length → array ds = array' ds)
    (hobject : ∀ ds : List Char, ds.length ≤ cs.length → object ds = object' ds) :
    term array object cs = term array' object' cs := by
  unfold term
  split
  · rfl
  · exact harray _ (by simp)
  · exact hobject _ (by simp)
  · rfl

/-- Any fuel above the length of the text gives the same. -/
theorem value_fuel {n m : Nat} (depth : Nat) (hn : cs.length < n) (hm : cs.length < m) :
    value n depth cs = value m depth cs := by
  induction depth generalizing cs with
  | zero => rw [value, value]
  | succ depth ih =>
    have hsame : ∀ ds es : List Char, es.length ≤ ds.length → ds.length ≤ cs.length →
        value n depth es = value m depth es :=
      fun ds es hes hds => ih (by omega) (by omega)
    rw [value, value]
    refine term_congr ?_ ?_
    · intro ds hds
      have hskip := (skip_suffix ds).length_le
      have hitems : elements (value n depth) n (skip ds) = elements (value m depth) m (skip ds) :=
        elements_fuel (yields_value n depth) (hsame (skip ds) · · (by omega)) (by omega) (by omega)
      unfold arrayBody
      generalize skip ds = start at hitems ⊢
      split
      · rfl
      · rw [hitems]
    · intro ds hds
      have hskip := (skip_suffix ds).length_le
      have hfields : members (value n depth) n (skip ds) = members (value m depth) m (skip ds) :=
        members_fuel (yields_value n depth) (hsame (skip ds) · · (by omega)) (by omega) (by omega)
      unfold objectBody
      generalize skip ds = start at hfields ⊢
      split
      · rfl
      · rw [hfields]

end Fuel

end CodeAtlas.Json
