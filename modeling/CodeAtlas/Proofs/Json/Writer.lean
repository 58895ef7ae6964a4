/-
CodeAtlas.Proofs.Json.Writer — what is written spells the value.

`isExact` picks out the values that JSON text brings back unchanged. For these the
text of the writer is a spelling (`spells_render`), on one line or with any
indentation by white space, and it is read back (`read_render`).

A string is written character by character. Every character is spelled in one of
the four ways: as it is, by a letter behind a backslash, by its number, or by the
numbers of two surrogates (`spellsChar_stringChar`).
-/
import CodeAtlas.Proofs.Json.Reader

namespace CodeAtlas.Json

open Text (hexDigits)

/-! ## Values that text brings back -/

mutual

/-- The value is made of what JSON text can tell apart: null, truth values, texts, lists,
objects whose names differ, and the integers that `fits` admits. -/
def isData (fits : Int → Bool) : Value → Bool
  | .null => true
  | .bool _ => true
  | .int n => fits n
  | .str _ => true
  | .list items => areData fits items
  | .dict entries => decide (Table.keys entries).Nodup && fieldsData fits entries
  | .float _ => false
  | .tuple _ => false
  | .member _ => false

def areData (fits : Int → Bool) : List Value → Bool
  | [] => true
  | v :: vs => isData fits v && areData fits vs

def fieldsData (fits : Int → Bool) : List (String × Value) → Bool
  | [] => true
  | (_, v) :: es => isData fits v && fieldsData fits es

end

/-- JSON text brings the value back unchanged: its integers are short enough too. -/
abbrev isExact (v : Value) : Bool := isData Number.withinLimit v

/-- No floating-point number, tuple or member is in the value; its integers may be of any
length. -/
abbrev isFloatFree (v : Value) : Bool := isData (fun _ => true) v

theorem areData_iff {fits : Int → Bool} {vs : List Value} :
    areData fits vs = true ↔ ∀ v ∈ vs, isData fits v = true := by
  induction vs with
  | nil => simp [areData]
  | cons v vs ih => rw [areData, Bool.and_eq_true, ih, List.forall_mem_cons]

theorem fieldsData_iff {fits : Int → Bool} {es : List (String × Value)} :
    fieldsData fits es = true ↔ ∀ f ∈ es, isData fits f.2 = true := by
  induction es with
  | nil => simp [fieldsData]
  | cons f es ih => rw [fieldsData, Bool.and_eq_true, ih, List.forall_mem_cons]

/-! ## Characters -/

/-- A hexadecimal digit has its value. -/
theorem hexValue?_digitChar : ∀ d, d < 16 → hexValue? (Nat.digitChar d) = some d := by decide

/-- Four hexadecimal digits are enough for a unit of sixteen bits. -/
theorem hexUnit?_hexDigits {n : Nat} (h : n < 65536) :
    ∃ x₁ x₂ x₃ x₄, hexDigits 4 n = [x₁, x₂, x₃, x₄] ∧ hexUnit? x₁ x₂ x₃ x₄ = some n := by
  refine ⟨_, _, _, _, rfl, ?_⟩
  have h₁ := hexValue?_digitChar (n / 16 / 16 / 16 % 16) (by omega)
  have h₂ := hexValue?_digitChar (n / 16 / 16 % 16) (by omega)
  have h₃ := hexValue?_digitChar (n / 16 % 16) (by omega)
  have h₄ := hexValue?_digitChar (n % 16) (by omega)
  simp only [hexUnit?, h₁, h₂, h₃, h₄, Option.bind_eq_bind, Option.bind_some, Option.pure_def,
    Option.some.injEq]
  omega

theorem eq_of_toNat {c : Char} {n : Nat} (h : c.toNat = n) : Char.ofNat n = c := by
  rw [← h, Char.ofNat_toNat]

/-- A character of the basic plane may be written by its number. -/
theorem spellsChar_unitEscape {c : Char} (h : c.toNat < 65536) :
    SpellsChar c (unitEscape c.toNat) := by
  obtain ⟨x₁, x₂, x₃, x₄, hx, hread⟩ := hexUnit?_hexDigits h
  rw [unitEscape, hx]
  exact SpellsChar.unit hread

/-- A character beyond the basic plane, by its two surrogates. -/
theorem spellsChar_pair {c : Char} (h : ¬ c.toNat < 65536) :
    SpellsChar c (unitEscape (0xD800 + (c.toNat - 65536) / 1024)
      ++ unitEscape (0xDC00 + (c.toNat - 65536) % 1024)) := by
  have hv : c.toNat < 0xD800 ∨ (0xDFFF < c.toNat ∧ c.toNat < 0x110000) := c.valid
  obtain ⟨x₁, x₂, x₃, x₄, hx, hhigh⟩ :=
    hexUnit?_hexDigits (n := 0xD800 + (c.toNat - 65536) / 1024) (by omega)
  obtain ⟨y₁, y₂, y₃, y₄, hy, hlow⟩ :=
    hexUnit?_hexDigits (n := 0xDC00 + (c.toNat - 65536) % 1024) (by omega)
  rw [unitEscape, unitEscape, hx, hy]
  refine SpellsChar.pair hhigh hlow ?_ ?_ ?_
  · simp only [Text.isLeading, Bool.and_eq_true, decide_eq_true_eq]
    omega
  · simp only [Text.isTrailing, Bool.and_eq_true, decide_eq_true_eq]
    omega
  · exact eq_of_toNat (by omega)

/-- However a character is written, it is one of its spellings. -/
theorem spellsChar_stringChar (c : Char) : SpellsChar c (stringChar c) := by
  unfold stringChar
  split
  · rename_i h
    simp only [Bool.or_eq_true, decide_eq_true_eq] at h
    rcases h with rfl | rfl
    · exact SpellsChar.short rfl
    · exact SpellsChar.short rfl
  · rename_i hquote
    simp only [Bool.or_eq_true, decide_eq_true_eq, not_or] at hquote
    split
    · rename_i h
      simp only [Bool.and_eq_true, decide_eq_true_eq] at h
      exact SpellsChar.plain h.1 hquote.1 hquote.2
    · split
      · rename_i h; subst h; exact SpellsChar.short rfl
      · split
        · rename_i h; subst h; exact SpellsChar.short rfl
        · split
          · rename_i h; subst h; exact SpellsChar.short rfl
          · split
            · rename_i h; exact SpellsChar.short (congrArg some (eq_of_toNat h))
            · split
              · rename_i h; exact SpellsChar.short (congrArg some (eq_of_toNat h))
              · split
                · rename_i h; exact spellsChar_unitEscape h
                · rename_i h; exact spellsChar_pair h

theorem spellsText_flatMap : ∀ cs : List Char, SpellsText cs (cs.flatMap stringChar)
  | [] => SpellsText.nil
  | c :: cs => by
      rw [List.flatMap_cons]
      exact SpellsText.cons (spellsChar_stringChar c) (spellsText_flatMap cs)

/-- The text of a string spells it. -/
theorem spells_stringText (s : String) : Spells (.str s) (stringText s.toList) := by
  rw [stringText, List.cons_append]
  exact Spells.str (spellsText_flatMap s.toList)

theorem isPad_nil : IsPad [] := fun c hc => by simp at hc

theorem isPad_blank : IsPad [' '] := fun c hc => by
  rw [List.mem_singleton.mp hc]
  decide

theorem spellsName_stringText (name : String) :
    SpellsName name (stringText name.toList ++ [':', ' ']) := by
  have h := SpellsName.mk (spellsText_flatMap name.toList) isPad_nil isPad_blank
  simpa [stringText] using h

/-! ## Layouts -/

def Layout.IsBlank : Layout → Prop
  | .inline => True
  | .lines unit => IsPad unit

theorem isBlank_inline : Layout.inline.IsBlank := trivial

/-- A line break of a blank layout is white space. -/
theorem isPad_newline {layout : Layout} (h : layout.IsBlank) (level : Nat) :
    IsPad (layout.newline level) := by
  cases layout with
  | inline => exact isPad_nil
  | lines unit =>
    intro c hc
    simp only [Layout.newline, List.mem_cons, List.mem_flatten, List.mem_replicate] at hc
    rcases hc with rfl | ⟨u, ⟨_, rfl⟩, hc⟩
    · decide
    · exact h c hc

theorem separator_eq {layout : Layout} (h : layout.IsBlank) (level : Nat) :
    ∃ w, layout.separator level = ',' :: w ∧ IsPad w := by
  cases layout with
  | inline => exact ⟨[' '], rfl, isPad_blank⟩
  | lines unit => exact ⟨_, rfl, isPad_newline h level⟩

/-- What is not empty stands between the signs, on lines of its own. -/
theorem enclose_of_ne_nil (layout : Layout) (level : Nat) (left right : Char)
    {items : List Char} (h : items ≠ []) :
    layout.enclose level left right items
      = left :: (layout.newline (level + 1)
          ++ (items ++ (layout.newline level ++ [right]))) := by
  have hne : items.isEmpty = false := by simpa using h
  simp [Layout.enclose, hne]

/-! ## All values -/

/-- The text of items is not empty: it would begin with the closing bracket. -/
theorem renderItems_ne_nil {layout : Layout} {level : Nat} {vs : List Value}
    (h : ∀ w, IsPad w → SpellsItems vs (renderItems layout level vs ++ (w ++ [']']))) :
    renderItems layout level vs ≠ [] := by
  intro hnil
  have hclosed := h [] isPad_nil
  rw [hnil] at hclosed
  obtain ⟨c, cs, hc, _, hne⟩ := hclosed.head
  exact hne (List.cons.inj hc).1.symm

theorem renderEntries_ne_nil {layout : Layout} {level : Nat} {es : List (String × Value)}
    (h : ∀ w, IsPad w → SpellsFields es (renderEntries layout level es ++ (w ++ ['\x7d']))) :
    renderEntries layout level es ≠ [] := by
  intro hnil
  have hclosed := h [] isPad_nil
  rw [hnil] at hclosed
  obtain ⟨cs, hc⟩ := hclosed.head
  exact absurd (List.cons.inj hc).1 (by decide)

/-- Items, with a separator after the first. -/
theorem renderItems_cons_cons (layout : Layout) (level : Nat) (v v' : Value)
    (vs : List Value) :
    renderItems layout level (v :: v' :: vs)
      = render layout level v ++ (layout.separator level
          ++ renderItems layout level (v' :: vs)) := by
  rw [renderItems, List.append_assoc]
  simp

/-- Fields, with a separator after the first. -/
theorem renderEntries_cons_cons (layout : Layout) (level : Nat) (name : String) (v : Value)
    (e : String × Value) (es : List (String × Value)) :
    renderEntries layout level ((name, v) :: e :: es)
      = (stringText name.toList ++ [':', ' ']) ++ (render layout level v
          ++ (layout.separator level ++ renderEntries layout level (e :: es))) := by
  rw [renderEntries]
  · simp
  · simp

mutual

/-- **Writing.** The text of a value spells it. -/
theorem spells_render {layout : Layout} (hl : layout.IsBlank) :
    ∀ (v : Value) (level : Nat), isExact v = true → Spells v (render layout level v)
  | .null, _ => fun _ => Spells.null
  | .bool b, _ => fun _ => Spells.bool b
  | .int n, _ => fun h => by
      rw [isExact, isData] at h
      rw [render]
      exact Spells.int h
  | .str s, _ => fun _ => spells_stringText s
  | .list [], _ => fun _ => Spells.emptyList isPad_nil
  | .list (v :: vs), level => fun h => by
      rw [isExact, isData] at h
      have hitems := spellsItems_render hl (v :: vs) (level + 1) (by simp) h
      rw [render, enclose_of_ne_nil layout level '[' ']' (renderItems_ne_nil hitems)]
      exact Spells.list (isPad_newline hl (level + 1)) (hitems _ (isPad_newline hl level))
  | .dict [], _ => fun _ => Spells.emptyDict isPad_nil
  | .dict (e :: es), level => fun h => by
      rw [isExact, isData, Bool.and_eq_true, decide_eq_true_iff] at h
      have hfields := spellsFields_render hl (e :: es) (level + 1) (by simp) h.2
      rw [render, enclose_of_ne_nil layout level _ _ (renderEntries_ne_nil hfields)]
      exact Spells.dict (isPad_newline hl (level + 1)) h.1
        (hfields _ (isPad_newline hl level))
  | .float _, _ => fun h => by simp [isExact, isData] at h
  | .tuple _, _ => fun h => by simp [isExact, isData] at h
  | .member _, _ => fun h => by simp [isExact, isData] at h

/-- Items that are written spell themselves, with any white space before the bracket. -/
theorem spellsItems_render {layout : Layout} (hl : layout.IsBlank) :
    ∀ (vs : List Value) (level : Nat), vs ≠ [] → areData Number.withinLimit vs = true →
      ∀ w, IsPad w → SpellsItems vs (renderItems layout level vs ++ (w ++ [']']))
  | [], _ => fun hne => absurd rfl hne
  | [v], level => fun _ h w hw => by
      simp only [areData, Bool.and_true] at h
      exact SpellsItems.last (spells_render hl v level h) hw
  | v :: v' :: vs, level => fun _ h w hw => by
      rw [areData, Bool.and_eq_true] at h
      obtain ⟨w', hsep, hw'⟩ := separator_eq hl level
      have hmore := spellsItems_render hl (v' :: vs) level (by simp) h.2 w hw
      have hall := SpellsItems.cons (spells_render hl v level h.1) isPad_nil hw' hmore
      rw [renderItems_cons_cons, hsep]
      simpa using hall

/-- Fields, likewise. -/
theorem spellsFields_render {layout : Layout} (hl : layout.IsBlank) :
    ∀ (es : List (String × Value)) (level : Nat), es ≠ [] →
      fieldsData Number.withinLimit es = true →
      ∀ w, IsPad w → SpellsFields es (renderEntries layout level es ++ (w ++ ['\x7d']))
  | [], _ => fun hne => absurd rfl hne
  | [(name, v)], level => fun _ h w hw => by
      simp only [fieldsData, Bool.and_true] at h
      have hlast := SpellsFields.last (spellsName_stringText name) (spells_render hl v level h) hw
      rw [renderEntries]
      simpa using hlast
  | (name, v) :: e :: es, level => fun _ h w hw => by
      rw [fieldsData, Bool.and_eq_true] at h
      obtain ⟨w', hsep, hw'⟩ := separator_eq hl level
      have hmore := spellsFields_render hl (e :: es) level (by simp) h.2 w hw
      have hall := SpellsFields.cons (spellsName_stringText name) (spells_render hl v level h.1)
        isPad_nil hw' hmore
      rw [renderEntries_cons_cons, hsep]
      simpa using hall

end

/-! ## Obstacles -/

mutual

/-- A value that text brings back has an obstacle only in its depth. -/
theorem obstacle?_of_isExact : ∀ (v : Value) (depth : Nat), isExact v = true →
    nesting v ≤ depth → obstacle? depth v = none
  | .null, _ => fun _ _ => by simp [obstacle?]
  | .bool _, _ => fun _ _ => by simp [obstacle?]
  | .int n, _ => fun h _ => by
      rw [isExact, isData] at h
      rw [obstacle?, if_pos h]
  | .str _, _ => fun _ _ => by simp [obstacle?]
  | .list items, 0 => fun _ hdepth => by simp [nesting] at hdepth
  | .list items, depth + 1 => fun h hdepth => by
      rw [isExact, isData] at h
      rw [nesting, Nat.add_le_add_iff_right] at hdepth
      rw [obstacle?, itemsObstacle?_of_areExact items depth h hdepth]
  | .dict entries, 0 => fun _ hdepth => by simp [nesting] at hdepth
  | .dict entries, depth + 1 => fun h hdepth => by
      rw [isExact, isData, Bool.and_eq_true] at h
      rw [nesting, Nat.add_le_add_iff_right] at hdepth
      rw [obstacle?, entriesObstacle?_of_fieldsExact entries depth h.2 hdepth]
  | .float _, _ => fun h _ => by simp [isExact, isData] at h
  | .tuple _, _ => fun h _ => by simp [isExact, isData] at h
  | .member _, _ => fun h _ => by simp [isExact, isData] at h

theorem itemsObstacle?_of_areExact : ∀ (vs : List Value) (depth : Nat),
    areData Number.withinLimit vs = true →
    nestingOfItems vs ≤ depth → itemsObstacle? depth vs = none
  | [], _ => fun _ _ => rfl
  | v :: vs, depth => fun h hdepth => by
      rw [areData, Bool.and_eq_true] at h
      rw [nestingOfItems, Nat.max_le] at hdepth
      rw [itemsObstacle?, obstacle?_of_isExact v depth h.1 hdepth.1,
        itemsObstacle?_of_areExact vs depth h.2 hdepth.2]
      rfl

theorem entriesObstacle?_of_fieldsExact : ∀ (es : List (String × Value)) (depth : Nat),
    fieldsData Number.withinLimit es = true → nestingOfFields es ≤ depth →
      entriesObstacle? depth es = none
  | [], _ => fun _ _ => rfl
  | (_, v) :: es, depth => fun h hdepth => by
      rw [fieldsData, Bool.and_eq_true] at h
      rw [nestingOfFields, Nat.max_le] at hdepth
      rw [entriesObstacle?, obstacle?_of_isExact v depth h.1 hdepth.1,
        entriesObstacle?_of_fieldsExact es depth h.2 hdepth.2]
      rfl

end

mutual

/-- A value without an obstacle keeps to the depth. -/
theorem nesting_le_of_obstacle? : ∀ (v : Value) (depth : Nat), obstacle? depth v = none →
    nesting v ≤ depth
  | .null, _ | .bool _, _ | .int _, _ | .float _, _ | .str _, _ | .member _, _ => fun _ => by
      rw [nesting]
      · exact Nat.zero_le _
      all_goals simp
  | .list items, 0 | .tuple items, 0 | .dict entries, 0 => fun h => by simp [obstacle?] at h
  | .list items, depth + 1 | .tuple items, depth + 1 => fun h => by
      rw [obstacle?] at h
      rw [nesting]
      exact Nat.succ_le_succ (nestingOfItems_le_of_itemsObstacle? items depth h)
  | .dict entries, depth + 1 => fun h => by
      rw [obstacle?] at h
      rw [nesting]
      exact Nat.succ_le_succ (nestingOfFields_le_of_entriesObstacle? entries depth h)

theorem nestingOfItems_le_of_itemsObstacle? : ∀ (vs : List Value) (depth : Nat),
    itemsObstacle? depth vs = none → nestingOfItems vs ≤ depth
  | [], _ => fun _ => Nat.zero_le _
  | v :: vs, depth => fun h => by
      rw [itemsObstacle?, Option.or_eq_none_iff] at h
      rw [nestingOfItems, Nat.max_le]
      exact ⟨nesting_le_of_obstacle? v depth h.1,
        nestingOfItems_le_of_itemsObstacle? vs depth h.2⟩

theorem nestingOfFields_le_of_entriesObstacle? : ∀ (es : List (String × Value)) (depth : Nat),
    entriesObstacle? depth es = none → nestingOfFields es ≤ depth
  | [], _ => fun _ => Nat.zero_le _
  | (_, v) :: es, depth => fun h => by
      rw [entriesObstacle?, Option.or_eq_none_iff] at h
      rw [nestingOfFields, Nat.max_le]
      exact ⟨nesting_le_of_obstacle? v depth h.1,
        nestingOfFields_le_of_entriesObstacle? es depth h.2⟩

end

/-- What is written is read back. -/
theorem read_render {layout : Layout} (hl : layout.IsBlank) {v : Value} {depth : Nat}
    (h : isExact v = true) (hdepth : nesting v ≤ depth) :
    read depth (render layout 0 v) = .ok v :=
  read_of_spells (spells_render hl v 0 h) hdepth

end CodeAtlas.Json
