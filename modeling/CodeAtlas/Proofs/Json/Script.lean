/-
CodeAtlas.Proofs.Json.Script — JSON text inside a script.

Text is plain, blanks and visible characters of ASCII, but for the line breaks of its
layout (`covers_render`), so there is no line break in text on one line
(`isPlain_render`). Making it safe for a script replaces three signs by escapes,
wherever they stand in the finished text. That is harmless since they can only stand
in strings, as characters that spell themselves: script text of a spelling is a
spelling of the same value (`Spells.scriptSafe`), so it is read as that value
(`read_scriptSafe`).
-/
import CodeAtlas.Proofs.Json.Writer
import CodeAtlas.Proofs.Number.Layout
import CodeAtlas.Proofs.Text.Markup

namespace CodeAtlas.Json

open Text (isScriptSign scriptSafe scriptEscapes)

/-! ## Plain text -/

def isPlain (c : Char) : Bool := 32 ≤ c.toNat && c.toNat < 127

/-- A text of blanks and visible characters of ASCII. -/
def IsPlain (cs : List Char) : Prop := ∀ c ∈ cs, isPlain c = true

theorem isPlain_of_all {cs : List Char} (h : cs.all isPlain = true) : IsPlain cs :=
  List.all_eq_true.mp h

theorem IsPlain.append {as bs : List Char} (ha : IsPlain as) (hb : IsPlain bs) :
    IsPlain (as ++ bs) := by
  intro c hc
  rcases List.mem_append.mp hc with hc | hc
  · exact ha c hc
  · exact hb c hc

theorem IsPlain.cons {c : Char} {cs : List Char} (hc : isPlain c = true) (h : IsPlain cs) :
    IsPlain (c :: cs) := by
  intro a ha
  rcases List.mem_cons.mp ha with rfl | ha
  · exact hc
  · exact h a ha

theorem isPlain_of_isNumeralChar {c : Char} (h : Number.isNumeralChar c = true) :
    isPlain c = true := by
  simp only [Number.isNumeralChar, Bool.or_eq_true, decide_eq_true_eq] at h
  rcases h with (((hdigit | rfl) | rfl) | rfl) | rfl
  · have hrange := Number.toNat_of_isDigit hdigit
    simp only [isPlain, Bool.and_eq_true, decide_eq_true_eq]
    omega
  all_goals decide

/-- Hexadecimal digits are visible characters. -/
theorem isPlain_hexDigits (width n : Nat) : IsPlain (Text.hexDigits width n) := by
  have hdigit : ∀ d, d < 16 → isPlain (Nat.digitChar d) = true := by decide
  induction width generalizing n with
  | zero =>
    intro c hc
    cases hc
  | succ width ih =>
    refine (ih (n / 16)).append ?_
    intro c hc
    rw [List.mem_singleton.mp hc]
    exact hdigit (n % 16) (Nat.mod_lt n (by decide))

theorem isPlain_unitEscape (n : Nat) : IsPlain (unitEscape n) :=
  .cons (by decide) (.cons (by decide) (isPlain_hexDigits 4 n))

/-- A character is written in ASCII, whatever it is. -/
theorem isPlain_stringChar (c : Char) : IsPlain (stringChar c) := by
  unfold stringChar
  split
  · next h =>
    simp only [Bool.or_eq_true, decide_eq_true_eq] at h
    rcases h with rfl | rfl
    · exact isPlain_of_all (by decide)
    · exact isPlain_of_all (by decide)
  · split
    · next h =>
      refine .cons ?_ (isPlain_of_all rfl)
      simp only [Bool.and_eq_true, decide_eq_true_eq] at h
      simp [isPlain, h]
    · split
      · exact isPlain_of_all (by decide)
      · split
        · exact isPlain_of_all (by decide)
        · split
          · exact isPlain_of_all (by decide)
          · split
            · exact isPlain_of_all (by decide)
            · split
              · exact isPlain_of_all (by decide)
              · split
                · exact isPlain_unitEscape c.toNat
                · exact (isPlain_unitEscape _).append (isPlain_unitEscape _)

/-- A string is written in ASCII. -/
theorem isPlain_stringText (cs : List Char) : IsPlain (stringText cs) := by
  refine (IsPlain.cons (by decide) ?_).append (isPlain_of_all (by decide))
  intro c hc
  obtain ⟨a, -, ha⟩ := List.mem_flatMap.mp hc
  exact isPlain_stringChar a c ha

/-- A number is written in ASCII, if it is finite or not. -/
theorem isPlain_floatText (x : Number.Binary64) :
    IsPlain (Number.floatText specialNames x) := by
  intro c hc
  rcases Number.mem_floatText hc with hnumeral | hnan | hinfinity
  · exact isPlain_of_isNumeralChar hnumeral
  · exact isPlain_of_all (show "NaN".toList.all isPlain = true by decide) c hnan
  · exact isPlain_of_all (show "Infinity".toList.all isPlain = true by decide) c hinfinity

/-! ## Text of a layout -/

/-- Every character is plain or stands in a line break of the layout. -/
def Layout.Covers (layout : Layout) (cs : List Char) : Prop :=
  ∀ c ∈ cs, isPlain c = true ∨ ∃ level, c ∈ layout.newline level

section

variable {layout : Layout}

theorem IsPlain.covered {cs : List Char} (h : IsPlain cs) : layout.Covers cs :=
  fun c hc => Or.inl (h c hc)

theorem Layout.covers_newline (level : Nat) : layout.Covers (layout.newline level) :=
  fun _ hc => Or.inr ⟨level, hc⟩

theorem Layout.Covers.append {as bs : List Char} (ha : layout.Covers as)
    (hb : layout.Covers bs) : layout.Covers (as ++ bs) := by
  intro c hc
  rcases List.mem_append.mp hc with hc | hc
  · exact ha c hc
  · exact hb c hc

/-- A container adds its two signs and line breaks. -/
theorem covers_enclose {level : Nat} {left right : Char} {items : List Char}
    (hleft : isPlain left = true) (hright : isPlain right = true) (h : layout.Covers items) :
    layout.Covers (layout.enclose level left right items) := by
  have hend : IsPlain [right] := .cons hright (isPlain_of_all rfl)
  have hbegin : IsPlain [left] := .cons hleft (isPlain_of_all rfl)
  unfold Layout.enclose
  split
  · exact (IsPlain.cons hleft hend).covered
  · exact (((hbegin.covered.append (Layout.covers_newline _)).append h).append
      (Layout.covers_newline _)).append hend.covered

theorem covers_separator (level : Nat) : layout.Covers (layout.separator level) := by
  have hcomma : IsPlain [','] := isPlain_of_all (by decide)
  cases layout with
  | inline => exact IsPlain.covered (isPlain_of_all (show [',', ' '].all isPlain = true by decide))
  | lines unit => exact hcomma.covered.append (Layout.covers_newline level)

theorem covers_field (name : String) : layout.Covers (stringText name.toList ++ [':', ' ']) :=
  ((isPlain_stringText _).append (isPlain_of_all (by decide))).covered

mutual

/-- Only the line breaks of a text may have characters that are not plain. -/
theorem covers_render : ∀ (v : Value) (level : Nat), layout.Covers (render layout level v)
  | .null, _ => (isPlain_of_all (show "null".toList.all isPlain = true by decide)).covered
  | .bool true, _ => (isPlain_of_all (show "true".toList.all isPlain = true by decide)).covered
  | .bool false, _ => (isPlain_of_all (show "false".toList.all isPlain = true by decide)).covered
  | .int n, _ => fun _ hc =>
      Or.inl (isPlain_of_isNumeralChar (Number.isNumeralChar_of_mem_integerText hc))
  | .float x, _ => (isPlain_floatText x).covered
  | .str s, _ => (isPlain_stringText s.toList).covered
  | .list items, _ => covers_enclose (by decide) (by decide) (covers_renderItems items _)
  | .tuple items, _ => covers_enclose (by decide) (by decide) (covers_renderItems items _)
  | .dict entries, _ => covers_enclose (by decide) (by decide) (covers_renderEntries entries _)
  | .member m, _ => (isPlain_stringText m.fullName.toList).covered

/-- Items, by induction on the list. -/
theorem covers_renderItems : ∀ (vs : List Value) (level : Nat),
    layout.Covers (renderItems layout level vs)
  | [], _ => nofun
  | [v], level => covers_render v level
  | v :: v' :: vs, level => by
      rw [renderItems_cons_cons]
      exact (covers_render v level).append
        ((covers_separator level).append (covers_renderItems (v' :: vs) level))

/-- Fields, by induction on the list. -/
theorem covers_renderEntries : ∀ (es : List (String × Value)) (level : Nat),
    layout.Covers (renderEntries layout level es)
  | [], _ => nofun
  | [(name, v)], level => by
      have h := (covers_field name).append (covers_render v level)
      rw [List.append_assoc] at h
      exact h
  | (name, v) :: e :: es, level => by
      rw [renderEntries_cons_cons]
      exact (covers_field name).append ((covers_render v level).append
        ((covers_separator level).append (covers_renderEntries (e :: es) level)))

end

end

/-- Every value is plain text on one line. -/
theorem isPlain_render (v : Value) (level : Nat) : IsPlain (render .inline level v) := by
  intro c hc
  rcases covers_render v level c hc with hplain | ⟨_, hbreak⟩
  · exact hplain
  · cases hbreak

/-- Indented by white space, a text still has no characters beyond ASCII. -/
theorem toNat_lt_of_mem_render {layout : Layout} (hl : layout.IsBlank) {v : Value} {level : Nat}
    {c : Char} (h : c ∈ render layout level v) : c.toNat < 128 := by
  rcases covers_render v level c h with hplain | ⟨level, hbreak⟩
  · simp only [isPlain, Bool.and_eq_true, decide_eq_true_eq] at hplain
    omega
  · have hspace := isPad_newline hl level c hbreak
    simp only [isSpace, Bool.or_eq_true, decide_eq_true_eq] at hspace
    rcases hspace with ((rfl | rfl) | rfl) | rfl
    all_goals decide

/-- Script text of plain text is plain. -/
theorem IsPlain.scriptSafe {cs : List Char} (h : IsPlain cs) : IsPlain (scriptSafe cs) := by
  intro c hc
  rcases Text.mem_scriptSafe hc with ⟨hmem, -⟩ | hescape
  · exact h c hmem
  · exact isPlain_of_all (show scriptEscapes.all isPlain = true by decide) c hescape

/-! ## Spellings in a script -/

/-- No sign that is replaced is a hexadecimal digit. -/
theorem not_isScriptSign_of_hexValue? {c : Char} {n : Nat} (h : hexValue? c = some n) :
    isScriptSign c = false :=
  Text.isScriptSign_eq_false (p := fun c => (hexValue? c).isSome) (by simp [h]) (by decide)
    (by decide) (by decide)

/-- An escape by number is left as it is. -/
theorem scriptSafe_unit {x₁ x₂ x₃ x₄ : Char} {n : Nat} (h : hexUnit? x₁ x₂ x₃ x₄ = some n) :
    scriptSafe ['\\', 'u', x₁, x₂, x₃, x₄] = ['\\', 'u', x₁, x₂, x₃, x₄] := by
  simp only [hexUnit?, Option.bind_eq_bind, Option.bind_eq_some_iff] at h
  obtain ⟨n₁, h₁, n₂, h₂, n₃, h₃, n₄, h₄, -⟩ := h
  apply Text.scriptSafe_of_free
  intro c hc
  simp only [List.mem_cons, List.not_mem_nil, or_false] at hc
  rcases hc with rfl | rfl | rfl | rfl | rfl | rfl
  · decide
  · decide
  · exact not_isScriptSign_of_hexValue? h₁
  · exact not_isScriptSign_of_hexValue? h₂
  · exact not_isScriptSign_of_hexValue? h₃
  · exact not_isScriptSign_of_hexValue? h₄

/-- A sign is spelled by its number in a script, and every other spelling of a
character stays as it is: no sign stands behind a backslash. -/
theorem SpellsChar.scriptSafe {c : Char} {t : List Char} (h : SpellsChar c t) :
    SpellsChar c (scriptSafe t) := by
  cases h with
  | plain hc hq hb =>
    by_cases hsign : isScriptSign c = true
    · simp only [isScriptSign, Bool.or_eq_true, decide_eq_true_eq] at hsign
      rcases hsign with (rfl | rfl) | rfl
      · exact SpellsChar.unit (show hexUnit? '0' '0' '3' 'C' = some 0x3C by decide)
      · exact SpellsChar.unit (show hexUnit? '0' '0' '3' 'E' = some 0x3E by decide)
      · exact SpellsChar.unit (show hexUnit? '0' '0' '2' '6' = some 0x26 by decide)
    · rw [Text.scriptSafe_of_free]
      · exact SpellsChar.plain hc hq hb
      · intro a ha
        rw [List.mem_singleton.mp ha]
        exact Bool.eq_false_iff.mpr hsign
  | short h =>
    rename_i e
    rw [Text.scriptSafe_of_free]
    · exact SpellsChar.short h
    · intro a ha
      simp only [List.mem_cons, List.not_mem_nil, or_false] at ha
      rcases ha with rfl | rfl
      · decide
      · exact Text.isScriptSign_eq_false (p := fun e => (shortEscape? e).isSome) (by simp [h])
          (by decide) (by decide) (by decide)
  | unit h =>
    rw [scriptSafe_unit h]
    exact SpellsChar.unit h
  | pair hx hy hhigh hlow hc =>
    rename_i x₁ x₂ x₃ x₄ y₁ y₂ y₃ y₄ high low
    have hpair := Text.scriptSafe_append ['\\', 'u', x₁, x₂, x₃, x₄] ['\\', 'u', y₁, y₂, y₃, y₄]
    rw [scriptSafe_unit hx, scriptSafe_unit hy] at hpair
    rw [show ['\\', 'u', x₁, x₂, x₃, x₄, '\\', 'u', y₁, y₂, y₃, y₄]
      = ['\\', 'u', x₁, x₂, x₃, x₄] ++ ['\\', 'u', y₁, y₂, y₃, y₄] from rfl, hpair]
    exact SpellsChar.pair hx hy hhigh hlow hc

/-- A spelling of a text stays one when its signs are replaced. -/
theorem SpellsText.scriptSafe {cs t : List Char} (h : SpellsText cs t) :
    SpellsText cs (scriptSafe t) := by
  induction h with
  | nil => exact SpellsText.nil
  | cons hc _ ih =>
    rw [Text.scriptSafe_append]
    exact SpellsText.cons hc.scriptSafe ih

/-- White space is left as it is. -/
theorem scriptSafe_pad {w : List Char} (h : IsPad w) : scriptSafe w = w := by
  apply Text.scriptSafe_of_free
  intro c hc
  exact Text.isScriptSign_eq_false (h c hc) (by decide) (by decide) (by decide)

/-- A sign of the grammar is none of those that are replaced. -/
theorem scriptSafe_cons {c : Char} (h : isScriptSign c = false) (cs : List Char) :
    scriptSafe (c :: cs) = c :: scriptSafe cs := by
  rw [Text.scriptSafe, List.flatMap_cons, Text.scriptChar_of_not_sign h]
  rfl

/-- A spelling of a name stays one. -/
theorem SpellsName.scriptSafe {name : String} {t : List Char} (h : SpellsName name t) :
    SpellsName name (scriptSafe t) := by
  cases h with
  | mk h hw hw' =>
    rw [scriptSafe_cons (by decide), Text.scriptSafe_append, scriptSafe_cons (by decide),
      Text.scriptSafe_append, scriptSafe_cons (by decide), scriptSafe_pad hw, scriptSafe_pad hw']
    exact SpellsName.mk h.scriptSafe hw hw'

mutual

/-- **Script text.** What spells a value still spells it when it is made safe for a
script. -/
theorem Spells.scriptSafe : ∀ {v : Value} {t : List Char}, Spells v t → Spells v (scriptSafe t)
  | _, _, .null => Spells.null
  | _, _, .bool b => by cases b <;> exact Spells.bool _
  | _, _, .int h => by
      rw [Text.scriptSafe_of_free]
      · exact Spells.int h
      · intro c hc
        rcases Number.mem_integerText hc with hdigit | rfl
        · exact Text.isScriptSign_eq_false hdigit (by decide) (by decide) (by decide)
        · decide
  | _, _, .str h => by
      rw [scriptSafe_cons (by decide), Text.scriptSafe_append]
      exact Spells.str h.scriptSafe
  | _, _, .emptyList hw => by
      rw [scriptSafe_cons (by decide), Text.scriptSafe_append, scriptSafe_pad hw]
      exact Spells.emptyList hw
  | _, _, .list hw h => by
      rw [scriptSafe_cons (by decide), Text.scriptSafe_append, scriptSafe_pad hw]
      exact Spells.list hw h.scriptSafe
  | _, _, .emptyDict hw => by
      rw [scriptSafe_cons (by decide), Text.scriptSafe_append, scriptSafe_pad hw]
      exact Spells.emptyDict hw
  | _, _, .dict hw hk h => by
      rw [scriptSafe_cons (by decide), Text.scriptSafe_append, scriptSafe_pad hw]
      exact Spells.dict hw hk h.scriptSafe

/-- Spellings of items stay spellings. -/
theorem SpellsItems.scriptSafe : ∀ {vs : List Value} {t : List Char}, SpellsItems vs t →
    SpellsItems vs (scriptSafe t)
  | _, _, .last h hw => by
      rw [Text.scriptSafe_append, Text.scriptSafe_append, scriptSafe_pad hw]
      exact SpellsItems.last h.scriptSafe hw
  | _, _, .cons h hw hw' hs => by
      rw [Text.scriptSafe_append, Text.scriptSafe_append, scriptSafe_cons (by decide),
        Text.scriptSafe_append, scriptSafe_pad hw, scriptSafe_pad hw']
      exact SpellsItems.cons h.scriptSafe hw hw' hs.scriptSafe

/-- Spellings of fields stay spellings. -/
theorem SpellsFields.scriptSafe : ∀ {es : List (String × Value)} {t : List Char},
    SpellsFields es t → SpellsFields es (scriptSafe t)
  | _, _, .last hn h hw => by
      rw [Text.scriptSafe_append, Text.scriptSafe_append, Text.scriptSafe_append,
        scriptSafe_pad hw]
      exact SpellsFields.last hn.scriptSafe h.scriptSafe hw
  | _, _, .cons hn h hw hw' hs => by
      rw [Text.scriptSafe_append, Text.scriptSafe_append, Text.scriptSafe_append,
        scriptSafe_cons (by decide), Text.scriptSafe_append, scriptSafe_pad hw,
        scriptSafe_pad hw']
      exact SpellsFields.cons hn.scriptSafe h.scriptSafe hw hw' hs.scriptSafe

end

/-- What is written into a script is read back. -/
theorem read_scriptSafe {layout : Layout} (hl : layout.IsBlank) {v : Value} {depth : Nat}
    (h : isExact v = true) (hdepth : nesting v ≤ depth) :
    read depth (scriptSafe (render layout 0 v)) = .ok v :=
  read_of_spells (spells_render hl v 0 h).scriptSafe hdepth

end CodeAtlas.Json
