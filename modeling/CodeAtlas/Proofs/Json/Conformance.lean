/-
CodeAtlas.Proofs.Json.Conformance — what is written is JSON if its numbers are finite.

The writer goes beyond the grammar in one way: it writes numbers that are not finite by
names that JSON does not have. Main statement: that is the only way (`isJson_render_iff`).
A value without such numbers is written by the rules (`isValue_render`); the scanner stops at
the first letter of such a name (`scan_render_of_not_isFinite`).

The rule on zeros in front of a number is where writing could go wrong. Digits are laid out
around the point by cutting them and by filling up with zeros, and what comes first is the
first digit of a positive number in every case but one, where it is a zero by itself
(`isMagnitude_decimalText`).
-/
import CodeAtlas.Proofs.Json.Grammar

namespace CodeAtlas.Json

open Number (Binary64 Decimal FloatLayout)

variable {admits : List Char → Prop}

/-! ## Numbers that are written -/

theorem isDigits_zero : IsDigits ['0'] := isDigits_digits 0

theorem isDigits_zeros_append (n : Nat) {ds : List Char} (h : IsDigits ds) :
    IsDigits (List.replicate n '0' ++ ds) := by
  refine ⟨by simp [h.ne_nil], fun c hc => ?_⟩
  rcases List.mem_append.mp hc with hc | hc
  · exact isDigit_of_mem_zeros hc
  · exact h.digit c hc

theorem IsDigits.drop {ds : List Char} (h : IsDigits ds) {k : Nat} (hk : k < ds.length) :
    IsDigits (ds.drop k) :=
  ⟨by simpa using hk, fun c hc => h.digit c (List.mem_of_mem_drop hc)⟩

/-- The exponent of a floating-point number is written as JSON has it. -/
theorem isExponent_exponentText (layout : FloatLayout) (e : Int) :
    IsExponent (Number.exponentText layout e) := by
  refine .signed (Or.inl rfl) ?_ (isDigits_zeros_append _ (isDigits_digits _))
  split
  · exact Or.inr rfl
  · exact Or.inl rfl

/-- A positive decimal is written as a number, with a point or an exponent or neither. -/
theorem isMagnitude_decimalText (layout : FloatLayout) {d : Decimal} (h : 0 < d.digits) :
    IsMagnitude (Number.decimalText layout d) := by
  unfold Number.decimalText
  extract_lets ds point
  have hdigits : IsDigits ds := isDigits_digits d.digits
  have hlength : 0 < ds.length := List.length_pos_iff.mpr hdigits.ne_nil
  split
  · split
    · have hfraction := IsFraction.digits (isDigits_zeros_append (-point).toNat hdigits)
      simpa using IsMagnitude.mk .zero hfraction .none
    · split
      · have hwhole := isWhole_take h hlength (point.toNat - ds.length)
        rw [List.take_length] at hwhole
        simpa using IsMagnitude.mk hwhole (.digits isDigits_zero) .none
      · have hwhole := isWhole_take h (k := point.toNat) (by omega) 0
        have hfraction := IsFraction.digits (hdigits.drop (k := point.toNat) (by omega))
        simpa using IsMagnitude.mk hwhole hfraction .none
  · have hwhole := isWhole_take h (k := 1) (by omega) 0
    have hexponent := isExponent_exponentText layout (point - 1)
    rw [List.append_assoc]
    split
    · simpa using IsMagnitude.mk hwhole .none hexponent
    · next hne =>
      have hfraction := IsFraction.digits (hdigits.drop (k := 1) (by omega))
      simpa using IsMagnitude.mk hwhole hfraction hexponent

/-- Finite numbers are written as numbers. -/
theorem isNumber_floatText {x : Binary64} (h : x.isFinite = true) :
    IsNumber (Number.floatText specialNames x) := by
  cases x with
  | nan => cases h
  | infinite negative => cases h
  | finite negative m e =>
    have hmagnitude : IsMagnitude (Number.magnitudeText Number.floatLayout m e) := by
      unfold Number.magnitudeText
      split
      · exact IsMagnitude.mk .zero (.digits isDigits_zero) .none
      · next hm => exact isMagnitude_decimalText _ (Number.pos_shortest hm e)
    cases negative with
    | false => exact .positive hmagnitude
    | true => exact .negative hmagnitude

/-! ## Strings that are written -/

theorem isHexDigit_of_mem_hexDigits (width n : Nat) {c : Char}
    (h : c ∈ Text.hexDigits width n) : isHexDigit c = true := by
  have hdigit : ∀ d, d < 16 → isHexDigit (Nat.digitChar d) = true := by decide
  induction width generalizing n with
  | zero => cases h
  | succ width ih =>
    rcases List.mem_append.mp h with h | h
    · exact ih (n / 16) h
    · rw [List.mem_singleton.mp h]
      exact hdigit (n % 16) (Nat.mod_lt n (by decide))

/-- An escape by number is a character of a string. -/
theorem isCharacter_unitEscape (n : Nat) : IsCharacter (unitEscape n) :=
  .unit fun _ => isHexDigit_of_mem_hexDigits 4 n

theorem IsCharacter.single {t : List Char} (h : IsCharacter t) : IsCharacters t := by
  have hcons := IsCharacters.cons h .nil
  rwa [List.append_nil] at hcons

theorem IsCharacters.append {as bs : List Char} (ha : IsCharacters as) (hb : IsCharacters bs) :
    IsCharacters (as ++ bs) := by
  induction ha with
  | nil => exact hb
  | cons h _ ih =>
    rw [List.append_assoc]
    exact .cons h ih

/-- A character is written as one or two characters of a string. -/
theorem isCharacters_stringChar (c : Char) : IsCharacters (stringChar c) := by
  have hletter : ∀ e, e ∈ escapeLetters → IsCharacters ['\\', e] :=
    fun e he => (IsCharacter.escape he).single
  unfold stringChar
  split
  · next h =>
    simp only [Bool.or_eq_true, decide_eq_true_eq] at h
    rcases h with rfl | rfl
    · exact hletter _ (by decide)
    · exact hletter _ (by decide)
  · next hnot =>
    simp only [Bool.or_eq_true, decide_eq_true_eq, not_or] at hnot
    split
    · next h =>
      simp only [Bool.and_eq_true, decide_eq_true_eq] at h
      exact (IsCharacter.plain h.1 hnot.1 hnot.2).single
    · split
      · exact hletter _ (by decide)
      · split
        · exact hletter _ (by decide)
        · split
          · exact hletter _ (by decide)
          · split
            · exact hletter _ (by decide)
            · split
              · exact hletter _ (by decide)
              · split
                · exact (isCharacter_unitEscape _).single
                · exact (isCharacter_unitEscape _).single.append
                    (isCharacter_unitEscape _).single

/-- A string is written as a string of JSON. -/
theorem isString_stringText (cs : List Char) : IsString (stringText cs) := by
  refine .mk ?_
  induction cs with
  | nil => exact .nil
  | cons c cs ih =>
    rw [List.flatMap_cons]
    exact (isCharacters_stringChar c).append ih

/-! ## Values that are written -/

mutual

/-- Every number in the value is finite. -/
def isFinite : Value → Bool
  | .float x => x.isFinite
  | .list items => areFinite items
  | .tuple items => areFinite items
  | .dict entries => fieldsFinite entries
  | _ => true

def areFinite : List Value → Bool
  | [] => true
  | v :: vs => isFinite v && areFinite vs

def fieldsFinite : List (String × Value) → Bool
  | [] => true
  | (_, v) :: es => isFinite v && fieldsFinite es

end

theorem areFinite_iff {vs : List Value} :
    areFinite vs = true ↔ ∀ v ∈ vs, isFinite v = true := by
  induction vs with
  | nil => simp [areFinite]
  | cons v vs ih => rw [areFinite, Bool.and_eq_true, ih, List.forall_mem_cons]

theorem fieldsFinite_iff {es : List (String × Value)} :
    fieldsFinite es = true ↔ ∀ f ∈ es, isFinite f.2 = true := by
  induction es with
  | nil => simp [fieldsFinite]
  | cons f es ih => rw [fieldsFinite, Bool.and_eq_true, ih, List.forall_mem_cons]

/-- Items between brackets, if they are written as items whatever follows them. -/
theorem isValue_encloseItems {layout : Layout} (hl : layout.IsBlank) (level : Nat)
    {items : List Char} (h : ∀ w, IsPad w → IsItems admits (items ++ (w ++ [']']))) :
    IsValue admits (layout.enclose level '[' ']' items) := by
  have hne : items ≠ [] := by
    rintro rfl
    obtain ⟨c, cs, hc, -, hbracket⟩ := (h [] isPad_nil).head
    exact hbracket (List.cons.inj hc).1.symm
  rw [enclose_of_ne_nil layout level _ _ hne]
  exact .array (isPad_newline hl (level + 1)) (h _ (isPad_newline hl level))

/-- Fields between braces are a value, on one line or on several. -/
theorem isValue_encloseFields {layout : Layout} (hl : layout.IsBlank) (level : Nat)
    {fields : List Char} (h : ∀ w, IsPad w → IsFields admits (fields ++ (w ++ ['\x7d']))) :
    IsValue admits (layout.enclose level '\x7b' '\x7d' fields) := by
  have hne : fields ≠ [] := by
    rintro rfl
    obtain ⟨cs, hc⟩ := (h [] isPad_nil).head
    exact absurd (List.cons.inj hc).1 (by decide)
  rw [enclose_of_ne_nil layout level _ _ hne]
  exact .object (isPad_newline hl (level + 1)) (h _ (isPad_newline hl level))

mutual

/-- **Writing.** A value whose numbers are finite is written by the rules. -/
theorem isValue_render {layout : Layout} (hl : layout.IsBlank) :
    ∀ (v : Value) (level : Nat), isFinite v = true →
      IsValue (fun _ => True) (render layout level v)
  | .null, _ => fun _ => .null
  | .bool b, _ => fun _ => .bool b
  | .int n, _ => fun _ => by
      rw [render]
      exact .number (isNumber_integerText n) trivial
  | .float x, _ => fun h => by
      rw [isFinite] at h
      rw [render]
      exact .number (isNumber_floatText h) trivial
  | .str s, _ => fun _ => .string (isString_stringText s.toList)
  | .member m, _ => fun _ => .string (isString_stringText m.fullName.toList)
  | .list [], _ => fun _ => .emptyArray isPad_nil
  | .tuple [], _ => fun _ => .emptyArray isPad_nil
  | .dict [], _ => fun _ => .emptyObject isPad_nil
  | .list (v :: vs), level => fun h => by
      rw [isFinite] at h
      rw [render]
      exact isValue_encloseItems hl level (isItems_render hl (v :: vs) _ (by simp) h)
  | .tuple (v :: vs), level => fun h => by
      rw [isFinite] at h
      rw [render]
      exact isValue_encloseItems hl level (isItems_render hl (v :: vs) _ (by simp) h)
  | .dict (e :: es), level => fun h => by
      rw [isFinite] at h
      rw [render]
      exact isValue_encloseFields hl level (isFields_render hl (e :: es) _ (by simp) h)

/-- Items with finite numbers are written as items. -/
theorem isItems_render {layout : Layout} (hl : layout.IsBlank) :
    ∀ (vs : List Value) (level : Nat), vs ≠ [] → areFinite vs = true →
      ∀ w, IsPad w → IsItems (fun _ => True) (renderItems layout level vs ++ (w ++ [']']))
  | [], _ => fun hne => absurd rfl hne
  | [v], level => fun _ h w hw => by
      rw [areFinite, Bool.and_eq_true] at h
      exact .last (isValue_render hl v level h.1) hw
  | v :: v' :: vs, level => fun _ h w hw => by
      rw [areFinite, Bool.and_eq_true] at h
      obtain ⟨w', hsep, hw'⟩ := separator_eq hl level
      have hmore := isItems_render hl (v' :: vs) level (by simp) h.2 w hw
      have hall := IsItems.cons (isValue_render hl v level h.1) isPad_nil hw' hmore
      rw [renderItems_cons_cons, hsep]
      simpa using hall

/-- Fields with finite numbers are written as fields. -/
theorem isFields_render {layout : Layout} (hl : layout.IsBlank) :
    ∀ (es : List (String × Value)) (level : Nat), es ≠ [] → fieldsFinite es = true →
      ∀ w, IsPad w → IsFields (fun _ => True) (renderEntries layout level es ++ (w ++ ['\x7d']))
  | [], _ => fun hne => absurd rfl hne
  | [(name, v)], level => fun _ h w hw => by
      rw [fieldsFinite, Bool.and_eq_true] at h
      have hlast := IsFields.last (isString_stringText name.toList) isPad_nil isPad_blank
        (isValue_render hl v level h.1) hw
      rw [renderEntries]
      simpa using hlast
  | (name, v) :: e :: es, level => fun _ h w hw => by
      rw [fieldsFinite, Bool.and_eq_true] at h
      obtain ⟨w', hsep, hw'⟩ := separator_eq hl level
      have hmore := isFields_render hl (e :: es) level (by simp) h.2 w hw
      have hall := IsFields.cons (isString_stringText name.toList) isPad_nil isPad_blank
        (isValue_render hl v level h.1) isPad_nil hw' hmore
      rw [renderEntries_cons_cons, hsep]
      simpa using hall

end

/-! ## Where the scanner stops -/

/-- What cannot be scanned cannot be scanned inside of a container. -/
theorem scan_enclose_of_none {layout : Layout} (hl : layout.IsBlank) (level : Nat)
    {left right : Char} {items : List Char} (hleft : isOuter left = true)
    (h : scan .outside items = none) :
    scan .outside (layout.enclose level left right items) = none := by
  have hne : items ≠ [] := by
    rintro rfl
    cases h
  rw [enclose_of_ne_nil layout level _ _ hne, scan_outer_cons hleft,
    scan_append_of_some (scan_pad (isPad_newline hl (level + 1))), scan_append, h]
  rfl

theorem scan_separator {layout : Layout} (hl : layout.IsBlank) (level : Nat) :
    scan .outside (layout.separator level) = some .outside := by
  obtain ⟨w, hsep, hw⟩ := separator_eq hl level
  rw [hsep, scan_outer_cons (by decide), scan_pad hw]

/-- The name of a field leads from outside to outside. -/
theorem scan_fieldName (name : String) :
    scan .outside (stringText name.toList ++ [':', ' ']) = some .outside := by
  rw [scan_append_of_some (isString_stringText _).scan_eq]
  rfl

/-- The words for numbers that are not finite cannot be scanned: no letter of JSON starts them.
-/
theorem scan_floatText_of_not_isFinite {x : Binary64} (h : x.isFinite = false) :
    scan .outside (Number.floatText specialNames x) = none := by
  cases x with
  | nan => rfl
  | infinite negative => cases negative <;> rfl
  | finite negative m e => cases h

mutual

/-- The scanner stops at a number that is not finite. -/
theorem scan_render_of_not_isFinite {layout : Layout} (hl : layout.IsBlank) :
    ∀ (v : Value) (level : Nat), isFinite v = false →
      scan .outside (render layout level v) = none
  | .float x, _ => fun h => by
      rw [isFinite] at h
      rw [render]
      exact scan_floatText_of_not_isFinite h
  | .list items, level => fun h => by
      rw [isFinite] at h
      rw [render]
      exact scan_enclose_of_none hl level (by decide)
        (scan_renderItems_of_not_areFinite hl items _ h)
  | .tuple items, level => fun h => by
      rw [isFinite] at h
      rw [render]
      exact scan_enclose_of_none hl level (by decide)
        (scan_renderItems_of_not_areFinite hl items _ h)
  | .dict entries, level => fun h => by
      rw [isFinite] at h
      rw [render]
      exact scan_enclose_of_none hl level (by decide)
        (scan_renderEntries_of_not_fieldsFinite hl entries _ h)
  | .null, _ | .bool _, _ | .int _, _ | .str _, _ | .member _, _ => fun h => by
      simp [isFinite] at h

/-- One such number among the items is enough. -/
theorem scan_renderItems_of_not_areFinite {layout : Layout} (hl : layout.IsBlank) :
    ∀ (vs : List Value) (level : Nat), areFinite vs = false →
      scan .outside (renderItems layout level vs) = none
  | [], _ => fun h => by simp [areFinite] at h
  | [v], level => fun h => by
      rw [areFinite, areFinite, Bool.and_true] at h
      exact scan_render_of_not_isFinite hl v level h
  | v :: v' :: vs, level => fun h => by
      rw [renderItems_cons_cons]
      cases hv : isFinite v with
      | false => rw [scan_append, scan_render_of_not_isFinite hl v level hv]; rfl
      | true =>
        rw [areFinite, hv, Bool.true_and] at h
        rw [scan_append_of_some (isValue_render hl v level hv).scan_eq,
          scan_append_of_some (scan_separator hl level),
          scan_renderItems_of_not_areFinite hl (v' :: vs) level h]

/-- One such number in a field is enough. -/
theorem scan_renderEntries_of_not_fieldsFinite {layout : Layout} (hl : layout.IsBlank) :
    ∀ (es : List (String × Value)) (level : Nat), fieldsFinite es = false →
      scan .outside (renderEntries layout level es) = none
  | [], _ => fun h => by simp [fieldsFinite] at h
  | [(name, v)], level => fun h => by
      rw [fieldsFinite, fieldsFinite, Bool.and_true] at h
      have hscan := scan_append_of_some (scan_fieldName name) (render layout level v)
      rw [scan_render_of_not_isFinite hl v level h, List.append_assoc] at hscan
      exact hscan
  | (name, v) :: e :: es, level => fun h => by
      rw [renderEntries_cons_cons, scan_append_of_some (scan_fieldName name)]
      cases hv : isFinite v with
      | false => rw [scan_append, scan_render_of_not_isFinite hl v level hv]; rfl
      | true =>
        rw [fieldsFinite, hv, Bool.true_and] at h
        rw [scan_append_of_some (isValue_render hl v level hv).scan_eq,
          scan_append_of_some (scan_separator hl level),
          scan_renderEntries_of_not_fieldsFinite hl (e :: es) level h]

end

/-- **Written JSON.** A value is written as JSON exactly if its numbers are finite. -/
theorem isJson_render_iff {layout : Layout} (hl : layout.IsBlank) (v : Value) :
    IsJson (render layout 0 v) ↔ isFinite v = true := by
  constructor
  · intro h
    cases hv : isFinite v with
    | true => rfl
    | false =>
      have hstop := scan_render_of_not_isFinite hl v 0 hv
      rw [h.scan_eq] at hstop
      cases hstop
  · intro h
    have hdocument := IsDocument.mk isPad_nil (isValue_render hl v 0 h) isPad_nil
    rwa [List.nil_append, List.append_nil] at hdocument

end CodeAtlas.Json
