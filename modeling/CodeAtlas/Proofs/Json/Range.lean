/-
CodeAtlas.Proofs.Json.Range — numbers in range are read as finite numbers.

The numbers of a JSON text have no bound, and one that is too large for 64 bits is read as
infinite. `IsInRange` leaves these out. Main statement: in what is read from a JSON text whose
numbers are all in range, every number is finite (`isFinite_of_document`).

The reader may refuse such a text, if it nests too deep or if an integer in it has too many
digits. So the statement is about what is read in case of success, and so is `Takes`, which is
said of one reader after the other: whenever the reader succeeds, it has taken exactly the part
of the text that the grammar gives it.
-/
import CodeAtlas.Proofs.Json.Conformance

namespace CodeAtlas.Json

/-- The number nearest to a numeral is finite. -/
def IsInRange (t : List Char) : Prop :=
  ∀ n x, numeral t = some (n, []) → n.value = .ok (.float x) → x.isFinite = true

/-- A reader that succeeds takes `t` off the text and leaves `rest`, and what it has read has
the property. -/
def Takes {α : Type} (P : α → Prop) (r : Reader α) (t rest : List Char) : Prop :=
  ∀ a after, r (t ++ rest) = .ok (a, after) → after = rest ∧ P a

/-! ## Numbers -/

/-- Of what a numeral stands for, only floating-point numbers can fail to be finite. -/
theorem isFinite_of_value {n : Numeral} {v : Value} (h : n.value = .ok v)
    (hrange : ∀ x, n.value = .ok (.float x) → x.isFinite = true) : isFinite v = true := by
  cases v with
  | float x => exact hrange x h
  | int m => rfl
  | _ =>
    unfold Numeral.value at h
    split at h
    · split at h <;> cases h
    · cases h

/-- A number in range is read as a finite number. -/
theorem takes_number {t rest : List Char} (h : IsNumber t) (hrange : IsInRange t)
    (fuel depth : Nat) (hr : Ends rest) :
    Takes (fun v => isFinite v = true) (value fuel depth) t rest := by
  intro v after hread
  obtain ⟨n, hn⟩ := numeral_append h
  have hwhole : numeral t = some (n, []) := by simpa using hn [] ends_nil
  rw [value_of_isNumber fuel depth h] at hread
  simp only [scalar, find_words_of_isNumber h rest, hn rest hr] at hread
  split at hread
  · next w hv =>
    cases hread
    exact ⟨rfl, isFinite_of_value hv fun x => hrange n x hwhole⟩
  · cases hread

/-! ## Strings -/

/-- The hexadecimal digits of the grammar have values. -/
theorem hexValue?_of_isHexDigit {c : Char} (h : isHexDigit c = true) :
    ∃ n, hexValue? c = some n := by
  unfold hexValue?
  split
  · exact ⟨_, rfl⟩
  · next hdigit =>
    split
    · exact ⟨_, rfl⟩
    · next hsmall =>
      split
      · exact ⟨_, rfl⟩
      · next hlarge =>
        simp only [isHexDigit, hsmall, hlarge, Bool.or_false, Char.isDigit] at h
        exact absurd h hdigit

/-- A character of the grammar is read as units, whatever follows. -/
theorem stringUnits_of_isCharacter {t : List Char} (h : IsCharacter t) :
    ∃ units : List Nat, ∀ opening rest, rest ≠ [] →
      stringUnits opening (t ++ rest) = units.foldr push (stringUnits opening rest) := by
  cases h with
  | plain hc hq hb =>
    obtain ⟨units, -, hunits⟩ := stringUnits_of_spellsChar (.plain hc hq hb)
    exact ⟨units, hunits⟩
  | @escape e he =>
    have hletter : escapeLetters.all (fun e => (shortEscape? e).isSome) = true := by decide
    obtain ⟨c, hc⟩ := Option.isSome_iff_exists.mp (List.all_eq_true.mp hletter e he)
    obtain ⟨units, -, hunits⟩ := stringUnits_of_spellsChar (.short hc)
    exact ⟨units, hunits⟩
  | @unit x₁ x₂ x₃ x₄ h =>
    simp only [List.forall_mem_cons] at h
    obtain ⟨n₁, h₁⟩ := hexValue?_of_isHexDigit h.1
    obtain ⟨n₂, h₂⟩ := hexValue?_of_isHexDigit h.2.1
    obtain ⟨n₃, h₃⟩ := hexValue?_of_isHexDigit h.2.2.1
    obtain ⟨n₄, h₄⟩ := hexValue?_of_isHexDigit h.2.2.2.1
    have hunit : hexUnit? x₁ x₂ x₃ x₄ = some (((n₁ * 16 + n₂) * 16 + n₃) * 16 + n₄) := by
      simp [hexUnit?, h₁, h₂, h₃, h₄]
    exact ⟨[_], fun opening rest hrest => stringUnits_unit hunit opening hrest⟩

/-- A string of the grammar is read. -/
theorem stringBody_of_isCharacters {t : List Char} (h : IsCharacters t) :
    ∃ s, ∀ opening rest, stringBody opening (t ++ '"' :: rest) = .ok (s, rest) := by
  have hunits : ∃ units, ∀ opening rest,
      stringUnits opening (t ++ '"' :: rest) = .ok (units, rest) := by
    induction h with
    | nil => exact ⟨[], fun opening rest => stringUnits.eq_2 opening rest⟩
    | cons h _ ih =>
      obtain ⟨first, hfirst⟩ := stringUnits_of_isCharacter h
      obtain ⟨units, hmore⟩ := ih
      refine ⟨first ++ units, fun opening rest => ?_⟩
      rw [List.append_assoc, hfirst opening _ (by simp), hmore, foldr_push]
  obtain ⟨units, hread⟩ := hunits
  exact ⟨_, fun opening rest => by rw [stringBody, hread]⟩

/-- A string holds no number. -/
theorem takes_string {t : List Char} (h : IsString t) (fuel depth : Nat) (rest : List Char) :
    Takes (fun v => isFinite v = true) (value fuel depth) t rest := by
  intro v after hread
  cases h with
  | mk h =>
    obtain ⟨s, hs⟩ := stringBody_of_isCharacters h
    rw [List.cons_append, List.append_assoc, List.singleton_append] at hread
    cases depth <;>
      · rw [value, term, hs] at hread
        cases hread
        exact ⟨rfl, rfl⟩

/-- The name of a field is read, with the white space around the colon. -/
theorem fieldName_of_isString {n u u' rest : List Char} (h : IsString n) (hu : IsPad u)
    (hu' : IsPad u') (hr : ∀ c ∈ rest.head?, isSpace c = false) :
    ∃ name, fieldName (n ++ (u ++ ':' :: (u' ++ rest))) = .ok (name, rest) := by
  cases h with
  | mk h =>
    obtain ⟨name, hname⟩ := stringBody_of_isCharacters h
    refine ⟨name, ?_⟩
    rw [List.cons_append, List.append_assoc, List.singleton_append, fieldName]
    simp only [hname, skip_sign hu (show isSpace ':' = false by decide), skip_pad hu' hr]

/-! ## Containers

One step of each loop, for any reader of items. -/

section

variable {item : Reader Value} {P : Value → Prop}

/-- The last item, with the bracket behind it. -/
theorem takes_elements_last {t w rest : List Char} (count : Nat) (hw : IsPad w)
    (h : Takes P item t (w ++ ']' :: rest)) :
    Takes (fun vs => ∀ v ∈ vs, P v) (elements item count) (t ++ (w ++ [']'])) rest := by
  intro vs after hread
  rw [List.append_assoc, List.append_assoc, List.singleton_append] at hread
  cases count with
  | zero => cases hread
  | succ count =>
    rw [elements] at hread
    cases hitem : item (t ++ (w ++ ']' :: rest)) with
    | error e => rw [hitem] at hread; cases hread
    | ok read =>
      obtain ⟨v, remaining⟩ := read
      obtain ⟨rfl, hv⟩ := h v remaining hitem
      simp only [hitem, skip_sign hw (show isSpace ']' = false by decide)] at hread
      cases hread
      exact ⟨rfl, by simpa using hv⟩

/-- An item with a comma behind it, and the items after that. -/
theorem takes_elements_cons {t w w' ts rest : List Char} (count : Nat) (hw : IsPad w)
    (hw' : IsPad w') (hhead : ∀ c ∈ (ts ++ rest).head?, isSpace c = false)
    (h : Takes P item t (w ++ ',' :: (w' ++ (ts ++ rest))))
    (hs : ∀ count, Takes (fun vs => ∀ v ∈ vs, P v) (elements item count) ts rest) :
    Takes (fun vs => ∀ v ∈ vs, P v) (elements item count) (t ++ (w ++ ',' :: (w' ++ ts))) rest := by
  intro vs after hread
  simp only [List.append_assoc, List.cons_append] at hread
  cases count with
  | zero => cases hread
  | succ count =>
    rw [elements] at hread
    cases hitem : item (t ++ (w ++ ',' :: (w' ++ (ts ++ rest)))) with
    | error e => rw [hitem] at hread; cases hread
    | ok read =>
      obtain ⟨v, remaining⟩ := read
      obtain ⟨rfl, hv⟩ := h v remaining hitem
      simp only [hitem, skip_sign hw (show isSpace ',' = false by decide),
        skip_pad hw' hhead] at hread
      split at hread
      · next vs' remaining hmore =>
        obtain ⟨rfl, hvs⟩ := hs count vs' remaining hmore
        cases hread
        exact ⟨rfl, List.forall_mem_cons.mpr ⟨hv, hvs⟩⟩
      · cases hread

/-- The last field, with the brace behind it. -/
theorem takes_members_last {n u u' t w rest : List Char} (count : Nat) (hn : IsString n)
    (hu : IsPad u) (hu' : IsPad u') (hw : IsPad w)
    (hhead : ∀ c ∈ (t ++ (w ++ '\x7d' :: rest)).head?, isSpace c = false)
    (h : Takes P item t (w ++ '\x7d' :: rest)) :
    Takes (fun es => ∀ f ∈ es, P f.2) (members item count)
      (n ++ (u ++ ':' :: (u' ++ (t ++ (w ++ ['\x7d']))))) rest := by
  intro es after hread
  simp only [List.append_assoc, List.cons_append, List.nil_append] at hread
  obtain ⟨name, hname⟩ := fieldName_of_isString hn hu hu' hhead
  cases count with
  | zero => cases hread
  | succ count =>
    rw [members, hname] at hread
    cases hitem : item (t ++ (w ++ '\x7d' :: rest)) with
    | error e => simp only [hitem] at hread; cases hread
    | ok read =>
      obtain ⟨v, remaining⟩ := read
      obtain ⟨rfl, hv⟩ := h v remaining hitem
      simp only [hitem, skip_sign hw (show isSpace '\x7d' = false by decide)] at hread
      cases hread
      exact ⟨rfl, by simpa using hv⟩

/-- A field with a comma behind it, and the fields after that. -/
theorem takes_members_cons {n u u' t w w' ts rest : List Char} (count : Nat) (hn : IsString n)
    (hu : IsPad u) (hu' : IsPad u') (hw : IsPad w) (hw' : IsPad w')
    (hhead : ∀ c ∈ (t ++ (w ++ ',' :: (w' ++ (ts ++ rest)))).head?, isSpace c = false)
    (hnext : ∀ c ∈ (ts ++ rest).head?, isSpace c = false)
    (h : Takes P item t (w ++ ',' :: (w' ++ (ts ++ rest))))
    (hs : ∀ count, Takes (fun es => ∀ f ∈ es, P f.2) (members item count) ts rest) :
    Takes (fun es => ∀ f ∈ es, P f.2) (members item count)
      (n ++ (u ++ ':' :: (u' ++ (t ++ (w ++ ',' :: (w' ++ ts)))))) rest := by
  intro es after hread
  simp only [List.append_assoc, List.cons_append] at hread
  obtain ⟨name, hname⟩ := fieldName_of_isString hn hu hu' hhead
  cases count with
  | zero => cases hread
  | succ count =>
    rw [members, hname] at hread
    cases hitem : item (t ++ (w ++ ',' :: (w' ++ (ts ++ rest)))) with
    | error e => simp only [hitem] at hread; cases hread
    | ok read =>
      obtain ⟨v, remaining⟩ := read
      obtain ⟨rfl, hv⟩ := h v remaining hitem
      simp only [hitem, skip_sign hw (show isSpace ',' = false by decide),
        skip_pad hw' hnext] at hread
      split at hread
      · next es' remaining hmore =>
        obtain ⟨rfl, hes⟩ := hs count es' remaining hmore
        cases hread
        exact ⟨rfl, List.forall_mem_cons.mpr ⟨hv, hes⟩⟩
      · cases hread

end

/-- An array is read if its items are. -/
theorem takes_array {w t rest : List Char} (hw : IsPad w) (hhead : ∃ c cs, t = c :: cs ∧
      isSpace c = false ∧ c ≠ ']') (fuel depth : Nat)
    (h : Takes (fun vs => ∀ v ∈ vs, isFinite v = true) (elements (value fuel depth) fuel) t rest) :
    Takes (fun v => isFinite v = true) (value fuel (depth + 1)) ('[' :: (w ++ t)) rest := by
  intro v after hread
  obtain ⟨c, cs, rfl, hc, hbracket⟩ := hhead
  rw [List.cons_append, List.append_assoc, value, term, arrayBody, List.cons_append,
    skip_sign hw hc] at hread
  split at hread
  · next hclose => exact absurd (List.cons.inj hclose).1 hbracket
  · split at hread
    · next vs remaining hitems =>
      obtain ⟨rfl, hvs⟩ := h vs remaining hitems
      cases hread
      exact ⟨rfl, areFinite_iff.mpr hvs⟩
    · cases hread

/-- An object is read if its fields are; a name that is repeated only drops a value. -/
theorem takes_object {w t rest : List Char} (hw : IsPad w) (hhead : ∃ cs, t = '"' :: cs)
    (fuel depth : Nat)
    (h : Takes (fun es => ∀ f ∈ es, isFinite f.2 = true) (members (value fuel depth) fuel) t rest) :
    Takes (fun v => isFinite v = true) (value fuel (depth + 1)) ('\x7b' :: (w ++ t)) rest := by
  intro v after hread
  obtain ⟨cs, rfl⟩ := hhead
  rw [List.cons_append, List.append_assoc, value, term, objectBody, List.cons_append,
    skip_sign hw (by decide)] at hread
  split at hread
  · next hclose => exact absurd (List.cons.inj hclose).1 (by decide)
  · split at hread
    · next es remaining hfields =>
      obtain ⟨rfl, hes⟩ := h es remaining hfields
      cases hread
      exact ⟨rfl, fieldsFinite_iff.mpr fun f hf => hes f (Table.mem_of_mem_ofPairs hf)⟩
    · cases hread

/-! ## All values -/

section

variable {admits : List Char → Prop}

theorem IsValue.head_not_space {t : List Char} (h : IsValue admits t) (rest : List Char) :
    ∀ c ∈ (t ++ rest).head?, isSpace c = false := by
  obtain ⟨c, cs, rfl, hc, -⟩ := h.head
  rintro a ⟨⟩
  exact hc

theorem IsItems.head_not_space {t : List Char} (h : IsItems admits t) (rest : List Char) :
    ∀ c ∈ (t ++ rest).head?, isSpace c = false := by
  obtain ⟨c, cs, rfl, hc, -⟩ := h.head
  rintro a ⟨⟩
  exact hc

theorem IsFields.head_not_space {t : List Char} (h : IsFields admits t) (rest : List Char) :
    ∀ c ∈ (t ++ rest).head?, isSpace c = false := by
  obtain ⟨cs, rfl⟩ := h.head
  rintro a ⟨⟩
  decide

end

mutual

/-- Values whose numbers are in range are taken whole, and read as finite ones. -/
theorem IsValue.takes : ∀ {t : List Char}, IsValue IsInRange t →
    ∀ (fuel depth : Nat) (rest : List Char), Ends rest →
      Takes (fun v => isFinite v = true) (value fuel depth) t rest
  | _, .null, fuel, depth, rest, _ => by
      intro v after hread
      have hvalue : value fuel depth ("null".toList ++ rest) = .ok (.null, rest) := by
        rw [← scalar_null rest]
        exact value_eq_scalar fuel depth (by decide) (by decide) (by decide)
      cases hvalue.symm.trans hread
      exact ⟨rfl, rfl⟩
  | _, .bool b, fuel, depth, rest, _ => by
      intro v after hread
      have hvalue : value fuel depth ((if b then "true" else "false").toList ++ rest)
          = .ok (.bool b, rest) := by
        rw [← scalar_bool b rest]
        cases b <;> exact value_eq_scalar fuel depth (by decide) (by decide) (by decide)
      cases hvalue.symm.trans hread
      exact ⟨rfl, rfl⟩
  | _, .number h hrange, fuel, depth, _, hr => takes_number h hrange fuel depth hr
  | _, .string h, fuel, depth, rest, _ => takes_string h fuel depth rest
  | _, .emptyArray _, _, 0, _, _ => nofun
  | _, .array _ _, _, 0, _, _ => nofun
  | _, .emptyObject _, _, 0, _, _ => nofun
  | _, .object _ _, _, 0, _, _ => nofun
  | _, .emptyArray hw, fuel, depth + 1, rest, _ => by
      intro v after hread
      have hclose := skip_sign hw (show isSpace ']' = false by decide) rest
      simp only [List.cons_append, List.append_assoc, List.nil_append, value, term, arrayBody,
        hclose] at hread
      cases hread
      exact ⟨rfl, rfl⟩
  | _, .emptyObject hw, fuel, depth + 1, rest, _ => by
      intro v after hread
      have hclose := skip_sign hw (show isSpace '\x7d' = false by decide) rest
      simp only [List.cons_append, List.append_assoc, List.nil_append, value, term, objectBody,
        hclose] at hread
      cases hread
      exact ⟨rfl, rfl⟩
  | _, .array hw h, fuel, depth + 1, rest, _ =>
      takes_array hw h.head fuel depth (h.takes fuel depth fuel rest)
  | _, .object hw h, fuel, depth + 1, rest, _ =>
      takes_object hw h.head fuel depth (h.takes fuel depth fuel rest)

/-- Items in range, by induction on how they are JSON. -/
theorem IsItems.takes : ∀ {t : List Char}, IsItems IsInRange t →
    ∀ (fuel depth count : Nat) (rest : List Char),
      Takes (fun vs => ∀ v ∈ vs, isFinite v = true) (elements (value fuel depth) count) t rest
  | _, .last h hw, fuel, depth, count, rest =>
      takes_elements_last count hw (h.takes fuel depth _ (ends_pad_sign hw (by decide) rest))
  | _, .cons h hw hw' hs, fuel, depth, count, rest =>
      takes_elements_cons count hw hw' (hs.head_not_space rest)
        (h.takes fuel depth _ (ends_pad_sign hw (by decide) _))
        fun count => hs.takes fuel depth count rest

/-- Fields in range, likewise. -/
theorem IsFields.takes : ∀ {t : List Char}, IsFields IsInRange t →
    ∀ (fuel depth count : Nat) (rest : List Char),
      Takes (fun es => ∀ f ∈ es, isFinite f.2 = true) (members (value fuel depth) count) t rest
  | _, .last hn hu hu' h hw, fuel, depth, count, rest =>
      takes_members_last count hn hu hu' hw (h.head_not_space _)
        (h.takes fuel depth _ (ends_pad_sign hw (by decide) rest))
  | _, .cons hn hu hu' h hw hw' hs, fuel, depth, count, rest =>
      takes_members_cons count hn hu hu' hw hw' (h.head_not_space _) (hs.head_not_space rest)
        (h.takes fuel depth _ (ends_pad_sign hw (by decide) _))
        fun count => hs.takes fuel depth count rest

end

/-- **Reading in range.** Where all numbers of a text are in range, all numbers that are read
are finite. -/
theorem isFinite_of_document {t : List Char} (h : IsDocument IsInRange t) {v : Value}
    {depth : Nat} (hread : document depth t = .ok v) : isFinite v = true := by
  cases h with
  | @mk w u w' hw h hw' =>
    rw [document, skip_pad hw (h.head_not_space w')] at hread
    split at hread
    · cases hread
    · next value rest hvalue =>
      have hends : Ends w' := by
        have hpad := ends_pad hw' ends_nil
        rwa [List.append_nil] at hpad
      obtain ⟨-, hfinite⟩ := h.takes _ _ w' hends value rest hvalue
      split at hread
      · cases hread
        exact hfinite
      · cases hread

end CodeAtlas.Json
