/-
CodeAtlas.Proofs.Table — what inserting does to a table.

An insertion is described three times, once for each way of looking at a table:
by look-up (`get?_insert`), by keys (`keys_insert`) and by entries
(`mem_insert`). From the second it follows that keys never repeat
(`nodup_insert`). The last section follows a whole list of insertions: what is
found under a key afterwards is what was inserted last (`get?_foldl_insert`), the
new keys come behind the old ones, each where it came first (`keys_foldl_insert`),
inserting them all once more changes nothing (`foldl_insert_again`), and pairs whose
keys differ make up a table as they are (`ofPairs_of_nodup`).
-/
import CodeAtlas.Table

namespace CodeAtlas.Table

variable {κ : Type u} {α : Type v} [DecidableEq κ]

/-! ## Look-up -/

@[simp] theorem get?_nil (k : κ) : get? ([] : Table κ α) k = none := rfl

/-- What was put in last under a key is what is there. -/
theorem get?_insert (t : Table κ α) (k k' : κ) (a : α) :
    (t.insert k a).get? k' = if k = k' then some a else t.get? k' := by
  induction t with
  | nil => rfl
  | cons p t ih =>
    obtain ⟨l, b⟩ := p
    by_cases hl : l = k
    · subst hl
      by_cases hk : l = k' <;> simp [insert, get?, hk]
    · by_cases hk : k = k'
      · subst hk
        simp [insert, get?, hl, ih]
      · simp [insert, get?, hl, hk, ih]

theorem mem_of_get? {t : Table κ α} {k : κ} {a : α} (h : get? t k = some a) : (k, a) ∈ t := by
  induction t with
  | nil => cases h
  | cons p t ih =>
    obtain ⟨k', b⟩ := p
    rw [get?] at h
    split at h
    · next hk =>
      cases h
      rw [hk]
      exact List.mem_cons_self
    · exact List.mem_cons_of_mem _ (ih h)

/-- The check for a key and the list of keys say the same. -/
theorem contains_iff_mem_keys (t : Table κ α) (k : κ) :
    t.contains k = true ↔ k ∈ t.keys := by
  induction t with
  | nil => simp [contains, keys]
  | cons p t ih =>
    obtain ⟨l, b⟩ := p
    simp only [contains, keys, get?, List.map_cons, List.mem_cons] at ih ⊢
    by_cases hl : l = k
    · simp [hl]
    · simp [hl, Ne.symm hl, ih]

/-- Where keys differ, what is found under a key is the entry with it. -/
theorem get?_eq_some_iff {t : Table κ α} (h : t.keys.Nodup) {k : κ} {a : α} :
    t.get? k = some a ↔ (k, a) ∈ t := by
  refine ⟨mem_of_get?, fun hmem => ?_⟩
  induction t with
  | nil => exact absurd hmem List.not_mem_nil
  | cons p t ih =>
    obtain ⟨l, b⟩ := p
    rw [keys, List.map_cons, List.nodup_cons] at h
    rcases List.mem_cons.mp hmem with heq | hrest
    · cases heq
      rw [get?, if_pos rfl]
    · have hne : l ≠ k := by
        rintro rfl
        exact h.1 (List.mem_map.mpr ⟨_, hrest, rfl⟩)
      rw [get?, if_neg hne]
      exact ih h.2 hrest

/-! ## Keys and entries -/

/-- A key that is there keeps its place, and a new one comes last. -/
theorem keys_insert (t : Table κ α) (k : κ) (a : α) :
    (t.insert k a).keys = if k ∈ t.keys then t.keys else t.keys ++ [k] := by
  induction t with
  | nil => rfl
  | cons p t ih =>
    obtain ⟨l, b⟩ := p
    simp only [keys] at ih
    by_cases hl : l = k
    · simp [insert, keys, hl]
    · simp only [insert, keys, hl, if_false, List.map_cons, List.mem_cons, ih, Ne.symm hl,
        false_or]
      by_cases hk : k ∈ t.map (·.1) <;> simp [hk]

theorem mem_keys_insert (t : Table κ α) (k k' : κ) (a : α) :
    k' ∈ (t.insert k a).keys ↔ k' = k ∨ k' ∈ t.keys := by
  rw [keys_insert]
  split
  · rename_i hk
    constructor
    · exact Or.inr
    · rintro (rfl | h)
      · exact hk
      · exact h
  · simp [or_comm]

/-- Putting something in keeps the keys distinct. -/
theorem nodup_insert {t : Table κ α} (h : t.keys.Nodup) (k : κ) (a : α) :
    (t.insert k a).keys.Nodup := by
  rw [keys_insert]
  split
  · exact h
  · rename_i hk
    rw [List.nodup_append]
    refine ⟨h, by simp, ?_⟩
    intro l hl m hm
    rw [List.mem_singleton] at hm
    rintro rfl
    exact hk (hm ▸ hl)

/-- An entry after an insertion is the new one or one that was there. -/
theorem mem_insert {t : Table κ α} {k : κ} {a : α} {p : κ × α}
    (h : p ∈ t.insert k a) : p = (k, a) ∨ p ∈ t := by
  induction t with
  | nil => exact Or.inl (List.mem_singleton.mp h)
  | cons q t ih =>
    obtain ⟨l, b⟩ := q
    by_cases hl : l = k
    · simp only [insert, hl, if_true, List.mem_cons] at h
      rcases h with h | h
      · exact Or.inl h
      · exact Or.inr (List.mem_cons_of_mem _ h)
    · simp only [insert, hl, if_false, List.mem_cons] at h
      rcases h with h | h
      · exact Or.inr (h ▸ List.mem_cons_self)
      · rcases ih h with h | h
        · exact Or.inl h
        · exact Or.inr (List.mem_cons_of_mem _ h)

theorem insert_of_not_mem {t : Table κ α} {k : κ} (h : k ∉ t.keys) (a : α) :
    t.insert k a = t ++ [(k, a)] := by
  induction t with
  | nil => rfl
  | cons p t ih =>
    obtain ⟨l, b⟩ := p
    simp only [keys, List.map_cons, List.mem_cons, not_or] at h ih
    rw [insert, if_neg (Ne.symm h.1), ih h.2, List.cons_append]

/-- Of two insertions under one key, the second counts. -/
theorem insert_insert (t : Table κ α) (k : κ) (a b : α) :
    (t.insert k a).insert k b = t.insert k b := by
  induction t with
  | nil => simp [insert]
  | cons p t ih =>
    obtain ⟨l, c⟩ := p
    by_cases hl : l = k
    · simp [insert, hl]
    · simp [insert, hl, ih]

/-- Inserting what is found there changes nothing. -/
theorem insert_of_get? {t : Table κ α} {k : κ} {a : α} (h : t.get? k = some a) :
    t.insert k a = t := by
  induction t with
  | nil => cases h
  | cons p t ih =>
    obtain ⟨l, b⟩ := p
    rw [get?] at h
    by_cases hl : l = k
    · rw [if_pos hl] at h
      cases h
      rw [insert, if_pos hl]
    · rw [if_neg hl] at h
      rw [insert, if_neg hl, ih h]

/-- Two insertions under different keys can change places if one of the keys is there
already: otherwise they decide which key comes first. -/
theorem insert_comm {t : Table κ α} {k l : κ} (hne : k ≠ l) (hk : k ∈ t.keys) (a b : α) :
    (t.insert k a).insert l b = (t.insert l b).insert k a := by
  induction t with
  | nil => exact absurd hk List.not_mem_nil
  | cons p t ih =>
    obtain ⟨m, c⟩ := p
    by_cases hmk : m = k
    · subst hmk
      simp [insert, hne]
    · by_cases hml : m = l
      · subst hml
        simp [insert, hmk]
      · have hrest : k ∈ keys t := (List.mem_cons.mp hk).resolve_left (Ne.symm hmk)
        simp [insert, hmk, hml, ih hrest]

/-! ## Lists of insertions -/

/-- Pairs whose keys differ are a table as they are. -/
theorem ofPairs_of_nodup {pairs : List (κ × α)} (h : (keys pairs).Nodup) :
    ofPairs pairs = pairs := by
  -- the table that is there already comes first, so the induction is about both parts
  have key : ∀ (rest t : List (κ × α)), (keys (t ++ rest)).Nodup →
      rest.foldl (fun t p => insert t p.1 p.2) t = t ++ rest := by
    intro rest
    induction rest with
    | nil => intro t _; rw [List.foldl_nil, List.append_nil]
    | cons p rest ih =>
      intro t ht
      have hp : p.1 ∉ keys t := by
        intro hmem
        rw [keys, List.map_append, List.nodup_append] at ht
        exact ht.2.2 p.1 hmem p.1 (by simp) rfl
      rw [List.foldl_cons, insert_of_not_mem hp, ih (t ++ [(p.1, p.2)]) (by simpa using ht)]
      simp
  exact key pairs [] h

/-- What is in a table was there before, or is one of the items put in. -/
theorem mem_of_mem_foldl_insert {β : Type w} {key : β → κ} {content : β → α} {items : List β}
    {t : Table κ α} {p : κ × α}
    (h : p ∈ items.foldl (fun t x => t.insert (key x) (content x)) t) :
    p ∈ t ∨ ∃ x ∈ items, p = (key x, content x) := by
  induction items generalizing t with
  | nil => exact Or.inl h
  | cons x items ih =>
    rcases ih h with hinsert | ⟨y, hy, rfl⟩
    · rcases mem_insert hinsert with rfl | hp
      · exact Or.inr ⟨x, List.mem_cons_self, rfl⟩
      · exact Or.inl hp
    · exact Or.inr ⟨y, List.mem_cons_of_mem x hy, rfl⟩

theorem mem_of_mem_ofPairs {pairs : List (κ × α)} {p : κ × α} (h : p ∈ ofPairs pairs) :
    p ∈ pairs := by
  rcases mem_of_mem_foldl_insert h with hp | ⟨q, hq, rfl⟩
  · exact absurd hp List.not_mem_nil
  · exact hq

/-- After items have been inserted one after the other, a key holds the last
item that has it, and what it held before if none has. -/
theorem get?_foldl_insert {β : Type w} (key : β → κ) (content : β → α) (k : κ)
    (items : List β) (t : Table κ α) :
    (items.foldl (fun t x => t.insert (key x) (content x)) t).get? k
      = (((items.filter fun x => key x = k).getLast?).map content).or (t.get? k) := by
  induction items generalizing t with
  | nil => rfl
  | cons x items ih =>
    rw [List.foldl_cons, ih, get?_insert]
    by_cases hk : key x = k
    · rw [List.filter_cons_of_pos (by simpa using hk), List.getLast?_cons]
      cases (items.filter fun x => key x = k).getLast? <;> simp [hk]
    · rw [List.filter_cons_of_neg (by simpa using hk), if_neg hk]

/-- After items have been inserted one after the other, the keys are those that were there
and behind them the new ones, each where it came first. -/
theorem keys_foldl_insert {β : Type w} (key : β → κ) (content : β → α) (items : List β)
    (t : Table κ α) :
    (items.foldl (fun t x => t.insert (key x) (content x)) t).keys
      = t.keys ++ ((items.map key).filter (· ∉ t.keys)).eraseDups := by
  induction items generalizing t with
  | nil => simp
  | cons x items ih =>
    rw [List.foldl_cons, ih, keys_insert, List.map_cons]
    by_cases hx : key x ∈ t.keys
    · rw [if_pos hx, List.filter_cons_of_neg (by simpa using hx)]
    · -- a key that has just become the last one is no news any more
      have hnews : (items.map key).filter (· ∉ t.keys ++ [key x])
          = ((items.map key).filter (· ∉ t.keys)).filter fun k => !k == key x := by
        rw [List.filter_filter]
        refine List.filter_congr fun k _ => ?_
        by_cases hk : k = key x <;> simp [hk]
      rw [if_neg hx, hnews, List.filter_cons_of_pos (by simpa using hx), List.eraseDups_cons,
        List.append_assoc, List.singleton_append]

/-- What is written under a key that is there does not matter if an item with that key is
inserted later. -/
theorem foldl_insert_of_mem {β : Type w} (key : β → κ) (content : β → α) {items : List β}
    {t : Table κ α} {k : κ} (hk : k ∈ t.keys) (hitem : k ∈ items.map key) (a : α) :
    items.foldl (fun t x => t.insert (key x) (content x)) (t.insert k a)
      = items.foldl (fun t x => t.insert (key x) (content x)) t := by
  induction items generalizing t with
  | nil => exact absurd hitem List.not_mem_nil
  | cons x items ih =>
    rw [List.foldl_cons, List.foldl_cons]
    by_cases hx : k = key x
    · rw [hx, insert_insert]
    · have hstill : k ∈ (t.insert (key x) (content x)).keys :=
        (mem_keys_insert t (key x) k (content x)).mpr (Or.inr hk)
      have hlater : k ∈ items.map key := (List.mem_cons.mp hitem).resolve_left hx
      rw [insert_comm hx hk, ih hstill hlater]

/-- Items that have been inserted, all of them, can be inserted again without a change: the
last item of each key is there already, and what an earlier one writes over it is put back by
the last one. -/
theorem foldl_insert_again {β : Type w} (key : β → κ) (content : β → α) (items : List β)
    (t : Table κ α) :
    items.foldl (fun t x => t.insert (key x) (content x))
        (items.foldl (fun t x => t.insert (key x) (content x)) t)
      = items.foldl (fun t x => t.insert (key x) (content x)) t := by
  induction items generalizing t with
  | nil => rfl
  | cons x items ih =>
    have hagain := ih (t.insert (key x) (content x))
    rw [List.foldl_cons, List.foldl_cons]
    by_cases hx : key x ∈ items.map key
    · have hthere : key x ∈ (items.foldl (fun t x => t.insert (key x) (content x))
          (t.insert (key x) (content x))).keys := by
        rw [keys_foldl_insert]
        exact List.mem_append_left _ ((mem_keys_insert t _ _ _).mpr (Or.inl rfl))
      rw [foldl_insert_of_mem key content hthere hx, hagain]
    · have hlast : (items.foldl (fun t x => t.insert (key x) (content x))
          (t.insert (key x) (content x))).get? (key x) = some (content x) := by
        have hnone : items.filter (fun y => key y = key x) = [] := by
          rw [List.filter_eq_nil_iff]
          intro y hy hkey
          exact hx (List.mem_map.mpr ⟨y, hy, of_decide_eq_true hkey⟩)
        rw [get?_foldl_insert, hnone, get?_insert, if_pos rfl]
        rfl
      rw [insert_of_get? hlast, hagain]

end CodeAtlas.Table
