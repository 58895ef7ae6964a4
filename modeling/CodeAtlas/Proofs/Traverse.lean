/-
CodeAtlas.Proofs.Traverse — results that need not be there, alone and in lists.

`List.mapM` asks for a result for every item of a list and gives none if one is missing.
Every result comes from an item (`exists_of_mem_mapM`), there are results if there is one
for every item (`exists_mapM`), and they are known if each of them is (`mapM_eq_some_map`). A
change of items or results can be made before or after they are collected (`mapM_map_congr`,
`map_mapM`).

A computation that may fail has not failed if its result passes a test (`exists_ok_of_any`).
-/
namespace CodeAtlas

variable {α β γ δ : Type}

/-- Every result comes from an item. -/
theorem exists_of_mem_mapM {f : α → Option β} :
    ∀ {as : List α} {bs : List β}, as.mapM f = some bs → ∀ b ∈ bs, ∃ a ∈ as, f a = some b
  | [], bs, h, b, hb => by
    cases h
    exact absurd hb List.not_mem_nil
  | a :: as, bs, h, b, hb => by
    rw [List.mapM_cons] at h
    obtain ⟨b', hb', h⟩ := Option.bind_eq_some_iff.mp h
    obtain ⟨bs', hbs', h⟩ := Option.bind_eq_some_iff.mp h
    cases h
    rcases List.mem_cons.mp hb with rfl | hb
    · exact ⟨a, List.mem_cons_self, hb'⟩
    · obtain ⟨a', ha', hf⟩ := exists_of_mem_mapM hbs' b hb
      exact ⟨a', List.mem_cons_of_mem _ ha', hf⟩

/-- Where every item has a result, all of them have. -/
theorem exists_mapM {f : α → Option β} {as : List α} (h : ∀ a ∈ as, ∃ b, f a = some b) :
    ∃ bs, as.mapM f = some bs := by
  induction as with
  | nil => exact ⟨[], rfl⟩
  | cons a as ih =>
    obtain ⟨b, hb⟩ := h a List.mem_cons_self
    obtain ⟨bs, hbs⟩ := ih fun a ha => h a (List.mem_cons_of_mem _ ha)
    refine ⟨b :: bs, ?_⟩
    rw [List.mapM_cons, hb, hbs]
    rfl

theorem mapM_eq_some_map {f : α → Option β} {g : α → β} {as : List α}
    (h : ∀ a ∈ as, f a = some (g a)) : as.mapM f = some (as.map g) := by
  induction as with
  | nil => rfl
  | cons a as ih =>
    rw [List.mapM_cons, h a List.mem_cons_self, ih fun a ha => h a (List.mem_cons_of_mem _ ha)]
    rfl

theorem mapM_eq_some_self {f : α → Option α} {as : List α}
    (h : ∀ a ∈ as, f a = some a) : as.mapM f = some as := by
  have hmap := mapM_eq_some_map (g := id) h
  rwa [List.map_id] at hmap

theorem mapM_map_congr {f : α → β} {g : β → Option γ} {h : α → Option γ}
    {as : List α} (heq : ∀ a ∈ as, g (f a) = h a) : (as.map f).mapM g = as.mapM h := by
  induction as with
  | nil => rfl
  | cons a as ih =>
    rw [List.map_cons, List.mapM_cons, List.mapM_cons, heq a List.mem_cons_self,
      ih fun a ha => heq a (List.mem_cons_of_mem _ ha)]

/-- Of the items only `c a` counts for what is seen of the results. -/
theorem map_mapM {f : α → Option β} {g : β → γ} {c : α → δ} {h : δ → Option γ}
    (heq : ∀ a, (f a).map g = h (c a)) (as : List α) :
    (as.mapM f).map (List.map g) = (as.map c).mapM h := by
  induction as with
  | nil => rfl
  | cons a as ih =>
    rw [List.mapM_cons, List.map_cons, List.mapM_cons, ← heq a, ← ih]
    cases f a <;> cases as.mapM f <;> rfl

/-- A test of a result can be computed where the result itself is too large to be compared. -/
theorem exists_ok_of_any {ε : Type} {r : Except ε α} {p : α → Bool}
    (h : r.toOption.any p = true) : ∃ a, r = .ok a ∧ p a = true := by
  cases r with
  | error e => cases h
  | ok a => exact ⟨a, rfl, h⟩

end CodeAtlas
