/-
CodeAtlas.Proofs.Text.Split — scanning texts and cutting them.

A scanner takes the characters of a class from the front of a text. On a text
that is put together from such characters and a rest that begins with another
one, it finds the seam (`takeWhile_append_stop`, `dropWhile_append_stop`).

A text that is put together from pieces without the separator falls into these
pieces again (`splitOn_joinWith`), and a separator always ends a piece
(`splitOn_append_sep`), so paths can be appended piece by piece. What is appended
without a separator makes the last piece longer (`splitOn_append_last`).
-/
import CodeAtlas.Text.Split

namespace CodeAtlas.Text

/-! ## Scanning -/

variable {α : Type u} {p : α → Bool} {front rest : List α}

theorem takeWhile_stop (h : ∀ a ∈ rest.head?, p a = false) : rest.takeWhile p = [] := by
  cases rest with
  | nil => rfl
  | cons a rest => exact List.takeWhile_cons_of_neg (by simp [h a rfl])

theorem dropWhile_stop (h : ∀ a ∈ rest.head?, p a = false) : rest.dropWhile p = rest := by
  cases rest with
  | nil => rfl
  | cons a rest => exact List.dropWhile_cons_of_neg (by simp [h a rfl])

/-- A front that the class holds, before something it does not, is what is taken. -/
theorem takeWhile_append_stop (hf : ∀ a ∈ front, p a = true)
    (hr : ∀ a ∈ rest.head?, p a = false) : (front ++ rest).takeWhile p = front := by
  rw [List.takeWhile_append_of_pos hf, takeWhile_stop hr, List.append_nil]

/-- And what is left is the rest. -/
theorem dropWhile_append_stop (hf : ∀ a ∈ front, p a = true)
    (hr : ∀ a ∈ rest.head?, p a = false) : (front ++ rest).dropWhile p = rest := by
  rw [List.dropWhile_append_of_pos hf, dropWhile_stop hr]

theorem takeWhile_all (hf : ∀ a ∈ front, p a = true) : front.takeWhile p = front := by
  have h : (front ++ []).takeWhile p = front :=
    takeWhile_append_stop hf fun a ha => by simp at ha
  rwa [List.append_nil] at h

theorem dropWhile_all (hf : ∀ a ∈ front, p a = true) : front.dropWhile p = [] := by
  have h : (front ++ []).dropWhile p = [] :=
    dropWhile_append_stop hf fun a ha => by simp at ha
  rwa [List.append_nil] at h

/-! ## The last mark -/

variable {mark : Char} {before after cs : List Char}

/-- A mark that occurs has a last occurrence. -/
theorem exists_last_mark (h : mark ∈ cs) :
    ∃ before after, cs = before ++ mark :: after ∧ mark ∉ after := by
  obtain ⟨back, front, hcs, hback⟩ := List.eq_append_cons_of_mem (List.mem_reverse.mpr h)
  refine ⟨front.reverse, back.reverse, ?_, fun hmem => hback (List.mem_reverse.mp hmem)⟩
  have hrev := congrArg List.reverse hcs
  rw [List.reverse_reverse, List.reverse_append, List.reverse_cons] at hrev
  rw [hrev, List.append_assoc]
  rfl

theorem ne_mark_of_mem_reverse (h : mark ∉ cs) :
    ∀ c ∈ cs.reverse, decide (c ≠ mark) = true := by
  intro c hc
  rw [decide_eq_true_eq]
  rintro rfl
  exact h (List.mem_reverse.mp hc)

theorem takeWhile_reverse_of_not_mem (h : mark ∉ cs) :
    cs.reverse.takeWhile (· ≠ mark) = cs.reverse :=
  takeWhile_all (ne_mark_of_mem_reverse h)

theorem dropWhile_reverse_of_not_mem (h : mark ∉ cs) :
    cs.reverse.dropWhile (· ≠ mark) = [] :=
  dropWhile_all (ne_mark_of_mem_reverse h)

/-- Behind the last mark, read from the end. -/
theorem takeWhile_reverse_last (h : mark ∉ after) :
    (before ++ mark :: after).reverse.takeWhile (· ≠ mark) = after.reverse := by
  rw [List.reverse_append, List.reverse_cons, List.append_assoc]
  exact takeWhile_append_stop (ne_mark_of_mem_reverse h) fun c hc => by cases hc; simp

/-- Up to the last mark, read from the end. -/
theorem dropWhile_reverse_last (h : mark ∉ after) :
    (before ++ mark :: after).reverse.dropWhile (· ≠ mark) = mark :: before.reverse := by
  rw [List.reverse_append, List.reverse_cons, List.append_assoc]
  exact dropWhile_append_stop (ne_mark_of_mem_reverse h) fun c hc => by cases hc; simp

/-! ## Pieces -/

variable {sep : Char}

theorem splitOn_ne_nil (sep : Char) : ∀ cs : List Char, splitOn sep cs ≠ []
  | [] => by simp [splitOn]
  | c :: cs => by
    rw [splitOn]
    split
    · simp
    · split <;> simp

/-- A text without the separator is one piece. -/
theorem splitOn_of_not_mem : ∀ {cs : List Char}, sep ∉ cs → splitOn sep cs = [cs]
  | [], _ => rfl
  | c :: cs, h => by
    rw [List.mem_cons, not_or] at h
    rw [splitOn, if_neg (Ne.symm h.1), splitOn_of_not_mem h.2]

/-- A separator ends a piece, whatever follows. -/
theorem splitOn_append_sep (ys : List Char) :
    ∀ xs : List Char, splitOn sep (xs ++ sep :: ys) = splitOn sep xs ++ splitOn sep ys
  | [] => if_pos rfl
  | x :: xs => by
    rw [List.cons_append, splitOn, splitOn, splitOn_append_sep ys xs]
    split
    · rfl
    · obtain ⟨piece, pieces, h⟩ := List.exists_cons_of_ne_nil (splitOn_ne_nil sep xs)
      rw [h]
      rfl

/-- Characters other than the separator belong to the first piece of what follows. -/
theorem splitOn_append_of_not_mem (ys : List Char) : ∀ {xs : List Char}, sep ∉ xs →
    ∃ first pieces, splitOn sep ys = first :: pieces
      ∧ splitOn sep (xs ++ ys) = (xs ++ first) :: pieces
  | [], _ => by
    obtain ⟨first, pieces, h⟩ := List.exists_cons_of_ne_nil (splitOn_ne_nil sep ys)
    exact ⟨first, pieces, h, h⟩
  | x :: xs, hx => by
    rw [List.mem_cons, not_or] at hx
    obtain ⟨first, pieces, hys, hxs⟩ := splitOn_append_of_not_mem ys hx.2
    refine ⟨first, pieces, hys, ?_⟩
    rw [List.cons_append, splitOn, if_neg (Ne.symm hx.1), hxs]
    rfl

/-- No piece has a separator. -/
theorem not_mem_of_mem_splitOn : ∀ {cs piece : List Char}, piece ∈ splitOn sep cs → sep ∉ piece
  | [], piece, h => by
    rw [splitOn, List.mem_singleton] at h
    simp [h]
  | c :: cs, piece, h => by
    rw [splitOn] at h
    split at h
    · rcases List.mem_cons.mp h with rfl | h
      · exact List.not_mem_nil
      · exact not_mem_of_mem_splitOn h
    · next hc =>
      obtain ⟨first, pieces, hsplit⟩ := List.exists_cons_of_ne_nil (splitOn_ne_nil sep cs)
      rw [hsplit] at h
      rcases List.mem_cons.mp h with rfl | h
      · have hfirst : sep ∉ first := not_mem_of_mem_splitOn (hsplit ▸ List.mem_cons_self)
        exact fun hmem => (List.mem_cons.mp hmem).elim (fun e => hc e.symm) hfirst
      · exact not_mem_of_mem_splitOn (hsplit ▸ List.mem_cons_of_mem _ h)

/-- A character separates pieces or is in one. -/
theorem mem_splitOn (sep : Char) {c : Char} : ∀ {cs : List Char}, c ∈ cs →
    c = sep ∨ ∃ piece ∈ splitOn sep cs, c ∈ piece
  | [], h => absurd h List.not_mem_nil
  | d :: cs, h => by
    rw [splitOn]
    rcases List.mem_cons.mp h with rfl | h
    · split
      · next hsep => exact Or.inl hsep
      · split
        · exact Or.inr ⟨_, List.mem_cons_self, List.mem_cons_self⟩
        · exact Or.inr ⟨_, List.mem_cons_self, List.mem_cons_self⟩
    · refine (mem_splitOn sep h).imp_right fun ⟨piece, hpiece, hc⟩ => ?_
      split
      · exact ⟨piece, List.mem_cons_of_mem _ hpiece, hc⟩
      · obtain ⟨first, pieces, hsplit⟩ := List.exists_cons_of_ne_nil (splitOn_ne_nil sep cs)
        rw [hsplit] at hpiece ⊢
        rcases List.mem_cons.mp hpiece with rfl | hpiece
        · exact ⟨_, List.mem_cons_self, List.mem_cons_of_mem _ hc⟩
        · exact ⟨piece, List.mem_cons_of_mem _ hpiece, hc⟩

theorem splitOn_dropWhile_subset (sep : Char) : ∀ cs : List Char,
    splitOn sep (cs.dropWhile (· = sep)) ⊆ splitOn sep cs
  | [] => fun _ h => h
  | c :: cs => by
    by_cases hc : c = sep
    · rw [List.dropWhile_cons_of_pos (by simp [hc]), splitOn, if_pos hc]
      exact fun _ h => List.mem_cons_of_mem _ (splitOn_dropWhile_subset sep cs h)
    · rw [List.dropWhile_cons_of_neg (by simp [hc])]
      exact fun _ h => h

/-- Characters other than the separator belong to the last piece of what they follow. -/
theorem splitOn_append_last (xs : List Char) {ys : List Char} (h : sep ∉ ys) :
    ∃ pieces last, splitOn sep xs = pieces ++ [last]
      ∧ splitOn sep (xs ++ ys) = pieces ++ [last ++ ys] := by
  by_cases hmark : sep ∈ xs
  · obtain ⟨before, after, rfl, hafter⟩ := exists_last_mark hmark
    have hjoined : sep ∉ after ++ ys := by simp [hafter, h]
    refine ⟨splitOn sep before, after, ?_, ?_⟩
    · rw [splitOn_append_sep, splitOn_of_not_mem hafter]
    · rw [List.append_assoc, List.cons_append, splitOn_append_sep, splitOn_of_not_mem hjoined]
  · have hjoined : sep ∉ xs ++ ys := by simp [hmark, h]
    exact ⟨[], xs, splitOn_of_not_mem hmark, splitOn_of_not_mem hjoined⟩

theorem joinWith_cons {piece : List Char} {pieces : List (List Char)} (h : pieces ≠ []) :
    joinWith sep (piece :: pieces) = piece ++ sep :: joinWith sep pieces := by
  cases pieces with
  | nil => exact absurd rfl h
  | cons p ps => rfl

theorem joinWith_append {xs ys : List (List Char)} (hx : xs ≠ []) (hy : ys ≠ []) :
    joinWith sep (xs ++ ys) = joinWith sep xs ++ sep :: joinWith sep ys := by
  induction xs with
  | nil => exact absurd rfl hx
  | cons x xs ih =>
    cases xs with
    | nil => exact joinWith_cons hy
    | cons x' xs =>
      have hne : x' :: xs ≠ [] := List.cons_ne_nil _ _
      rw [List.cons_append, joinWith_cons (by simp), ih hne, joinWith_cons hne,
        List.append_assoc, List.cons_append]

/-- Joining undoes splitting. -/
theorem joinWith_splitOn : ∀ cs : List Char, joinWith sep (splitOn sep cs) = cs
  | [] => rfl
  | c :: cs => by
    have ih := joinWith_splitOn cs
    rw [splitOn]
    split
    · next hc => rw [joinWith_cons (splitOn_ne_nil sep cs), ih, hc]; rfl
    · obtain ⟨first, pieces, hsplit⟩ := List.exists_cons_of_ne_nil (splitOn_ne_nil sep cs)
      rw [hsplit] at ih ⊢
      cases pieces with
      | nil => exact congrArg (c :: ·) ih
      | cons p ps => exact congrArg (c :: ·) ih

/-- A character of the joined text separates pieces or is in one. -/
theorem mem_joinWith {c : Char} : ∀ {pieces : List (List Char)}, c ∈ joinWith sep pieces →
    c = sep ∨ ∃ piece ∈ pieces, c ∈ piece
  | [], h => absurd h List.not_mem_nil
  | [piece], h => Or.inr ⟨piece, List.mem_cons_self, h⟩
  | piece :: piece' :: pieces, h => by
    rw [joinWith_cons (List.cons_ne_nil _ _), List.mem_append, List.mem_cons] at h
    rcases h with h | h | h
    · exact Or.inr ⟨piece, List.mem_cons_self, h⟩
    · exact Or.inl h
    · exact (mem_joinWith h).imp_right fun ⟨p, hp, hc⟩ => ⟨p, List.mem_cons_of_mem _ hp, hc⟩

/-- The characters of a piece are characters of the text. -/
theorem mem_of_mem_splitOn {c : Char} : ∀ {cs piece : List Char}, piece ∈ splitOn sep cs →
    c ∈ piece → c ∈ cs
  | [], piece, h, hc => by
    rw [List.mem_singleton.mp h] at hc
    exact hc
  | d :: cs, piece, h, hc => by
    rw [splitOn] at h
    split at h
    · rcases List.mem_cons.mp h with rfl | h
      · exact absurd hc List.not_mem_nil
      · exact List.mem_cons_of_mem _ (mem_of_mem_splitOn h hc)
    · obtain ⟨first, pieces, hsplit⟩ := List.exists_cons_of_ne_nil (splitOn_ne_nil sep cs)
      rw [hsplit] at h
      rcases List.mem_cons.mp h with rfl | h
      · rcases List.mem_cons.mp hc with rfl | hc
        · exact List.mem_cons_self
        · exact List.mem_cons_of_mem _ (mem_of_mem_splitOn (hsplit ▸ List.mem_cons_self) hc)
      · exact List.mem_cons_of_mem _ (mem_of_mem_splitOn (hsplit ▸ List.mem_cons_of_mem _ h) hc)

/-- Splitting undoes joining, for pieces without separators. -/
theorem splitOn_joinWith : ∀ {pieces : List (List Char)}, pieces ≠ [] →
    (∀ piece ∈ pieces, sep ∉ piece) → splitOn sep (joinWith sep pieces) = pieces
  | [], h, _ => absurd rfl h
  | [piece], _, h => splitOn_of_not_mem (h piece List.mem_cons_self)
  | piece :: piece' :: pieces, _, h => by
    have hrest : splitOn sep (joinWith sep (piece' :: pieces)) = piece' :: pieces :=
      splitOn_joinWith (List.cons_ne_nil _ _) fun p hp => h p (List.mem_cons_of_mem _ hp)
    rw [joinWith_cons (List.cons_ne_nil _ _), splitOn_append_sep, hrest,
      splitOn_of_not_mem (h piece List.mem_cons_self)]
    rfl

/-- One list of pieces, with a separator behind it, begins the text of another exactly
if the other goes on behind it. -/
theorem joinWith_sep_prefix_iff {xs ys : List (List Char)} (hx : xs ≠ []) (hy : ys ≠ [])
    (hxs : ∀ piece ∈ xs, sep ∉ piece) (hys : ∀ piece ∈ ys, sep ∉ piece) :
    joinWith sep xs ++ [sep] <+: joinWith sep ys ↔ ∃ zs, zs ≠ [] ∧ ys = xs ++ zs := by
  constructor
  · rintro ⟨rest, hrest⟩
    refine ⟨splitOn sep rest, splitOn_ne_nil sep rest, ?_⟩
    have hsplit := congrArg (splitOn sep) hrest
    rw [List.append_assoc, List.singleton_append, splitOn_append_sep, splitOn_joinWith hx hxs,
      splitOn_joinWith hy hys] at hsplit
    exact hsplit.symm
  · rintro ⟨zs, hz, rfl⟩
    refine ⟨joinWith sep zs, ?_⟩
    rw [joinWith_append hx hz, List.append_assoc, List.singleton_append]

end CodeAtlas.Text
