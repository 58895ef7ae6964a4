/-
CodeAtlas.Proofs.Json.LineEnds — line ends do not change what a document says.

A file is read with its line ends unified, a body as it is. No reader can tell the
difference: a line end is white space between the parts of a document, and inside a string
it is a control character, which is refused either way. `IsBlind` says that of a reader:
on the unified text it comes to the same result and stops at the same place, and if it
fails, it fails there too, though with another fault.

Readers are blind since a character that is no line end stays what it is and where it is
(`unifyLines_cases`), and no sign that they look for is a line end. `isBlind_value` is the
induction over the depth; for whole documents the two texts also differ in their length,
and with it in the fuel that they are read with (`toOption_document`).
-/
import Mathlib.Data.List.Find
import CodeAtlas.Proofs.Json.Decoded
import CodeAtlas.Storage.Codec

namespace CodeAtlas.Json

open Storage (unifyLines)

/-! ## Unified texts -/

/-- Other characters are left as they are. -/
theorem unifyLines_cons {c : Char} (h : c ≠ '\r') (cs : List Char) :
    unifyLines (c :: cs) = c :: unifyLines cs := by
  rw [unifyLines]
  · simp [h]
  · exact h

/-- A text begins with nothing, with a line end that becomes a line feed, or with a
character that stays. -/
theorem unifyLines_cases (cs : List Char) :
    (cs = [] ∧ unifyLines cs = []) ∨
    (∃ rest rest', cs = '\r' :: rest ∧ unifyLines cs = '\n' :: rest') ∨
    (∃ c rest, c ≠ '\r' ∧ cs = c :: rest ∧ unifyLines cs = c :: unifyLines rest) := by
  fun_induction unifyLines cs with
  | case1 => exact Or.inl ⟨rfl, rfl⟩
  | case2 cs => exact Or.inr (Or.inl ⟨_, _, rfl, rfl⟩)
  | case3 cs => exact Or.inr (Or.inl ⟨_, _, rfl, rfl⟩)
  | case4 c cs h h' =>
    refine Or.inr (Or.inr ⟨c, cs, ?_, rfl, rfl⟩)
    intro hc
    exact h' hc

/-- Unifying never makes a text longer, so the steps of a reader still suffice. -/
theorem length_unifyLines_le (cs : List Char) : (unifyLines cs).length ≤ cs.length := by
  fun_induction unifyLines cs with
  | case1 => simp
  | case2 cs ih => simp only [List.length_cons]; omega
  | case3 cs _ ih => simp only [List.length_cons]; omega
  | case4 c cs _ _ ih => simp only [List.length_cons]; omega

theorem unifyLines_eq_nil_iff (cs : List Char) : unifyLines cs = [] ↔ cs = [] := by
  rcases unifyLines_cases cs with ⟨rfl, h⟩ | ⟨rest, rest', rfl, h⟩ | ⟨c, rest, -, rfl, h⟩ <;>
    simp [h]

/-- A sign that is no line end begins both texts, or neither. -/
theorem head?_unifyLines {c : Char} (hreturn : c ≠ '\r') (hfeed : c ≠ '\n') (cs : List Char) :
    (unifyLines cs).head? = some c ↔ cs.head? = some c := by
  rcases unifyLines_cases cs with ⟨rfl, h⟩ | ⟨rest, rest', rfl, h⟩ | ⟨d, rest, -, rfl, h⟩ <;>
    simp [h, Ne.symm hreturn, Ne.symm hfeed]

theorem tail_unifyLines {c : Char} (hc : c ≠ '\r') {cs : List Char} (h : cs.head? = some c) :
    (unifyLines cs).tail = unifyLines cs.tail := by
  obtain ⟨rest, rfl⟩ := List.head?_eq_some_iff.mp h
  rw [unifyLines_cons hc]
  rfl

/-- White space stays white space. -/
theorem skip_unifyLines (cs : List Char) : skip (unifyLines cs) = unifyLines (skip cs) := by
  fun_induction unifyLines cs with
  | case1 => rfl
  | case2 cs ih => exact ih
  | case3 cs _ ih => exact ih
  | case4 c cs _ h ih =>
    unfold skip at ih ⊢
    rw [List.dropWhile_cons, List.dropWhile_cons]
    split
    · exact ih
    · rw [unifyLines_cons (by simpa using h)]

/-! ## Blind readers -/

/-- Two results agree, the second one being that of the unified text: both are faults, or
the same has been read and the same is left, with its line ends unified. -/
inductive Agrees {α : Type} :
    Except Halt (α × List Char) → Except Halt (α × List Char) → Prop where
  | error (h h' : Halt) : Agrees (.error h) (.error h')
  | ok (a : α) (rest : List Char) : Agrees (.ok (a, rest)) (.ok (a, unifyLines rest))

/-- The reader does not see how lines end. -/
def IsBlind {α : Type} (r : Reader α) : Prop := ∀ cs, Agrees (r cs) (r (unifyLines cs))

/-- Agreement is kept by what is made of the value read. -/
theorem Agrees.map {α β : Type} {x y : Except Halt (α × List Char)} (h : Agrees x y)
    (f : α → β) : Agrees (x.map (Prod.map f id)) (y.map (Prod.map f id)) := by
  cases h with
  | error h h' => exact .error h h'
  | ok a rest => exact .ok (f a) rest

/-- Agreement is kept by reading on, if what is read next agrees. -/
theorem Agrees.bind {α β : Type} {x y : Except Halt (α × List Char)} (h : Agrees x y)
    {next : α × List Char → Except Halt (β × List Char)}
    (hnext : ∀ a rest, Agrees (next (a, rest)) (next (a, unifyLines rest))) :
    Agrees (x.bind next) (y.bind next) := by
  cases h with
  | error h h' => exact .error h h'
  | ok a rest => exact hnext a rest

/-! ## Strings -/

theorem push_eq_map (n : Nat) (x : Except Halt (List Nat × List Char)) :
    push n x = x.map (Prod.map (n :: ·) id) := by
  cases x <;> rfl

/-- The number in `k` hexadecimal digits, after the digits of `n`, and the rest. -/
def hexNumber? : Nat → Nat → List Char → Option (Nat × List Char)
  | 0, n, cs => some (n, cs)
  | _ + 1, _, [] => none
  | k + 1, n, c :: cs => (hexValue? c).bind fun d => hexNumber? k (n * 16 + d) cs

/-- The code unit of an escape by number, and the rest, which is not empty. -/
def escape? (cs : List Char) : Option (Nat × List Char) :=
  (hexNumber? 4 0 cs).filter fun p => !p.2.isEmpty

/-- Hexadecimal digits are no line ends. -/
theorem hexNumber?_unifyLines (k n : Nat) (cs : List Char) :
    hexNumber? k n (unifyLines cs) = (hexNumber? k n cs).map (Prod.map id unifyLines) := by
  induction k generalizing n cs with
  | zero => rfl
  | succ k ih =>
    rcases unifyLines_cases cs with ⟨rfl, h⟩ | ⟨rest, rest', rfl, h⟩ | ⟨c, rest, -, rfl, h⟩
    · rfl
    · rw [h]; rfl
    · rw [h, hexNumber?, hexNumber?]
      cases hexValue? c with
      | none => rfl
      | some d => exact ih _ rest

/-- An escape by number is read the same with unified line ends. -/
theorem escape?_unifyLines (cs : List Char) :
    escape? (unifyLines cs) = (escape? cs).map (Prod.map id unifyLines) := by
  rw [escape?, escape?, hexNumber?_unifyLines]
  rcases hexNumber? 4 0 cs with _ | ⟨n, rest⟩
  · rfl
  · by_cases hrest : rest = []
    · subst hrest
      rfl
    · have hrest' : unifyLines rest ≠ [] := by rwa [Ne, unifyLines_eq_nil_iff]
      simp [Option.filter, hrest, hrest']

theorem escape?_digits (a b c d : Char) (rest : List Char) :
    escape? (a :: b :: c :: d :: rest)
      = if rest.isEmpty then none else (hexUnit? a b c d).map (·, rest) := by
  simp only [escape?, hexNumber?, hexUnit?]
  cases hexValue? a <;> cases hexValue? b <;> cases hexValue? c <;> cases hexValue? d <;>
    cases rest <;> simp [Option.filter]

/-- An escape by number is read, or refused. -/
theorem stringUnits_escape (opening cs : List Char) :
    (∃ n rest, escape? cs = some (n, rest) ∧
      stringUnits opening ('\\' :: 'u' :: cs) = push n (stringUnits opening rest)) ∨
    (escape? cs = none ∧ ∃ h, stringUnits opening ('\\' :: 'u' :: cs) = .error h) := by
  rcases cs with _ | ⟨a, _ | ⟨b, _ | ⟨c, _ | ⟨d, rest⟩⟩⟩⟩
  case cons.cons.cons.cons =>
    rw [escape?_digits, stringUnits]
    cases hexUnit? a b c d with
    | none => exact Or.inr ⟨by simp, _, rfl⟩
    | some n =>
      cases rest with
      | nil => exact Or.inr ⟨rfl, _, rfl⟩
      | cons e rest => exact Or.inl ⟨n, e :: rest, rfl, rfl⟩
  all_goals exact Or.inr ⟨by simp [escape?, hexNumber?], by simp [stringUnits]⟩

/-- An escape by one letter is read as the character it stands for. -/
theorem stringUnits_short {e c : Char} (h : shortEscape? e = some c) (opening rest : List Char) :
    stringUnits opening ('\\' :: e :: rest) = push c.toNat (stringUnits opening rest) := by
  have hu : e ≠ 'u' := by
    rintro rfl
    cases h
  rw [stringUnits, h] <;> simp [hu]

/-- No other letter makes an escape. -/
theorem stringUnits_bad {e : Char} (hu : e ≠ 'u') (h : shortEscape? e = none)
    (opening rest : List Char) :
    stringUnits opening ('\\' :: e :: rest) = .error (.fault .badEscape ('\\' :: e :: rest)) := by
  rw [stringUnits, h] <;> simp [hu]

/-- A character of a string stands for itself, unless it is a control character. -/
theorem stringUnits_plain {c : Char} (hquote : c ≠ '"') (hslash : c ≠ '\\')
    (opening rest : List Char) :
    stringUnits opening (c :: rest) =
      if c.toNat < 32 then .error (.fault .controlCharacter (c :: rest))
      else push c.toNat (stringUnits opening rest) := by
  rw [stringUnits] <;> simp [hquote, hslash]

/-- A character that is no backslash, neither at the end nor before another one. -/
theorem ne_slash {c : Char} {rest : List Char} (hend : c = '\\' → rest = [] → False)
    (h : ∀ e more, c = '\\' → rest = e :: more → False) : c ≠ '\\' := by
  intro hc
  cases rest with
  | nil => exact hend hc rfl
  | cons e more => exact h e more hc rfl

/-- An escape that is no number is a fault on both sides, though not the same one. -/
theorem agrees_of_bad_escape {opening cs : List Char} {halt : Halt} (h : escape? cs = none) :
    Agrees (.error halt) (stringUnits opening (unifyLines ('\\' :: 'u' :: cs))) := by
  have hunified := escape?_unifyLines cs
  rw [h] at hunified
  rw [unifyLines_cons (by decide), unifyLines_cons (by decide)]
  obtain ⟨n, rest, hn, -⟩ | ⟨-, halt', hread⟩ := stringUnits_escape opening (unifyLines cs)
  · rw [hunified] at hn
    cases hn
  · rw [hread]
    exact .error halt halt'

/-- Where a string began only matters for its faults. -/
theorem agrees_stringUnits (opening opening' cs : List Char) :
    Agrees (stringUnits opening cs) (stringUnits opening' (unifyLines cs)) := by
  fun_induction stringUnits opening cs with
  | case1 => exact .error _ _
  | case2 rest =>
    rw [unifyLines_cons (by decide), stringUnits]
    exact .ok [] rest
  | case3 => exact .error _ _
  | case4 a b c d rest n hunit hrest ih =>
    have hescape : escape? (a :: b :: c :: d :: rest) = some (n, rest) := by
      rw [escape?_digits, hunit, hrest]
      rfl
    have hunified := escape?_unifyLines (a :: b :: c :: d :: rest)
    rw [hescape] at hunified
    rw [unifyLines_cons (by decide), unifyLines_cons (by decide)]
    obtain ⟨m, rest', hm, hread⟩ | ⟨hnone, -⟩ :=
      stringUnits_escape opening' (unifyLines (a :: b :: c :: d :: rest))
    · rw [hunified] at hm
      cases hm
      rw [hread, push_eq_map, push_eq_map]
      exact ih.map (n :: ·)
    · rw [hunified] at hnone
      cases hnone
  | case5 a b c d rest hbad =>
    have hescape : escape? (a :: b :: c :: d :: rest) = none := by
      rw [escape?_digits]
      cases hunit : hexUnit? a b c d with
      | none => simp
      | some n =>
        cases hrest : rest.isEmpty with
        | true => rfl
        | false => exact absurd hrest (hbad n hunit)
    exact agrees_of_bad_escape hescape
  | case6 rest hshort =>
    have hescape : escape? rest = none := by
      rcases rest with _ | ⟨a, _ | ⟨b, _ | ⟨c, _ | ⟨d, rest⟩⟩⟩⟩
      case cons.cons.cons.cons => exact absurd rfl (hshort a b c d rest)
      all_goals simp [escape?, hexNumber?]
    exact agrees_of_bad_escape hescape
  | case7 e rest _ hu c hc ih =>
    have hreturn : e ≠ '\r' := by
      rintro rfl
      cases hc
    rw [unifyLines_cons (by decide), unifyLines_cons hreturn, stringUnits_short hc,
      push_eq_map, push_eq_map]
    exact ih.map (c.toNat :: ·)
  | case8 e rest _ hu hnone =>
    rw [unifyLines_cons (by decide)]
    rcases unifyLines_cases (e :: rest) with ⟨hnil, -⟩ | ⟨t, t', -, h⟩ | ⟨e', t, -, heq, h⟩
    · cases hnil
    · rw [h, stringUnits_bad (by decide) rfl]
      exact .error _ _
    · cases heq
      rw [h, stringUnits_bad hu hnone]
      exact .error _ _
  | case9 c rest hquote hend _ _ hslash hcontrol =>
    rcases unifyLines_cases (c :: rest) with ⟨hnil, -⟩ | ⟨t, t', -, h⟩ | ⟨c', t, -, heq, h⟩
    · cases hnil
    · rw [h, stringUnits_plain (by decide) (by decide), if_pos (by decide)]
      exact .error _ _
    · cases heq
      rw [h, stringUnits_plain hquote (ne_slash hend hslash), if_pos hcontrol]
      exact .error _ _
  | case10 c rest hquote hend _ _ hslash hplain ih =>
    have hreturn : c ≠ '\r' := by
      rintro rfl
      exact hplain (by decide)
    rw [unifyLines_cons hreturn, stringUnits_plain hquote (ne_slash hend hslash), if_neg hplain,
      push_eq_map, push_eq_map]
    exact ih.map (c.toNat :: ·)

/-- A string is its units, put together. -/
theorem stringBody_eq_map (opening cs : List Char) :
    stringBody opening cs = (stringUnits opening cs).map
      (Prod.map (fun units => String.ofList (Text.joinUnits units)) id) := by
  unfold stringBody
  cases stringUnits opening cs <;> rfl

/-- Strings agree wherever they started: a line end inside is a fault either way. -/
theorem agrees_stringBody (opening opening' cs : List Char) :
    Agrees (stringBody opening cs) (stringBody opening' (unifyLines cs)) := by
  rw [stringBody_eq_map, stringBody_eq_map]
  exact (agrees_stringUnits opening opening' cs).map _

/-! ## Numbers -/

/-- Characters of a kind to which line ends do not belong. -/
theorem span_unifyLines {p : Char → Bool} (hreturn : p '\r' = false) (hfeed : p '\n' = false)
    (cs : List Char) :
    (unifyLines cs).takeWhile p = cs.takeWhile p ∧
      (unifyLines cs).dropWhile p = unifyLines (cs.dropWhile p) := by
  have hstop : ∀ c ds, p c = false →
      (c :: ds).takeWhile p = [] ∧ (c :: ds).dropWhile p = c :: ds := by
    intro c ds hc
    simp [hc]
  fun_induction unifyLines cs with
  | case1 => exact ⟨rfl, rfl⟩
  | case2 cs ih =>
    obtain ⟨htake, hdrop⟩ := hstop '\r' ('\n' :: cs) hreturn
    obtain ⟨htake', hdrop'⟩ := hstop '\n' (unifyLines cs) hfeed
    rw [htake, hdrop, htake', hdrop', unifyLines]
    exact ⟨rfl, rfl⟩
  | case3 cs h ih =>
    obtain ⟨htake, hdrop⟩ := hstop '\r' cs hreturn
    obtain ⟨htake', hdrop'⟩ := hstop '\n' (unifyLines cs) hfeed
    rw [htake, hdrop, htake', hdrop', unifyLines]
    · exact ⟨rfl, rfl⟩
    · exact h
  | case4 c cs _ h ih =>
    by_cases hc : p c = true
    · rw [List.takeWhile_cons_of_pos hc, List.takeWhile_cons_of_pos hc,
        List.dropWhile_cons_of_pos hc, List.dropWhile_cons_of_pos hc, ih.1, ih.2]
      exact ⟨rfl, rfl⟩
    · obtain ⟨htake, hdrop⟩ := hstop c cs (Bool.eq_false_iff.mpr hc)
      obtain ⟨htake', hdrop'⟩ := hstop c (unifyLines cs) (Bool.eq_false_iff.mpr hc)
      rw [htake, hdrop, htake', hdrop', unifyLines_cons h]
      exact ⟨rfl, rfl⟩

theorem spanDigits_unifyLines (cs : List Char) :
    spanDigits (unifyLines cs) = Prod.map id unifyLines (spanDigits cs) := by
  obtain ⟨htake, hdrop⟩ := span_unifyLines (p := Char.isDigit) (by decide) (by decide) cs
  rw [spanDigits, htake, hdrop]
  rfl

theorem fractionPart_unifyLines (cs : List Char) :
    fractionPart (unifyLines cs) = Prod.map id unifyLines (fractionPart cs) := by
  rcases unifyLines_cases cs with ⟨rfl, h⟩ | ⟨rest, rest', rfl, h⟩ | ⟨c, rest, -, rfl, h⟩
  · rfl
  · rw [h]
    exact Prod.ext rfl h.symm
  · rw [h]
    by_cases hc : c = '.'
    · subst hc
      simp only [fractionPart, spanDigits_unifyLines, Prod.map, id]
      split
      · exact Prod.ext rfl h.symm
      · rfl
    · have hnone : ∀ ds, fractionPart (c :: ds) = (none, c :: ds) := by
        intro ds
        rw [fractionPart]
        simp [hc]
      rw [hnone, hnone]
      exact Prod.ext rfl h.symm

theorem exponentSign_unifyLines (cs : List Char) :
    exponentSign (unifyLines cs) = Prod.map id unifyLines (exponentSign cs) := by
  rcases unifyLines_cases cs with ⟨rfl, h⟩ | ⟨rest, rest', rfl, h⟩ | ⟨c, rest, -, rfl, h⟩
  · rfl
  · rw [h]
    exact Prod.ext rfl h.symm
  · rw [h]
    by_cases hminus : c = '-'
    · subst hminus
      rfl
    · by_cases hplus : c = '+'
      · subst hplus
        rfl
      · have hnone : ∀ ds, exponentSign (c :: ds) = (false, c :: ds) := by
          intro ds
          rw [exponentSign] <;> simp [hminus, hplus]
        rw [hnone, hnone]
        exact Prod.ext rfl h.symm

theorem exponentPart_unifyLines (cs : List Char) :
    exponentPart (unifyLines cs) = Prod.map id unifyLines (exponentPart cs) := by
  rcases unifyLines_cases cs with ⟨rfl, h⟩ | ⟨rest, rest', rfl, h⟩ | ⟨c, rest, -, rfl, h⟩
  · rfl
  · rw [h]
    exact Prod.ext rfl h.symm
  · rw [h, exponentPart, exponentPart]
    split
    · simp only [exponentSign_unifyLines, spanDigits_unifyLines, Prod.map, id]
      split
      · exact Prod.ext rfl h.symm
      · rfl
    · exact Prod.ext rfl h.symm

theorem wholePart_unifyLines (cs : List Char) :
    wholePart (unifyLines cs) = (wholePart cs).map (Prod.map id unifyLines) := by
  rcases unifyLines_cases cs with ⟨rfl, h⟩ | ⟨rest, rest', rfl, h⟩ | ⟨c, rest, -, rfl, h⟩
  · rfl
  · rw [h]
    rfl
  · rw [h, wholePart, wholePart]
    split
    · rfl
    · split
      · rw [← h, spanDigits_unifyLines]
        rfl
      · rfl

/-- No part of a numeral goes over a line end. -/
theorem numeral_unifyLines (cs : List Char) :
    numeral (unifyLines cs) = (numeral cs).map (Prod.map id unifyLines) := by
  have hsign := head?_unifyLines (c := '-') (by decide) (by decide) cs
  have hunsigned : (if cs.head? = some '-' then (unifyLines cs).tail else unifyLines cs)
      = unifyLines (if cs.head? = some '-' then cs.tail else cs) := by
    split
    · next hminus => exact tail_unifyLines (by decide) hminus
    · rfl
  simp only [numeral, hsign, hunsigned, wholePart_unifyLines]
  rcases wholePart (if cs.head? = some '-' then cs.tail else cs) with _ | ⟨whole, rest⟩
  · rfl
  · simp only [Option.map_some, Prod.map, id, fractionPart_unifyLines, exponentPart_unifyLines]

/-! ## Values -/

/-- A word without line ends is there in both texts, or in neither. -/
theorem isPrefixOf_unifyLines {w : List Char} (hw : ∀ c ∈ w, c ≠ '\r' ∧ c ≠ '\n')
    (cs : List Char) :
    w.isPrefixOf (unifyLines cs) = w.isPrefixOf cs ∧
      (w.isPrefixOf cs = true → (unifyLines cs).drop w.length = unifyLines (cs.drop w.length)) := by
  induction w generalizing cs with
  | nil => exact ⟨by simp, fun _ => rfl⟩
  | cons c w ih =>
    obtain ⟨hc, hw⟩ := List.forall_mem_cons.mp hw
    rcases unifyLines_cases cs with ⟨rfl, h⟩ | ⟨rest, rest', rfl, h⟩ | ⟨d, rest, -, rfl, h⟩
    · exact ⟨rfl, fun _ => rfl⟩
    · rw [h, List.isPrefixOf, List.isPrefixOf, beq_false_of_ne hc.1, beq_false_of_ne hc.2]
      exact ⟨rfl, fun hprefix => by cases hprefix⟩
    · rw [h, List.isPrefixOf, List.isPrefixOf, (ih hw rest).1]
      refine ⟨rfl, fun hprefix => ?_⟩
      rw [Bool.and_eq_true] at hprefix
      exact (ih hw rest).2 hprefix.2

/-- The words of JSON hold no line end. -/
theorem not_lineEnd_of_mem_words {w : List Char × Value} (h : w ∈ words) :
    ∀ c ∈ w.1, c ≠ '\r' ∧ c ≠ '\n' := by
  have hall : (words.all fun w => w.1.all fun c => c != '\r' && c != '\n') = true := by decide
  intro c hc
  simpa using List.all_eq_true.mp (List.all_eq_true.mp hall w h) c hc

/-- Words and numerals do not see how lines end. -/
theorem isBlind_scalar : IsBlind scalar := by
  intro cs
  have hsame : (words.find? fun w => w.1.isPrefixOf (unifyLines cs))
      = words.find? fun w => w.1.isPrefixOf cs :=
    List.find?_congr fun w hw => (isPrefixOf_unifyLines (not_lineEnd_of_mem_words hw) cs).1
  unfold scalar
  rw [hsame, numeral_unifyLines]
  cases hword : words.find? fun w => w.1.isPrefixOf cs with
  | some w =>
    have hw := not_lineEnd_of_mem_words (List.mem_of_find?_eq_some hword)
    have hprefix : w.1.isPrefixOf cs = true := by simpa using List.find?_some hword
    dsimp only
    rw [(isPrefixOf_unifyLines hw cs).2 hprefix]
    exact .ok _ _
  | none =>
    rcases numeral cs with _ | ⟨n, rest⟩
    · exact .error _ _
    · dsimp only [Option.map_some, Prod.map, id]
      cases n.value with
      | error h => exact .error h h
      | ok v => exact .ok v rest

/-! ## Steps

What a container is made of is read in steps: an item, a sign behind white space, and what
follows the sign. -/

section Steps

variable {α : Type}

def behind (sign : Char) (found other : Reader α) : Reader α := fun cs =>
  if (skip cs).head? = some sign then found (skip cs).tail else other cs

theorem behind_of_eq_cons {sign : Char} {cs after : List Char} (h : skip cs = sign :: after)
    (found other : Reader α) : behind sign found other cs = found after := by
  simp [behind, h]

theorem behind_of_ne_cons {sign : Char} {cs : List Char} (h : ∀ after, skip cs ≠ sign :: after)
    (found other : Reader α) : behind sign found other cs = other cs := by
  rw [behind, if_neg]
  intro hhead
  obtain ⟨after, hafter⟩ := List.head?_eq_some_iff.mp hhead
  exact h after hafter

/-- Skipping to a sign does not see how lines end, as long as the sign is none. -/
theorem isBlind_behind {sign : Char} (hreturn : sign ≠ '\r') (hfeed : sign ≠ '\n')
    {found other : Reader α} (hfound : IsBlind found) (hother : IsBlind other) :
    IsBlind (behind sign found other) := by
  intro cs
  simp only [behind, skip_unifyLines, head?_unifyLines hreturn hfeed]
  split
  · next h =>
    rw [tail_unifyLines hreturn h]
    exact hfound _
  · exact hother cs

/-- A reader that starts behind white space. -/
theorem IsBlind.afterSkip {r : Reader α} (h : IsBlind r) : IsBlind fun cs => r (skip cs) := by
  intro cs
  show Agrees (r (skip cs)) (r (skip (unifyLines cs)))
  rw [skip_unifyLines]
  exact h (skip cs)

/-- Blindness is kept by what is made of the value read. -/
theorem IsBlind.map {β : Type} {r : Reader α} (h : IsBlind r) (f : α → β) :
    IsBlind fun cs => (r cs).map (Prod.map f id) :=
  fun cs => (h cs).map f

end Steps

/-- A name is a string with a colon behind it. -/
theorem fieldName_quote (body : List Char) :
    fieldName ('"' :: body) = (stringBody ('"' :: body) body).bind fun p =>
      behind ':' (fun cs => .ok (p.1, skip cs)) (fun cs => .error (.fault .expectedColon (skip cs)))
        p.2 := by
  rw [fieldName]
  cases stringBody ('"' :: body) body with
  | error h => rfl
  | ok p =>
    dsimp only [Except.bind]
    split
    · next h => rw [behind_of_eq_cons h]
    · next h => rw [behind_of_ne_cons h]

/-- Names of fields do not see how lines end. -/
theorem isBlind_fieldName : IsBlind fieldName := by
  intro cs
  by_cases hquote : cs.head? = some '"'
  · obtain ⟨body, rfl⟩ := List.head?_eq_some_iff.mp hquote
    rw [unifyLines_cons (by decide), fieldName_quote, fieldName_quote]
    refine (agrees_stringBody _ _ body).bind fun name rest => ?_
    have hname : IsBlind fun cs => .ok (name, cs) := fun cs => .ok name cs
    exact isBlind_behind (by decide) (by decide) hname.afterSkip (fun cs => .error _ _) rest
  · have hbad : ∀ ds : List Char, ds.head? ≠ some '"' →
        fieldName ds = .error (.fault .expectedName ds) := by
      intro ds h
      unfold fieldName
      split
      · simp at h
      · rfl
    have hquote' : (unifyLines cs).head? ≠ some '"' := by
      rwa [Ne, head?_unifyLines (by decide) (by decide)]
    rw [hbad cs hquote, hbad (unifyLines cs) hquote']
    exact .error _ _

section Containers

variable {item : Reader Value}

/-- The items of an array, one step unfolded: an item, and then a bracket or a comma. -/
theorem elements_succ (item : Reader Value) (fuel : Nat) (cs : List Char) :
    elements item (fuel + 1) cs = (item cs).bind fun p =>
      behind ']' (fun cs => .ok ([p.1], cs))
        (behind ',' (fun cs => (elements item fuel (skip cs)).map (Prod.map (p.1 :: ·) id))
          fun cs => .error (.fault .expectedComma (skip cs))) p.2 := by
  rw [elements]
  cases item cs with
  | error h => rfl
  | ok p =>
    dsimp only [Except.bind]
    split
    · next h => rw [behind_of_eq_cons h]
    · next h =>
      rw [behind_of_ne_cons (by simp [h]), behind_of_eq_cons h]
      cases elements item fuel _ <;> rfl
    · next hend hcomma => rw [behind_of_ne_cons hend, behind_of_ne_cons hcomma]

/-- The fields of an object, one step unfolded. -/
theorem members_succ (item : Reader Value) (fuel : Nat) (cs : List Char) :
    members item (fuel + 1) cs = (fieldName cs).bind fun n => (item n.2).bind fun p =>
      behind '\x7d' (fun cs => .ok ([(n.1, p.1)], cs))
        (behind ',' (fun cs => (members item fuel (skip cs)).map (Prod.map ((n.1, p.1) :: ·) id))
          fun cs => .error (.fault .expectedComma (skip cs))) p.2 := by
  rw [members]
  cases fieldName cs with
  | error h => rfl
  | ok n =>
    dsimp only [Except.bind]
    cases item n.2 with
    | error h => rfl
    | ok p =>
      dsimp only
      split
      · next h => rw [behind_of_eq_cons h]
      · next h =>
        rw [behind_of_ne_cons (by simp [h]), behind_of_eq_cons h]
        cases members item fuel _ <;> rfl
      · next hend hcomma => rw [behind_of_ne_cons hend, behind_of_ne_cons hcomma]

/-- By induction on the number of items that can still be read. -/
theorem IsBlind.elements (h : IsBlind item) (fuel : Nat) : IsBlind (elements item fuel) := by
  induction fuel with
  | zero => exact fun cs => .error _ _
  | succ fuel ih =>
    intro cs
    rw [elements_succ, elements_succ]
    refine (h cs).bind fun v rest => ?_
    refine isBlind_behind (by decide) (by decide) (fun cs => .ok [v] cs) ?_ rest
    exact isBlind_behind (by decide) (by decide) (ih.afterSkip.map (v :: ·)) fun cs => .error _ _

/-- Likewise for fields. -/
theorem IsBlind.members (h : IsBlind item) (fuel : Nat) : IsBlind (members item fuel) := by
  induction fuel with
  | zero => exact fun cs => .error _ _
  | succ fuel ih =>
    intro cs
    rw [members_succ, members_succ]
    refine (isBlind_fieldName cs).bind fun name rest => (h rest).bind fun v rest => ?_
    refine isBlind_behind (by decide) (by decide) (fun cs => .ok [(name, v)] cs) ?_ rest
    exact isBlind_behind (by decide) (by decide) (ih.afterSkip.map ((name, v) :: ·))
      fun cs => .error _ _

/-- An array is empty or has items. -/
theorem arrayBody_eq (fuel : Nat) (item : Reader Value) :
    arrayBody fuel item = behind ']' (fun cs => .ok (.list [], cs))
      fun cs => (elements item fuel (skip cs)).map (Prod.map .list id) := by
  funext cs
  rw [arrayBody]
  split
  · next h => rw [behind_of_eq_cons h]
  · next h =>
    rw [behind_of_ne_cons h]
    cases elements item fuel (skip cs) <;> rfl

/-- An object is empty or has fields. -/
theorem objectBody_eq (fuel : Nat) (item : Reader Value) :
    objectBody fuel item = behind '\x7d' (fun cs => .ok (.dict [], cs))
      fun cs => (members item fuel (skip cs)).map
        (Prod.map (fun es => .dict (Table.ofPairs es)) id) := by
  funext cs
  rw [objectBody]
  split
  · next h => rw [behind_of_eq_cons h]
  · next h =>
    rw [behind_of_ne_cons h]
    cases members item fuel (skip cs) <;> rfl

theorem IsBlind.arrayBody (h : IsBlind item) (fuel : Nat) : IsBlind (arrayBody fuel item) := by
  rw [arrayBody_eq]
  exact isBlind_behind (by decide) (by decide) (fun cs => .ok (Value.list []) cs)
    ((h.elements fuel).afterSkip.map Value.list)

theorem IsBlind.objectBody (h : IsBlind item) (fuel : Nat) : IsBlind (objectBody fuel item) := by
  rw [objectBody_eq]
  exact isBlind_behind (by decide) (by decide) (fun cs => .ok (Value.dict []) cs)
    ((h.members fuel).afterSkip.map fun es => Value.dict (Table.ofPairs es))

end Containers

/-! ## Documents -/

theorem term_quote (array object : Reader Value) (body : List Char) :
    term array object ('"' :: body)
      = (stringBody ('"' :: body) body).map (Prod.map Value.str id) := by
  rw [term]
  cases stringBody ('"' :: body) body <;> rfl

/-- What starts with none of the three signs is a scalar. -/
theorem term_scalar (array object : Reader Value) {cs : List Char} (hquote : cs.head? ≠ some '"')
    (harray : cs.head? ≠ some '[') (hobject : cs.head? ≠ some '\x7b') :
    term array object cs = scalar cs := by
  unfold term
  split
  · simp at hquote
  · simp at harray
  · simp at hobject
  · rfl

/-- A value does not see how lines end if its containers do not. -/
theorem isBlind_term {array object : Reader Value} (harray : IsBlind array)
    (hobject : IsBlind object) : IsBlind (term array object) := by
  intro cs
  by_cases hquote : cs.head? = some '"'
  · obtain ⟨body, rfl⟩ := List.head?_eq_some_iff.mp hquote
    rw [unifyLines_cons (by decide), term_quote, term_quote]
    exact (agrees_stringBody _ _ body).map Value.str
  · by_cases hbracket : cs.head? = some '['
    · obtain ⟨body, rfl⟩ := List.head?_eq_some_iff.mp hbracket
      rw [unifyLines_cons (by decide)]
      exact harray body
    · by_cases hbrace : cs.head? = some '\x7b'
      · obtain ⟨body, rfl⟩ := List.head?_eq_some_iff.mp hbrace
        rw [unifyLines_cons (by decide)]
        exact hobject body
      · rw [term_scalar array object hquote hbracket hbrace, term_scalar array object]
        · exact isBlind_scalar cs
        · rwa [Ne, head?_unifyLines (by decide) (by decide)]
        · rwa [Ne, head?_unifyLines (by decide) (by decide)]
        · rwa [Ne, head?_unifyLines (by decide) (by decide)]

/-- By induction on the depth that is left. -/
theorem isBlind_value (fuel depth : Nat) : IsBlind (value fuel depth) := by
  induction depth with
  | zero => exact isBlind_term (fun cs => .error _ _) (fun cs => .error _ _)
  | succ depth ih => exact isBlind_term (ih.arrayBody fuel) (ih.objectBody fuel)

/-- A document says the same with other line ends. -/
theorem toOption_document (depth : Nat) (text : List Char) :
    (document depth (unifyLines text)).toOption = (document depth text).toOption := by
  have hlength := length_unifyLines_le text
  have hskip := (skip_suffix (unifyLines text)).length_le
  have hfuel : value ((unifyLines text).length + 1) depth (skip (unifyLines text))
      = value (text.length + 1) depth (unifyLines (skip text)) := by
    rw [value_fuel (m := text.length + 1) _ (by omega) (by omega), skip_unifyLines]
  have hvalue := isBlind_value (text.length + 1) depth (skip text)
  unfold document
  rw [hfuel]
  generalize value (text.length + 1) depth (skip text) = x at hvalue ⊢
  generalize value (text.length + 1) depth (unifyLines (skip text)) = y at hvalue ⊢
  cases hvalue with
  | error h h' => rfl
  | ok v rest =>
    have hend : (skip (unifyLines rest)).isEmpty = (skip rest).isEmpty := by
      rw [Bool.eq_iff_iff, List.isEmpty_iff, List.isEmpty_iff, skip_unifyLines,
        unifyLines_eq_nil_iff]
    dsimp only
    rw [hend]
    split <;> rfl

end CodeAtlas.Json
