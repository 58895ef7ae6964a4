/-
CodeAtlas.Proofs.Graph.Cost — which costs written by hand are read, and as what.

Null, numbers and texts name severities (`Severity.IsNamedBy`): a number by its code, a text
by a numeral or by a word. All other costs are of unknown severity.

Reading is meant to take every cost, and it nearly does. A text is read as a numeral if it
looks like one, minus signs and what passes for digits, and then it is refused where it is
none: for a second sign, for a character that only passes for a digit, or for too many digits
(`IsMisread`). `Severity.ofAny_refuses_or_names` says that nothing else is refused, apart from
lists and dictionaries that hold an integer too long to be written.

An integer that has a text is never refused. Its text, with any blanks around it, is of the
severity that the integer has as a number, by hand and in the graph alike
(`Severity.numeral_means_its_number`).

The two ways to read a cost are `from_any` and `from_code` of `CostLevel`.
-/
import CodeAtlas.Graph.Tag
import CodeAtlas.Proofs.Number.Integer

namespace CodeAtlas.Graph

open Number (LooksSigned IsReadable signedValue readInteger integerText withinLimit)
open Text (trim isBlank upper)

/-! ## Names of severities -/

/-- The text looks like an integer, blanks around it aside, and cannot be read as one. -/
def IsMisread (text : List Char) : Prop :=
  ∃ signs numeral, LooksSigned signs numeral (trim isBlank text) ∧ ¬ IsReadable signs numeral

/-- The text is a numeral for the code of the severity, or its word in any case, blanks around
it aside. -/
def Severity.IsNamedIn (s : Severity) (text : List Char) : Prop :=
  (∃ signs numeral, LooksSigned signs numeral (trim isBlank text)
      ∧ IsReadable signs numeral ∧ signedValue signs numeral = s.code)
    ∨ upper (trim isBlank text) = s.label.toList

/-- The cost names the severity. -/
def Severity.IsNamedBy (s : Severity) : Value → Prop
  | .null => s = .lowest
  | .int n => n = s.code
  | .float x => x.toInt? = some s.code
  | .str text => s.IsNamedIn text.toList
  | _ => False

/-- The cost is refused: a text that is misread, or what has to be written to be read and is
too long for that. -/
def IsRefusedCost : Value → Prop
  | .str text => IsMisread text.toList
  | .list items => Value.areWritable items = false
  | .tuple items => Value.areWritable items = false
  | .dict fields => Value.fieldsWritable fields = false
  | _ => False

/-- A severity is found by what tells the known ones apart. -/
theorem getD_find?_known_eq_iff {α : Type} [DecidableEq α] {f : Severity → α}
    (hf : ∀ s ∈ Severity.known, ∀ t ∈ Severity.known, f s = f t → s = t) {s : Severity}
    (hs : s ≠ .unknown) (a : α) :
    (Severity.known.find? fun t => f t == a).getD .unknown = s ↔ f s = a := by
  have hknown : s ∈ Severity.known := by
    cases s with
    | unknown => exact absurd rfl hs
    | _ => decide
  cases hfind : Severity.known.find? fun t => f t == a with
  | none =>
    have hnone := List.find?_eq_none.mp hfind s hknown
    rw [beq_iff_eq] at hnone
    exact ⟨fun h => absurd h.symm hs, fun h => absurd h hnone⟩
  | some t =>
    have ht : f t = a := by simpa using List.find?_some hfind
    constructor
    · rintro rfl
      exact ht
    · intro h
      exact hf t (List.mem_of_find?_eq_some hfind) s hknown (ht.trans h.symm)

/-- Every severity but the unknown one has a code of its own. -/
theorem Severity.ofCode_eq_iff {s : Severity} (hs : s ≠ .unknown) (n : Int) :
    Severity.ofCode n = s ↔ n = s.code := by
  rw [Severity.ofCode, getD_find?_known_eq_iff (by decide) hs, eq_comm]

/-- The codes are the numbers from zero to four. -/
theorem Severity.exists_code_eq_iff {n : Int} :
    (∃ s, s ≠ .unknown ∧ Severity.code s = n) ↔ 0 ≤ n ∧ n ≤ 4 := by
  constructor
  · rintro ⟨s, hs, rfl⟩
    cases s with
    | unknown => exact absurd rfl hs
    | _ => decide
  · rintro ⟨hlow, hhigh⟩
    obtain rfl | rfl | rfl | rfl | rfl : n = 0 ∨ n = 1 ∨ n = 2 ∨ n = 3 ∨ n = 4 := by omega
    · exact ⟨.lowest, by decide, rfl⟩
    · exact ⟨.low, by decide, rfl⟩
    · exact ⟨.medium, by decide, rfl⟩
    · exact ⟨.high, by decide, rfl⟩
    · exact ⟨.critical, by decide, rfl⟩

/-- A code is unknown if no known severity has it. -/
theorem Severity.ofCode_eq_unknown_iff {n : Int} :
    Severity.ofCode n = .unknown ↔ ¬ (0 ≤ n ∧ n ≤ 4) := by
  rw [← Severity.exists_code_eq_iff]
  constructor
  · rintro hunknown ⟨s, hs, hcode⟩
    have hfound : Severity.ofCode n = s := (Severity.ofCode_eq_iff hs n).mpr hcode.symm
    exact hs (hfound.symm.trans hunknown)
  · intro hnone
    by_cases hs : Severity.ofCode n = .unknown
    · exact hs
    · exact absurd ⟨_, hs, ((Severity.ofCode_eq_iff hs n).mp rfl).symm⟩ hnone

/-! ## Words and numerals -/

/-- A text whose capital form is signs and digits looks like an integer. -/
theorem exists_looksSigned {text numeral : List Char}
    (hnumeral : (upper text).dropWhile (· = '-') = numeral) (hne : numeral ≠ [])
    (hdigits : ∀ c ∈ numeral, Text.isDigitLike c = true) :
    ∃ signs, LooksSigned signs numeral text := by
  have hsplit : (upper text).takeWhile (· = '-') ++ numeral = upper text := by
    rw [← hnumeral, List.takeWhile_append_dropWhile]
  have hsigns : ∀ c ∈ (upper text).takeWhile (· = '-'), c = '-' :=
    fun c hc => of_decide_eq_true (List.all_eq_true.mp List.all_takeWhile c hc)
  have hsame : upper text = text := by
    refine Text.upper_eq_self_of_upper fun c hc => ?_
    rw [← hsplit] at hc
    rw [Text.isSignOrDigit, Bool.or_eq_true, decide_eq_true_eq]
    exact (List.mem_append.mp hc).imp (hsigns c) (hdigits c)
  refine ⟨((upper text).takeWhile (· = '-')).length, ?_, hne, hdigits⟩
  rw [← List.eq_replicate_of_mem hsigns, hsplit, hsame]

/-- No word for a severity is made of signs and digits. -/
theorem label_not_signed (s : Severity) : s.label.toList.all Text.isSignOrDigit = false := by
  cases s <;> decide +kernel

namespace Severity

variable {word : List Char}

/-- A word that looks like an integer is read as one. -/
theorem ofWord_of_looksSigned {signs : Nat} {numeral : List Char}
    (h : LooksSigned signs numeral (trim isBlank word)) :
    ofWord word = ((readInteger (trim isBlank word)).mapError CostError.numeral).map ofCode := by
  have htag : upper (trim isBlank word) = trim isBlank word :=
    Text.upper_eq_self h.isSignOrDigit
  have hcond : (!numeral.isEmpty && numeral.all Text.isDigitLike) = true := by
    rw [Bool.and_eq_true, List.all_eq_true]
    exact ⟨by simpa using h.nonempty, h.digits⟩
  simp only [ofWord, htag, h.dropWhile_eq, hcond, if_true]
  cases readInteger (trim isBlank word) <;> rfl

/-- Any other word is looked up. -/
theorem ofWord_of_not_looksSigned
    (h : ¬ ∃ signs numeral, LooksSigned signs numeral (trim isBlank word)) :
    ofWord word = .ok ((known.find? fun s =>
      s.label == String.ofList (upper (trim isBlank word))).getD .unknown) := by
  have hcond : ¬ (!((upper (trim isBlank word)).dropWhile (· = '-')).isEmpty
      && ((upper (trim isBlank word)).dropWhile (· = '-')).all Text.isDigitLike) = true := by
    intro hcond
    rw [Bool.and_eq_true, List.all_eq_true] at hcond
    obtain ⟨signs, hsigned⟩ := exists_looksSigned rfl (by simpa using hcond.1) hcond.2
    exact h ⟨signs, _, hsigned⟩
  simp only [ofWord, hcond]
  rfl

/-- A word is refused if it is misread, and only then. -/
theorem ofWord_eq_error_iff : (∃ cause, ofWord word = .error cause) ↔ IsMisread word := by
  constructor
  · rintro ⟨cause, herror⟩
    by_cases h : ∃ signs numeral, LooksSigned signs numeral (trim isBlank word)
    · obtain ⟨signs, numeral, hsigned⟩ := h
      refine ⟨signs, numeral, hsigned, hsigned.readInteger_eq_error_iff.mp ?_⟩
      cases hread : readInteger (trim isBlank word) with
      | ok n =>
        rw [ofWord_of_looksSigned hsigned, hread] at herror
        cases herror
      | error cause => exact ⟨cause, rfl⟩
    · rw [ofWord_of_not_looksSigned h] at herror
      cases herror
  · rintro ⟨signs, numeral, hsigned, hunreadable⟩
    obtain ⟨cause, hread⟩ := hsigned.readInteger_eq_error_iff.mpr hunreadable
    rw [ofWord_of_looksSigned hsigned, hread]
    exact ⟨_, rfl⟩

/-- A word is read as a severity that is known if it names this severity. -/
theorem ofWord_eq_ok_iff {s : Severity} (hs : s ≠ .unknown) :
    ofWord word = .ok s ↔ s.IsNamedIn word := by
  constructor
  · intro hok
    by_cases h : ∃ signs numeral, LooksSigned signs numeral (trim isBlank word)
    · obtain ⟨signs, numeral, hsigned⟩ := h
      rw [ofWord_of_looksSigned hsigned] at hok
      cases hread : readInteger (trim isBlank word) with
      | ok n =>
        rw [hread] at hok
        have hcode : n = s.code := (ofCode_eq_iff hs n).mp (Except.ok.inj hok)
        obtain ⟨hreadable, hvalue⟩ := hsigned.readInteger_eq_ok_iff.mp hread
        exact .inl ⟨signs, numeral, hsigned, hreadable, hvalue.symm.trans hcode⟩
      | error cause =>
        rw [hread] at hok
        cases hok
    · rw [ofWord_of_not_looksSigned h] at hok
      have hlabel := (getD_find?_known_eq_iff (by decide +kernel) hs _).mp (Except.ok.inj hok)
      exact .inr (by rw [hlabel, String.toList_ofList])
  · rintro (⟨signs, numeral, hsigned, hreadable, hvalue⟩ | hlabel)
    · have hread := hsigned.readInteger_eq_ok_iff.mpr ⟨hreadable, hvalue.symm⟩
      rw [ofWord_of_looksSigned hsigned, hread]
      exact congrArg Except.ok ((ofCode_eq_iff hs s.code).mpr rfl)
    · have h : ¬ ∃ signs numeral, LooksSigned signs numeral (trim isBlank word) := by
        rintro ⟨signs, numeral, hsigned⟩
        have hchars := hsigned.isSignOrDigit
        rw [← Text.upper_eq_self hchars, hlabel, ← List.all_eq_true, label_not_signed] at hchars
        cases hchars
      rw [ofWord_of_not_looksSigned h, hlabel, String.ofList_toList]
      exact congrArg Except.ok ((getD_find?_known_eq_iff (by decide +kernel) hs _).mpr rfl)

/-- Blanks around a word make no difference. -/
theorem ofWord_append {front back : List Char} (hfront : ∀ c ∈ front, isBlank c = true)
    (hback : ∀ c ∈ back, isBlank c = true) : ofWord (front ++ word ++ back) = ofWord word := by
  rw [ofWord, Text.trim_append hfront hback, ofWord]

/-- The text of an integer is of the severity of the code that the integer is. -/
theorem ofWord_integerText {n : Int} (h : withinLimit n = true) :
    ofWord (integerText n) = .ok (ofCode n) := by
  have hsigned := Number.looksSigned_integerText n
  have htrim : trim isBlank (integerText n) = integerText n :=
    Text.trim_eq_self fun c hc => Text.isBlank_of_isSignOrDigit (hsigned.isSignOrDigit c hc)
  rw [← htrim] at hsigned
  rw [ofWord_of_looksSigned hsigned, htrim, Number.readInteger_integerText h]
  rfl

/-! ## Costs of any kind -/

/-- Characters that are in no numeral and in no word for a severity. A list, a tuple and a
dictionary are written with one of them, and the full name of a member has a dot in it. -/
def foreign : List Char := ['[', '(', '\x7b', '.']

/-- A text with a foreign character is read, and names no severity. -/
theorem ofWord_of_foreign {c : Char} (hc : c ∈ foreign) (hmem : c ∈ word) :
    ofWord word = .ok .unknown := by
  have hforeign : (foreign.all fun c => !isBlank c && !Text.isSignOrDigit c
      && (Text.upperChar c).elem c && known.all fun s => !s.label.toList.elem c) = true := by
    decide +kernel
  have hchar := List.all_eq_true.mp hforeign c hc
  simp only [Bool.and_eq_true, Bool.not_eq_true', List.elem_eq_mem, decide_eq_true_eq] at hchar
  obtain ⟨⟨⟨hblank, hsign⟩, hupper⟩, hlabels⟩ := hchar
  have htrim : c ∈ trim isBlank word := (Text.mem_trim_iff hblank).mpr hmem
  have htag : c ∈ upper (trim isBlank word) := List.mem_flatMap.mpr ⟨c, htrim, hupper⟩
  have h : ¬ ∃ signs numeral, LooksSigned signs numeral (trim isBlank word) := by
    rintro ⟨signs, numeral, hsigned⟩
    rw [hsigned.isSignOrDigit c htrim] at hsign
    cases hsign
  have hnone : (known.find? fun s =>
      s.label == String.ofList (upper (trim isBlank word))) = none := by
    rw [List.find?_eq_none]
    intro s hs hlabel
    have hfree := List.all_eq_true.mp hlabels s hs
    rw [beq_iff_eq.mp hlabel, String.toList_ofList] at hfree
    simp [htag] at hfree
  rw [ofWord_of_not_looksSigned h, hnone, Option.getD_none]

def isReadAsText : Value → Bool
  | .null | .bool _ | .int _ | .float _ => false
  | _ => true

/-- Other costs are written, unless they are too long, and read as words. -/
theorem ofAny_of_isReadAsText {v : Value} (h : isReadAsText v = true) :
    ofAny v = v.text?.elim (.error .tooLong) fun s => ofWord s.toList := by
  cases v with
  | null | bool _ | int _ | float _ => cases h
  | str _ | list _ | tuple _ | dict _ | member _ =>
    simp only [ofAny]
    cases Value.text? _ <;> simp only [Option.elim_none, Option.elim_some]

/-- A cost whose text has a foreign character in it is refused if it is too long to be written,
and of unknown severity if not. -/
theorem ofAny_of_foreign {v : Value} {c : Char} (hc : c ∈ foreign) (hmem : c ∈ v.text)
    (h : isReadAsText v = true) :
    ((∃ cause, ofAny v = .error cause) ↔ v.isWritable = false)
      ∧ ∀ s, s ≠ .unknown → (ofAny v = .ok s ↔ False) := by
  rw [ofAny_of_isReadAsText h, Value.text?]
  cases v.isWritable with
  | false => simp
  | true => simp [ofWord_of_foreign hc hmem, eq_comm]

/-- Reading refuses the costs that are misread or too long, and no others. It finds a severity
that is known where the cost names it, so all that is left is of unknown severity. -/
theorem ofAny_refuses_or_names (v : Value) :
    ((∃ cause, ofAny v = .error cause) ↔ IsRefusedCost v)
      ∧ ∀ s, s ≠ .unknown → (ofAny v = .ok s ↔ s.IsNamedBy v) := by
  cases v with
  | null => simp [ofAny, IsRefusedCost, IsNamedBy, eq_comm]
  | bool b => simp +contextual [ofAny, IsRefusedCost, IsNamedBy, eq_comm]
  | int n =>
    refine ⟨by simp [ofAny, IsRefusedCost], fun s hs => ?_⟩
    rw [ofAny, Except.ok.injEq, ofCode_eq_iff hs, IsNamedBy]
  | float x =>
    refine ⟨by simp [ofAny, IsRefusedCost], fun s hs => ?_⟩
    rw [ofAny, Except.ok.injEq, IsNamedBy]
    cases x.toInt? with
    | none => simp [hs.symm]
    | some n => simp [ofCode_eq_iff hs]
  | str text =>
    have htext : (Value.str text).text? = some text := by
      simp [Value.text?, Value.text, Value.isWritable]
    rw [ofAny_of_isReadAsText rfl, htext, Option.elim_some]
    exact ⟨ofWord_eq_error_iff, fun s hs => ofWord_eq_ok_iff hs⟩
  | list items => exact ofAny_of_foreign (c := '[') (by decide) List.mem_cons_self rfl
  | tuple items => exact ofAny_of_foreign (c := '(') (by decide) List.mem_cons_self rfl
  | dict fields => exact ofAny_of_foreign (c := '\x7b') (by decide) List.mem_cons_self rfl
  | member m =>
    have hdot : '.' ∈ (Value.member m).text := by
      simp [Value.text, Member.fullName]
    have hwritable : (Value.member m).isWritable = false ↔ False := by
      simp [Value.isWritable]
    obtain ⟨herror, hok⟩ := ofAny_of_foreign (by decide) hdot rfl
    exact ⟨herror.trans hwritable, hok⟩

/-- A digit of another script names a severity, and a digit that stands as an exponent is
refused. -/
theorem ofAny_refuses_or_names_scripts :
    ofAny (.str " ٤\n") = .ok .critical ∧ ∃ cause, ofAny (.str "²") = .error cause := by
  have hdigit : critical.IsNamedBy (.str " ٤\n") := by
    refine .inl ⟨0, ['٤'], ⟨by decide +kernel, by decide, ?_⟩, ⟨by decide, ?_, by decide⟩, ?_⟩
    · exact List.forall_mem_singleton.mpr (by decide +kernel)
    · exact List.forall_mem_singleton.mpr (by decide +kernel)
    · decide +kernel
  have hmark : IsRefusedCost (.str "²") := by
    refine ⟨0, ['²'], ⟨by decide +kernel, by decide, ?_⟩, fun hreadable => ?_⟩
    · exact List.forall_mem_singleton.mpr (by decide +kernel)
    · exact absurd (hreadable.2.1 '²' List.mem_cons_self) (by decide +kernel)
  exact ⟨((ofAny_refuses_or_names _).2 .critical (by decide)).mpr hdigit,
    (ofAny_refuses_or_names _).1.mpr hmark⟩

/-- A second minus sign is not taken for something unknown: the cost is refused. -/
theorem two_signs_are_refused :
    ofAny (.str "--5") = .error (.numeral (.notAnInteger ['-', '-', '5'])) := by
  rfl

/-! ## Numbers and their numerals -/

theorem ofAny_str (text : String) : ofAny (.str text) = ofWord text.toList := by
  have hwritable : (Value.str text).isWritable = true := by simp only [Value.isWritable]
  rw [ofAny_of_isReadAsText rfl, Value.text?, if_pos hwritable, Value.text, Option.elim_some,
    String.toList_ofList]

/-- An integer of no more digits than the limit has a text, and as a cost it is of one
severity, whether it is read as a number or from its text, with blanks around it or not, by
hand or in the graph. The severity is unknown if the integer is no code, and otherwise it is
the one with this code. -/
theorem numeral_means_its_number (n : Int) (front back : String)
    (hn : (Number.digits n.natAbs).length ≤ Number.digitLimit)
    (hfront : ∀ c ∈ front.toList, isBlank c = true)
    (hback : ∀ c ∈ back.toList, isBlank c = true) :
    ∃ numeral s, (Value.int n).text? = some numeral
      ∧ ofAny (.int n) = .ok s
      ∧ ofAny (.str (front ++ numeral ++ back)) = .ok s
      ∧ ofCost (.int n) = s
      ∧ (s = .unknown ↔ ¬ (0 ≤ n ∧ n ≤ 4))
      ∧ (s ≠ .unknown → s.code = n) := by
  have hlimit : withinLimit n = true := Number.withinLimit_iff.mpr hn
  refine ⟨String.ofList (integerText n), ofCode n, ?_, rfl, ?_, rfl, ofCode_eq_unknown_iff, ?_⟩
  · simp [Value.text?, Value.isWritable, Value.text, Value.literal, hlimit]
  · rw [ofAny_str, String.toList_append, String.toList_append, String.toList_ofList,
      ofWord_append hfront hback, ofWord_integerText hlimit]
  · exact fun hs => ((ofCode_eq_iff hs n).mp rfl).symm

/-- A code between blanks of several kinds, and the least integer that has a text. -/
theorem numeral_means_its_number_blanks :
    ofAny (.str "\u3000\x1f3\u2028\n") = .ok .high
      ∧ ∃ numeral, (Value.int (1 - Nat.pow 10 Number.digitLimit)).text? = some numeral
        ∧ ofAny (.str ("\t" ++ numeral ++ "\u00a0")) = .ok .unknown := by
  constructor
  · obtain ⟨numeral, s, htext, hnumber, hnumeral, -⟩ :=
      numeral_means_its_number 3 "\u3000\x1f" "\u2028\n" (by decide +kernel)
        (List.all_eq_true.mp (by decide +kernel)) (List.all_eq_true.mp (by decide +kernel))
    have hthree : (Value.int 3).text? = some "3" := by decide +kernel
    rw [hthree, Option.some.injEq] at htext
    rw [← htext, ← hnumber] at hnumeral
    exact hnumeral
  · have hlimit : withinLimit (1 - Nat.pow 10 Number.digitLimit) = true := by decide +kernel
    obtain ⟨numeral, s, htext, -, hnumeral, -, hunknown, -⟩ :=
      numeral_means_its_number _ "\t" "\u00a0" (Number.withinLimit_iff.mp hlimit)
        (List.all_eq_true.mp (by decide +kernel)) (List.all_eq_true.mp (by decide +kernel))
    have hnegative : ¬ 0 ≤ 1 - (Nat.pow 10 Number.digitLimit : Int) := by decide +kernel
    rw [hunknown.mpr fun hcode => hnegative hcode.1] at hnumeral
    exact ⟨numeral, htext, hnumeral⟩

end Severity

end CodeAtlas.Graph
