/-
CodeAtlas.Proofs.View.Populate — attempts to fill a view, one after the other.

The initialization of a view from a source may be tried many times, each time with another
source. A source has a slice or fails, with any fault whatever. An attempt that fails leaves
the view as it was, so a run of attempts leads where the syncs of the slices that came lead
(`attemptAll_eq_foldl`).

After its slice has come nothing keeps an attempt from ending well: an edge could be refused,
but it is offered only when its ends are in the view (`syncStepwise_eq`). Before, one thing
does: a fault that cannot be put into words, which escapes past a view that is as it was. And
once the slice is in the view, its resource is named, which a number that is too long to be
written prevents. Nothing else escapes from an attempt (`result_attempt`).

The operation is `initialize`.
-/
import CodeAtlas.Proofs.View.Effect
import CodeAtlas.View.Populate

namespace CodeAtlas

/-! ## Results -/

namespace Outcome

variable {fault : Fault}

theorem failed_of_words {words : String} (h : fault.message = .ok words) :
    Outcome.failed fault = .ok ⟨false, words, none, some fault⟩ := by
  simp only [failed, h]

/-- A fault with words comes back as a result that has them. -/
theorem failed_eq_ok_iff {o : Outcome} :
    Outcome.failed fault = .ok o ↔
      ∃ words, fault.message = .ok words ∧ o = ⟨false, words, none, some fault⟩ := by
  cases hwords : fault.message with
  | ok words => simp [failed_of_words hwords, eq_comm]
  | error e => simp [failed, hwords]

/-- A fault without words escapes. -/
theorem failed_eq_error_iff {e : Escape} :
    Outcome.failed fault = .error e ↔ fault.message = .error e := by
  cases hwords : fault.message with
  | ok words => simp [failed_of_words hwords]
  | error e => simp [failed, hwords]

/-- A slice that came is reported, with the resource in the message. -/
theorem synced_of_writable {resource : Value} (r : SyncReport)
    (h : resource.isWritable = true) :
    Outcome.synced resource r = .ok ⟨true, syncedMessage resource r, some r, none⟩ := by
  rw [synced, if_pos h]

/-- A resource with no text leaves no message, and this escapes. -/
theorem synced_of_unwritable {resource : Value} (r : SyncReport)
    (h : resource.isWritable = false) : Outcome.synced resource r = .error .tooLong := by
  rw [synced, h]
  rfl

end Outcome

namespace View

open CodeAtlas.Graph (Slice)

/-! ## One attempt -/

/-- An attempt to fill a view: a source, the resource that is asked of it, and the size
that nodes are given. -/
structure Attempt where
  source : Source
  resource : Value
  size : Value

def Attempt.fetched (a : Attempt) : Except Fault Slice :=
  (a.source.fetch a.resource).outcome

/-- The slice of an attempt, if it came, with the size of its nodes. -/
def Attempt.delivery? (a : Attempt) : Option (Value × Slice) :=
  match a.fetched with
  | .ok s => some (a.size, s)
  | .error _ => none

def attempt (v : View) (a : Attempt) : Filling :=
  v.populate none a.size a.source a.resource

/-- A fault leaves the view as it was. -/
theorem attempt_of_error {v : View} {a : Attempt} {fault : Fault}
    (h : a.fetched = .error fault) :
    v.attempt a = v.finish a.resource (a.source.fetch a.resource)
      [v.failedEntry a.resource] v (Outcome.failed fault) := by
  rw [Attempt.fetched] at h
  simp only [attempt, populate, h]

/-- A slice is brought in, whatever becomes of the message. -/
theorem attempt_of_ok {v : View} {a : Attempt} {s : Slice} (h : a.fetched = .ok s) :
    v.attempt a = v.finish a.resource (a.source.fetch a.resource)
      ((v.sync a.size s).1.skippedEntries a.resource (v.sync a.size s).2
        ++ [(v.sync a.size s).1.syncedEntry a.resource])
      (v.sync a.size s).1 (Outcome.synced a.resource (v.sync a.size s).2) := by
  rw [Attempt.fetched] at h
  simp only [attempt, populate, h, syncWithin_none]

/-- The view after an attempt: synced, or as it was. -/
theorem view_attempt (v : View) (a : Attempt) :
    (v.attempt a).view
      = (a.delivery?.elim v fun d => (v.sync d.1 d.2).1) := by
  unfold Attempt.delivery?
  split
  · next s h => rw [attempt_of_ok h]; rfl
  · next fault h => rw [attempt_of_error h]; rfl

/-- The result of an attempt: what the sync reports, or the fault in its words, if it has
any. -/
theorem result_attempt (v : View) (a : Attempt) :
    (v.attempt a).result
      = match a.fetched with
        | .ok s => Outcome.synced a.resource (v.sync a.size s).2
        | .error fault => Outcome.failed fault := by
  split
  · next s h => rw [attempt_of_ok h]; rfl
  · next fault h => rw [attempt_of_error h]; rfl

/-- A slice that came for a resource with no text has no result. -/
theorem result_attempt_of_unwritable {v : View} {a : Attempt} {s : Slice}
    (h : a.fetched = .ok s) (hresource : a.resource.isWritable = false) :
    (v.attempt a).result = .error .tooLong := by
  rw [result_attempt, h]
  exact Outcome.synced_of_unwritable _ hresource

/-! ## Runs of attempts -/

/-- Fill a view again and again; the view in the end, and what came of each attempt. -/
def attemptAll : View → List Attempt → View × List Filling
  | v, [] => (v, [])
  | v, a :: attempts =>
      let rest := attemptAll (v.attempt a).view attempts
      (rest.1, v.attempt a :: rest.2)

theorem attemptAll_append (v : View) (before after : List Attempt) :
    v.attemptAll (before ++ after)
      = (((v.attemptAll before).1.attemptAll after).1,
          (v.attemptAll before).2 ++ ((v.attemptAll before).1.attemptAll after).2) := by
  induction before generalizing v with
  | nil => rfl
  | cons a before ih => simp [attemptAll, ih]

/-- Every attempt has its result. -/
theorem length_attemptAll (v : View) (attempts : List Attempt) :
    (v.attemptAll attempts).2.length = attempts.length := by
  induction attempts generalizing v with
  | nil => rfl
  | cons a attempts ih => simp [attemptAll, ih]

/-- What failed might as well not have been tried. -/
theorem attemptAll_eq_foldl (v : View) (attempts : List Attempt) :
    (v.attemptAll attempts).1
      = (attempts.filterMap Attempt.delivery?).foldl (fun w d => (w.sync d.1 d.2).1) v := by
  induction attempts generalizing v with
  | nil => rfl
  | cons a attempts ih =>
    rw [attemptAll, ih, view_attempt, List.filterMap_cons]
    cases a.delivery? <;> rfl

/-- **A failed attempt leaves no trace.** After any run of attempts the view is what the
slices that came make of it, in their order. One whose source failed leaves the view as it was
and hands the fault back, in its words; one whose slice came syncs it, no step fails on the
way, and it hands the report back. In a result, success, a report and the lack of a fault are
the same thing. An attempt has no result exactly if its source failed with a fault that
cannot be put into words, or if its slice came for a resource that cannot be written; a text
always can. -/
theorem failed_attempt_leaves_no_trace (v : View) (attempts : List Attempt) :
    (v.attemptAll attempts).1
        = (attempts.filterMap Attempt.delivery?).foldl (fun w d => (w.sync d.1 d.2).1) v ∧
    (v.attemptAll attempts).2.length = attempts.length ∧
    ∀ before a after, attempts = before ++ a :: after →
      ∃ f, (v.attemptAll attempts).2[before.length]? = some f ∧
        f.view = (v.attemptAll (before ++ [a])).1 ∧
        (∀ fault, a.fetched = .error fault → f.view = (v.attemptAll before).1) ∧
        (∀ fault words, a.fetched = .error fault → fault.message = .ok words →
          ∃ o, f.result = .ok o ∧ o.fault = some fault ∧ o.message = words) ∧
        (∀ s, a.fetched = .ok s →
          ∃ report, (v.attemptAll before).1.syncStepwise a.size s = .ok (f.view, report) ∧
            (a.resource.isWritable = true →
              ∃ o, f.result = .ok o ∧ o.report = some report)) ∧
        (∀ o, f.result = .ok o →
          (o.success = true ↔ o.report.isSome = true) ∧
          (o.report.isSome = true ↔ o.fault = none)) ∧
        ∀ e, f.result = .error e ↔
          (∃ fault, a.fetched = .error fault ∧ fault.message = .error e) ∨
          (∃ s, a.fetched = .ok s) ∧ a.resource.isWritable = false ∧ e = .tooLong := by
  refine ⟨attemptAll_eq_foldl v attempts, length_attemptAll v attempts, ?_⟩
  rintro before a after rfl
  refine ⟨(v.attemptAll before).1.attempt a, ?_, ?_, ?_⟩
  · rw [attemptAll_append, List.getElem?_append_right (by simp [length_attemptAll])]
    simp [length_attemptAll, attemptAll]
  · simp [attemptAll_append, attemptAll]
  · have hview := view_attempt (v.attemptAll before).1 a
    have hresult := result_attempt (v.attemptAll before).1 a
    cases hfetched : a.fetched with
    | error fault =>
      rw [Attempt.delivery?, hfetched] at hview
      rw [hfetched] at hresult
      dsimp only at hresult
      rw [hresult]
      refine ⟨fun _ _ => hview, ?_, ?_, ?_, fun e => ?_⟩
      · rintro _ words ⟨⟩ hwords
        exact ⟨_, Outcome.failed_of_words hwords, rfl, rfl⟩
      · rintro s ⟨⟩
      · intro o ho
        obtain ⟨words, -, rfl⟩ := Outcome.failed_eq_ok_iff.mp ho
        simp
      · simp [Outcome.failed_eq_error_iff]
    | ok s =>
      rw [Attempt.delivery?, hfetched] at hview
      rw [hfetched] at hresult
      dsimp only at hresult
      rw [hview, hresult]
      refine ⟨nofun, nofun, ?_, ?_, fun e => ?_⟩
      · rintro _ ⟨⟩
        exact ⟨_, syncStepwise_eq _ _ _, fun h => ⟨_, Outcome.synced_of_writable _ h, rfl⟩⟩
      all_goals cases hresource : a.resource.isWritable with
        | true => simp [Outcome.synced_of_writable _ hresource]
        | false => simp [Outcome.synced_of_unwritable _ hresource, @eq_comm _ Escape.tooLong]

/-- A fault that cannot be put into words escapes, and so does a resource that is a number too
long to be written. A view that breaks off after its first node is left between what it was and
what the slice makes of it. -/
theorem wordless_fault_escapes :
    let v := View.empty (.str "v")
    let s : Slice := ⟨[{ id := .str "a", level := .null, displayName := .null, cost := .null },
      { id := .str "b", level := .null, displayName := .null, cost := .null }], []⟩
    (v.attempt ⟨.broken (.foreign "KeyError" (.error .tooLong)), .str "r", .int 5⟩).result
        = .error .tooLong ∧
    (v.attempt ⟨.constant s, .int (Int.ofNat (Nat.pow 10 5000)), .int 5⟩).result
        = .error .tooLong ∧
    (v.populate (some 1) (.int 5) (.constant s) (.str "r")).view.nodes.keys = [.str "a"] ∧
    (v.sync (.int 5) s).1.nodes.keys = [.str "a", .str "b"] :=
  ⟨rfl, result_attempt_of_unwritable rfl (by decide +kernel), rfl, rfl⟩

end View

end CodeAtlas
