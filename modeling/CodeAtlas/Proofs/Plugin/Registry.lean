/-
CodeAtlas.Proofs.Plugin.Registry — a registry works on its latest scan.

The registry of installed components, as `Plugin/Registry` and `Plugin/Call` have it, is used
again and again while the catalogue changes. What it knows at any time is said without
following the calls. The catalogues that count are those scanned since it last forgot
everything (`tried`): as long as no entry ends the run while it is loaded, that is one
catalogue, the one of the first use or of the latest reload (`tried_of_whole`). A scan that is
broken off leaves its entries behind, and the next use scans again on top of them. What is
known under a name is the component of the last entry that has the name and is of the base
(`lastComponent`).

The invariant is the registry itself (`afterScans`), and `prepare_afterScans` is the step
lemma. `AnswersFrom` says of every call what it answers if the known components are these.
Components, plugins, the base and the factories are arbitrary throughout.

The operations are those of `PluginLoader`.
-/
import CodeAtlas.Plugin.Call
import CodeAtlas.Proofs.Table
import Mathlib.Data.List.Induction
import Mathlib.Data.List.TakeWhile

namespace CodeAtlas.Plugin

variable {κ α : Type}

/-! ## One scan -/

/-- The component of the last entry that has the name, can be loaded and is of the base. -/
def lastComponent (base : Base κ) (entries : List (Entry κ)) (name : String) : Option κ :=
  ((entries.filter fun e => e.name = name).filterMap (Entry.component? base)).getLast?

/-- What comes later wins. -/
theorem lastComponent_cons (base : Base κ) (e : Entry κ) (entries : List (Entry κ))
    (name : String) :
    lastComponent base (e :: entries) name
      = (lastComponent base entries name).or
          (if e.name = name then e.component? base else none) := by
  unfold lastComponent
  by_cases hname : e.name = name
  · rw [List.filter_cons_of_pos (by simpa using hname), if_pos hname]
    cases hc : e.component? base with
    | none => rw [List.filterMap_cons_none hc, Option.or_none]
    | some c =>
      rw [List.filterMap_cons_some hc, List.getLast?_cons]
      cases ((entries.filter fun e => e.name = name).filterMap
        (Entry.component? base)).getLast? <;> rfl
  · rw [List.filter_cons_of_neg (by simpa using hname), if_neg hname, Option.or_none]

/-- An entry that is left out adds nothing. -/
theorem collect_cons_none {base : Base κ} {e : Entry κ} (h : e.component? base = none)
    (known : Table String κ) (entries : List (Entry κ)) :
    collect base known (e :: entries) = collect base known entries := by
  simp only [collect, List.foldl_cons, h]

/-- A component replaces what was under its name. -/
theorem collect_cons_some {base : Base κ} {e : Entry κ} {c : κ}
    (h : e.component? base = some c) (known : Table String κ) (entries : List (Entry κ)) :
    collect base known (e :: entries) = collect base (known.insert e.name c) entries := by
  simp only [collect, List.foldl_cons, h]

/-- An entry that cannot be loaded or is not of the base neither adds a name nor hides
the entries before it. -/
theorem get?_collect (base : Base κ) (known : Table String κ) (entries : List (Entry κ))
    (name : String) :
    (collect base known entries).get? name
      = (lastComponent base entries name).or (known.get? name) := by
  induction entries generalizing known with
  | nil => rfl
  | cons e entries ih =>
    rw [lastComponent_cons]
    cases hc : e.component? base with
    | none => rw [collect_cons_none hc, ih, ite_self, Option.or_none]
    | some c =>
      rw [collect_cons_some hc, ih, Table.get?_insert, Option.or_assoc]
      split <;> rfl

/-- No name is known twice. -/
theorem nodup_collect {base : Base κ} {known : Table String κ} (h : known.keys.Nodup)
    (entries : List (Entry κ)) : (collect base known entries).keys.Nodup := by
  induction entries generalizing known with
  | nil => exact h
  | cons e entries ih =>
    cases hc : e.component? base with
    | none =>
      rw [collect_cons_none hc]
      exact ih h
    | some c =>
      rw [collect_cons_some hc]
      exact ih (Table.nodup_insert h e.name c)

/-- Two scans one after the other are one scan of the entries of both. -/
theorem collect_collect (base : Base κ) (known : Table String κ) (entries more : List (Entry κ)) :
    collect base (collect base known entries) more = collect base known (entries ++ more) :=
  List.foldl_append.symm

/-- What ends the run when a group of the catalogue is scanned. -/
def Catalogue.interruption? (c : Catalogue κ) (group : String) : Option Interruption :=
  (c.group group).findSome? Entry.interruption?

/-- Every entry is loaded if none ends the run. -/
theorem reached_of_whole {c : Catalogue κ} {group : String} (h : c.interruption? group = none) :
    reached (c.group group) = c.group group := by
  refine List.takeWhile_eq_self_iff.mpr fun e he => ?_
  rw [List.findSome?_eq_none_iff.mp h e he]
  rfl

/-! ## Uses one after the other -/

/-- The call scans a group that has been scanned before. -/
def Call.isReload : Call → Bool
  | .reload => true
  | _ => false

/-- The catalogues at the times of the scans, if none is broken off: the one of the first
use, and those of the reloads after it. -/
def scanned : List (Use κ α) → List (Catalogue κ)
  | [] => []
  | first :: later => first.catalogue :: (later.filter (·.call.isReload)).map (·.catalogue)

/-- One more use adds its catalogue if it is the first or a reload. -/
theorem scanned_concat (history : List (Use κ α)) (u : Use κ α) :
    scanned (history ++ [u])
      = if history.isEmpty || u.call.isReload then scanned history ++ [u.catalogue]
        else scanned history := by
  cases history with
  | nil => rfl
  | cons first later => cases hreload : u.call.isReload <;> simp [scanned, hreload]

theorem scanned_ne_nil {history : List (Use κ α)} (h : history ≠ []) : scanned history ≠ [] := by
  cases history with
  | nil => exact absurd rfl h
  | cons first later => exact List.cons_ne_nil _ _

/-- One more use forgets no scan. -/
theorem scanned_subset_concat (history : List (Use κ α)) (u : Use κ α) :
    scanned history ⊆ scanned (history ++ [u]) := by
  rw [scanned_concat]
  split
  · exact List.subset_append_left _ _
  · exact List.Subset.refl _

section Tried

variable (group : String)

/-- What broke off the latest of some scans. -/
def latestInterruption? (tried : List (Catalogue κ)) : Option Interruption :=
  tried.getLast?.bind (·.interruption? group)

/-- There has been a scan, and the latest one came to its end. -/
def isSettled (tried : List (Catalogue κ)) : Bool :=
  !tried.isEmpty && (latestInterruption? group tried).isNone

/-- The catalogues that have been scanned since everything was forgotten, after one more use. -/
def tryNext (tried : List (Catalogue κ)) (u : Use κ α) : List (Catalogue κ) :=
  if u.call.isReload then [u.catalogue]
  else if isSettled group tried then tried
  else tried ++ [u.catalogue]

/-- The catalogues that have been scanned since everything was forgotten. -/
def tried (history : List (Use κ α)) : List (Catalogue κ) :=
  history.foldl (tryNext group) []

def loaded (tried : List (Catalogue κ)) : List (Entry κ) :=
  tried.flatMap fun c => reached (c.group group)

/-- One more use, one more step. -/
theorem tried_concat (history : List (Use κ α)) (u : Use κ α) :
    tried group (history ++ [u]) = tryNext group (tried group history) u := by
  rw [tried, List.foldl_append]
  rfl

/-- One scan of a catalogue where no entry ends the run settles what is known. -/
theorem isSettled_singleton {c : Catalogue κ} (h : c.interruption? group = none) :
    isSettled group [c] = true := by
  simp [isSettled, latestInterruption?, h]

/-- If no entry ends the run, only the latest scan counts. -/
theorem tried_of_whole {history : List (Use κ α)}
    (h : ∀ c ∈ scanned history, c.interruption? group = none) :
    tried group history = (scanned history).getLast?.toList := by
  induction history using List.reverseRecOn with
  | nil => rfl
  | append_singleton history u ih =>
    rw [tried_concat, tryNext]
    rw [scanned_concat] at h ⊢
    cases hreload : u.call.isReload with
    | true => simp
    | false =>
      rw [hreload] at h
      cases history with
      | nil => rfl
      | cons first later =>
        simp only [List.isEmpty_cons, Bool.or_false, Bool.false_eq_true, if_false] at h ⊢
        have hne := scanned_ne_nil (List.cons_ne_nil first later)
        have hsettled := isSettled_singleton group (h _ (List.getLast_mem hne))
        rw [ih h, List.getLast?_eq_some_getLast hne, Option.toList_some, if_pos hsettled]

/-- If no scan is broken off, the first use settles the registry. -/
theorem isSettled_of_whole {history : List (Use κ α)}
    (h : ∀ c ∈ scanned history, c.interruption? group = none) :
    isSettled group (tried group history) = !history.isEmpty := by
  cases history with
  | nil => rfl
  | cons first later =>
    have hne := scanned_ne_nil (List.cons_ne_nil first later)
    rw [tried_of_whole group h, List.getLast?_eq_some_getLast hne, Option.toList_some]
    exact isSettled_singleton group (h _ (List.getLast_mem hne))

/-- If no scan is broken off, what is loaded is the catalogue at the latest scan. -/
theorem exists_latest_of_whole {history : List (Use κ α)} (hne : history ≠ [])
    (h : ∀ c ∈ scanned history, c.interruption? group = none) :
    ∃ catalogue, (scanned history).getLast? = some catalogue ∧
      latestInterruption? group (tried group history) = none ∧
      loaded group (tried group history) = catalogue.group group := by
  have hscanned := scanned_ne_nil hne
  have hlatest := h _ (List.getLast_mem hscanned)
  have hlast := List.getLast?_eq_some_getLast hscanned
  have htried : tried group history = [(scanned history).getLast hscanned] := by
    rw [tried_of_whole group h, hlast, Option.toList_some]
  refine ⟨_, hlast, ?_, ?_⟩
  · rw [htried]
    exact hlatest
  · rw [htried, loaded, List.flatMap_singleton, reached_of_whole hlatest]

end Tried

namespace Registry

def fresh (base : Base κ) (group : String) : Registry κ := { base := base, group := group }

def after (r : Registry κ) (uses : List (Use κ α)) : Registry κ :=
  uses.foldl (fun r u => (r.call u.factory u.catalogue u.call).registry) r

/-- A registry that knows what some scans have loaded, and nothing else. -/
def afterScans (base : Base κ) (group : String) (tried : List (Catalogue κ)) : Registry κ :=
  ⟨base, group, collect base [] (loaded group tried), isSettled group tried⟩

theorem prepare_of_isReload {c : Call} (h : c.isReload = true) (catalogue : Catalogue κ)
    (r : Registry κ) : r.prepare catalogue c = r.reload catalogue := by
  cases c with
  | reload => rfl
  | _ => cases h

theorem prepare_of_not_isReload {c : Call} (h : c.isReload = false) (catalogue : Catalogue κ)
    (r : Registry κ) : r.prepare catalogue c = r.discover catalogue := by
  cases c with
  | reload => cases h
  | _ => rfl

/-- A scan adds what it loads to what is known. -/
theorem scan_afterScans (base : Base κ) (group : String) {tried : List (Catalogue κ)}
    (h : isSettled group tried = false) (catalogue : Catalogue κ) :
    ((afterScans base group tried).scan catalogue).registry
        = afterScans base group (tried ++ [catalogue]) ∧
    ((afterScans base group tried).scan catalogue).scans = [group] ∧
    ((afterScans base group tried).scan catalogue).interruption
        = latestInterruption? group (tried ++ [catalogue]) := by
  have hloaded : collect base (collect base [] (loaded group tried))
      (reached (catalogue.group group)) = collect base [] (loaded group (tried ++ [catalogue])) := by
    rw [collect_collect, loaded, loaded, List.flatMap_append, List.flatMap_singleton]
  have hlatest : latestInterruption? group (tried ++ [catalogue])
      = (catalogue.group group).findSome? Entry.interruption? := by
    rw [latestInterruption?, List.getLast?_concat]
    rfl
  have hsettled : isSettled group (tried ++ [catalogue])
      = ((catalogue.group group).findSome? Entry.interruption?).isNone := by
    rw [isSettled, hlatest]
    simp
  rw [hlatest]
  unfold afterScans
  rw [h, hsettled, ← hloaded]
  simp only [scan]
  cases (catalogue.group group).findSome? Entry.interruption? with
  | none => exact ⟨rfl, rfl, rfl⟩
  | some cause => exact ⟨rfl, rfl, rfl⟩

/-- **One step.** A use brings a registry from the scans before it to the scans with it. -/
theorem prepare_afterScans (base : Base κ) (group : String) (tried : List (Catalogue κ))
    (u : Use κ α) :
    ((afterScans base group tried).prepare u.catalogue u.call).registry
        = afterScans base group (tryNext group tried u) ∧
    ((afterScans base group tried).prepare u.catalogue u.call).scans
        = (if u.call.isReload || !isSettled group tried then [group] else []) ∧
    ((afterScans base group tried).prepare u.catalogue u.call).interruption
        = latestInterruption? group (tryNext group tried u) := by
  rw [tryNext]
  cases hreload : u.call.isReload with
  | true =>
    -- what was known is forgotten, so the scan starts from nothing
    rw [prepare_of_isReload hreload]
    exact scan_afterScans base group (show isSettled group [] = false from rfl) u.catalogue
  | false =>
    rw [prepare_of_not_isReload hreload, discover]
    cases hsettled : isSettled group tried with
    | true =>
      have hnone : latestInterruption? group tried = none := by
        rw [isSettled, Bool.and_eq_true, Option.isNone_iff_eq_none] at hsettled
        exact hsettled.2
      simp [afterScans, hsettled, hnone]
    | false =>
      have hscan := scan_afterScans base group hsettled u.catalogue
      simpa [afterScans, hsettled] using hscan

/-- A call changes the registry by its scan only. -/
theorem registry_call (factory : Factory κ α) (catalogue : Catalogue κ) (r : Registry κ)
    (c : Call) : (r.call factory catalogue c).registry = (r.prepare catalogue c).registry := by
  unfold call
  dsimp only
  cases (r.prepare catalogue c).interruption <;> rfl

theorem scans_call (factory : Factory κ α) (catalogue : Catalogue κ) (r : Registry κ)
    (c : Call) : (r.call factory catalogue c).scans = (r.prepare catalogue c).scans := by
  unfold call
  dsimp only
  cases (r.prepare catalogue c).interruption <;> rfl

/-- A call is answered from the registry after its scan, unless that was broken off. -/
theorem answer_call (factory : Factory κ α) (catalogue : Catalogue κ) (r : Registry κ)
    (c : Call) :
    (r.call factory catalogue c).answer
      = match (r.prepare catalogue c).interruption with
        | some cause => .error (.interrupted cause)
        | none => (r.prepare catalogue c).registry.answerTo factory c := by
  unfold call
  dsimp only
  cases (r.prepare catalogue c).interruption <;> rfl

/-- A run keeps what one step keeps: a registry that has been used knows what the scans since
it last forgot everything have loaded. -/
theorem after_eq (base : Base κ) (group : String) (uses : List (Use κ α)) :
    (fresh base group).after uses = afterScans base group (tried group uses) := by
  suffices h : ∀ past, (afterScans base group past).after uses
      = afterScans base group (uses.foldl (tryNext group) past) from h []
  induction uses with
  | nil => exact fun past => rfl
  | cons u uses ih =>
    intro past
    rw [List.foldl_cons, ← ih, ← (prepare_afterScans base group past u).1,
      ← registry_call u.factory]
    rfl

/-- The answer at a place of a run is that of the registry after the uses before. -/
theorem run_getElem? (r : Registry κ) (before later : List (Use κ α)) (u : Use κ α) :
    (r.run (before ++ u :: later))[before.length]?
      = some ((r.after before).call u.factory u.catalogue u.call) := by
  induction before generalizing r with
  | nil => rfl
  | cons b before ih => exact ih (r.call b.factory b.catalogue b.call).registry

end Registry

/-! ## Answers -/

/-- The names under which there is a component, sorted. -/
structure IsListing (known : String → Option κ) (names : List String) : Prop where
  sorted : names.Pairwise (· < ·)
  mem_iff : ∀ name, name ∈ names ↔ (known name).isSome = true

def named (known : String → Option κ) : Value → Option κ
  | .str name => known name
  | _ => none

/-- A name with a component is a key. -/
theorem unhashable?_of_named {known : String → Option κ} {name : Value} {c : κ}
    (h : named known name = some c) : name.unhashable? = none := by
  cases name with
  | str name => rfl
  | _ => cases h

namespace Registry

variable {r : Registry κ}

theorem length_names (r : Registry κ) : r.names.length = r.components.length := by
  rw [names, List.length_mergeSort, Table.keys, List.length_map]

/-- Sorting puts names that differ into strict order. -/
theorem pairwise_names (h : r.components.keys.Nodup) : r.names.Pairwise (· < ·) := by
  have hsorted : r.names.Pairwise (fun a b => decide (a ≤ b) = true) := by
    apply List.pairwise_mergeSort
    · intro a b c hab hbc
      exact decide_eq_true (String.le_trans (of_decide_eq_true hab) (of_decide_eq_true hbc))
    · intro a b
      rw [Bool.or_eq_true, decide_eq_true_eq, decide_eq_true_eq]
      exact String.le_total a b
  have hdiffer : r.names.Nodup := (List.mergeSort_perm _ _).nodup_iff.mpr h
  refine (hsorted.and hdiffer).imp ?_
  rintro a b ⟨hle, hne⟩
  rw [← String.not_le]
  exact fun hge => hne (String.le_antisymm (of_decide_eq_true hle) hge)

/-- The names of a registry are a listing of it. -/
theorem isListing_names (h : r.components.keys.Nodup) :
    IsListing r.components.get? r.names where
  sorted := pairwise_names h
  mem_iff name := by
    rw [names, List.mem_mergeSort, ← Table.contains_iff_mem_keys, Table.contains]

/-- All plugins are those that the factory builds, each under its name. -/
theorem mem_plugins_iff (h : r.components.keys.Nodup) (factory : Factory κ α) (name : String)
    (p : Option α) :
    (name, p) ∈ r.plugins factory ↔
      ∃ c, r.components.get? name = some c ∧ factory c = .ok p := by
  simp only [plugins, List.mem_filterMap, Prod.exists, Table.get?_eq_some_iff h]
  constructor
  · rintro ⟨name', c, hmem, hbuilt⟩
    split at hbuilt
    · next hp =>
      cases hbuilt
      exact ⟨c, hmem, hp⟩
    · cases hbuilt
  · rintro ⟨c, hmem, hp⟩
    exact ⟨name, c, hmem, by simp only [hp]⟩

theorem nodup_plugins (h : r.components.keys.Nodup) (factory : Factory κ α) :
    (Table.keys (r.plugins factory)).Nodup := by
  refine List.Nodup.sublist ?_ h
  unfold plugins
  generalize r.components = known
  induction known with
  | nil => exact List.Sublist.refl _
  | cons f known ih =>
    obtain ⟨name, c⟩ := f
    rw [Table.keys, Table.keys, List.map_cons]
    cases hc : factory c with
    | ok p =>
      rw [List.filterMap_cons_some (by simp only [hc]; rfl), List.map_cons]
      exact ih.cons_cons name
    | error e =>
      rw [List.filterMap_cons_none (by simp only [hc])]
      exact ih.cons name

/-- Only texts are names of components. -/
theorem find?_eq_named (r : Registry κ) (name : Value) :
    r.find? name = named r.components.get? name := by
  cases name <;> rfl

theorem plugin?_of_unhashable {name : Value} {kind : String} (h : name.unhashable? = some kind)
    (factory : Factory κ α) : r.plugin? factory name = .error (.unhashable kind) := by
  simp only [plugin?, h]

/-- A key without a component has no plugin, and that is no error. -/
theorem plugin?_of_none {name : Value} (hname : name.unhashable? = none)
    (h : named r.components.get? name = none) (factory : Factory κ α) :
    r.plugin? factory name = .ok none := by
  simp only [plugin?, hname, find?_eq_named, h]

theorem plugin?_of_ok {name : Value} {c : κ} {factory : Factory κ α} {p : Option α}
    (h : named r.components.get? name = some c) (hp : factory c = .ok p) :
    r.plugin? factory name = .ok p := by
  simp only [plugin?, unhashable?_of_named h, find?_eq_named, h, hp]

/-- What the factory refuses is an error. -/
theorem plugin?_of_error {name : Value} {c : κ} {factory : Factory κ α} {e : BuildError}
    (h : named r.components.get? name = some c) (he : factory c = .error e) :
    r.plugin? factory name = .error (.build e) := by
  simp only [plugin?, unhashable?_of_named h, find?_eq_named, h, he]

/-- Nothing comes back exactly if nothing is installed under the name, or the factory comes
back with nothing. -/
theorem plugin?_eq_ok_none_iff {name : Value} (hname : name.unhashable? = none)
    {factory : Factory κ α} :
    r.plugin? factory name = .ok none ↔
      named r.components.get? name = none
        ∨ ∃ c, named r.components.get? name = some c ∧ factory c = .ok none := by
  cases hc : named r.components.get? name with
  | none => simp [plugin?_of_none hname hc]
  | some c =>
    cases hbuilt : factory c with
    | ok p => simp [plugin?_of_ok hc hbuilt, hbuilt]
    | error e => simp [plugin?_of_error hc hbuilt, hbuilt]

/-- A plugin that is required and missing is reported by its name, if that can be written. -/
theorem plugin_of_none {name : Value} {factory : Factory κ α}
    (h : r.plugin? factory name = .ok none) :
    r.plugin factory name
      = if name.isWritable then .error (.notFound name r.group r.names)
        else .error .nameTooLong := by
  simp only [plugin, h]

/-- A name is only said to be missing if nothing comes back for it. -/
theorem plugin?_of_notFound {name : Value} (hname : name.unhashable? = none)
    {factory : Factory κ α} {missing : Value} {group : String} {available : List String}
    (h : r.plugin factory name = .error (.notFound missing group available)) :
    r.plugin? factory name = .ok none := by
  cases hc : named r.components.get? name with
  | none => exact plugin?_of_none hname hc factory
  | some c =>
    cases hbuilt : factory c with
    | error e =>
      rw [plugin, plugin?_of_error hc hbuilt] at h
      cases h
    | ok p =>
      cases p with
      | none => exact plugin?_of_ok hc hbuilt
      | some p =>
        rw [plugin, plugin?_of_ok hc hbuilt] at h
        cases h

end Registry

/-- A use is answered from a registry that knows these components by name. -/
structure AnswersFrom (known : String → Option κ) (group : String) (u : Use κ α)
    (done : Called κ α) : Prop where
  components : ∀ name, done.registry.components.get? name = known name
  listed : u.call = .discover ∨ u.call = .reload →
    done.answer = .ok (.components done.registry.components)
  unhashable : ∀ name kind, u.call = .get name ∨ u.call = .require name ∨ u.call = .has name →
    name.unhashable? = some kind → done.answer = .error (.unhashable kind)
  get_missing : ∀ name, u.call = .get name → name.unhashable? = none → named known name = none →
    done.answer = .ok (.found none)
  get_built : ∀ name c p, u.call = .get name → named known name = some c →
    u.factory c = .ok p → done.answer = .ok (.found p)
  get_refused : ∀ name c e, u.call = .get name → named known name = some c →
    u.factory c = .error e → done.answer = .error (.build e)
  require_missing : ∀ name, u.call = .require name → name.unhashable? = none →
    name.isWritable = true →
    ((∃ available, done.answer = .error (.notFound name group available) ∧
      IsListing known available) ↔
        named known name = none ∨ ∃ c, named known name = some c ∧ u.factory c = .ok none)
  require_endless : ∀ name, u.call = .require name → name.unhashable? = none →
    name.isWritable = false → done.answer = .error .nameTooLong
  require_built : ∀ name c p, u.call = .require name → named known name = some c →
    u.factory c = .ok (some p) → done.answer = .ok (.required p)
  require_refused : ∀ name c e, u.call = .require name → named known name = some c →
    u.factory c = .error e → done.answer = .error (.build e)
  all : u.call = .all → ∃ plugins, done.answer = .ok (.all plugins) ∧
    (Table.keys plugins).Nodup ∧
    ∀ name p, (name, p) ∈ plugins ↔ ∃ c, known name = some c ∧ u.factory c = .ok p
  names : u.call = .names → ∃ names, done.answer = .ok (.names names) ∧ IsListing known names
  size : u.call = .size → ∃ names, done.answer = .ok (.size names.length) ∧ IsListing known names
  has : ∀ name, u.call = .has name → name.unhashable? = none →
    done.answer = .ok (.has (named known name).isSome)

/-- A registry that knows components answers from them. -/
theorem Registry.answersFrom_answerTo {r : Registry κ} (hdiffer : r.components.keys.Nodup)
    {u : Use κ α} {done : Called κ α} (hregistry : done.registry = r)
    (hanswer : done.answer = r.answerTo u.factory u.call) :
    AnswersFrom r.components.get? r.group u done where
  components name := by rw [hregistry]
  listed h := by
    rw [hanswer, hregistry]
    rcases h with h | h <;> rw [h] <;> rfl
  unhashable name kind h hkind := by
    rw [hanswer]
    rcases h with h | h | h <;> rw [h, Registry.answerTo]
    · rw [Registry.plugin?_of_unhashable hkind]
      rfl
    · rw [Registry.plugin, Registry.plugin?_of_unhashable hkind]
      rfl
    · rw [Registry.contains, hkind]
      rfl
  get_missing name h hname hnone := by
    rw [hanswer, h, Registry.answerTo, Registry.plugin?_of_none hname hnone]
    rfl
  get_built name c p h hc hp := by
    rw [hanswer, h, Registry.answerTo, Registry.plugin?_of_ok hc hp]
    rfl
  get_refused name c e h hc he := by
    rw [hanswer, h, Registry.answerTo, Registry.plugin?_of_error hc he]
    rfl
  require_missing name h hname hwritable := by
    rw [hanswer, h, Registry.answerTo, ← Registry.plugin?_eq_ok_none_iff hname]
    constructor
    · rintro ⟨available, herror, -⟩
      cases hplugin : r.plugin u.factory name with
      | ok p =>
        rw [hplugin] at herror
        cases herror
      | error e =>
        rw [hplugin] at herror
        cases herror
        exact Registry.plugin?_of_notFound hname hplugin
    · intro hnone
      rw [Registry.plugin_of_none hnone, if_pos hwritable]
      exact ⟨_, rfl, Registry.isListing_names hdiffer⟩
  require_endless name h hname hwritable := by
    have hnone : named r.components.get? name = none := by
      cases name with
      | str name => cases hwritable
      | _ => rfl
    rw [hanswer, h, Registry.answerTo,
      Registry.plugin_of_none (Registry.plugin?_of_none hname hnone _), hwritable]
    rfl
  require_built name c p h hc hp := by
    rw [hanswer, h, Registry.answerTo, Registry.plugin, Registry.plugin?_of_ok hc hp]
    rfl
  require_refused name c e h hc he := by
    rw [hanswer, h, Registry.answerTo, Registry.plugin, Registry.plugin?_of_error hc he]
    rfl
  all h := by
    rw [hanswer, h]
    exact ⟨_, rfl, Registry.nodup_plugins hdiffer u.factory,
      Registry.mem_plugins_iff hdiffer u.factory⟩
  names h := by
    rw [hanswer, h]
    exact ⟨_, rfl, Registry.isListing_names hdiffer⟩
  size h := by
    rw [hanswer, h, Registry.answerTo, ← Registry.length_names]
    exact ⟨_, rfl, Registry.isListing_names hdiffer⟩
  has name h hname := by
    rw [hanswer, h, Registry.answerTo, Registry.contains, hname, Registry.find?_eq_named]
    rfl

/-- What is known after some scans is what their entries have to offer. -/
theorem Registry.get?_afterScans (base : Base κ) (group : String) (tried : List (Catalogue κ))
    (name : String) :
    (Registry.afterScans base group tried).components.get? name
      = lastComponent base (loaded group tried) name := by
  rw [Registry.afterScans, get?_collect, Table.get?_nil, Option.or_none]

/-- **A registry works on its latest scan.** Let a registry be used any number of times,
with catalogues and factories that change from one use to the next. A use scans the group if
it is a reload, or if no scan before it has come to its end; it changes the registry in no other
way, whether a component could be built or not. What is known then is what the entries loaded
since the latest reload have to offer. A use whose scan is broken off ends with what broke it
off, and every other use is answered from what is known. If no entry ever ends the run, then
the group is scanned by the first use and by every reload, and by no other use, and each use is
answered from what the catalogue at the latest scan has to offer. -/
theorem run_works_on_latest_scan (base : Base κ) (group : String)
    (before later : List (Use κ α)) (u : Use κ α) :
    ∃ done,
      ((Registry.fresh base group).run (before ++ u :: later))[before.length]? = some done ∧
      done.scans
        = (if u.call.isReload || !isSettled group (tried group before) then [group] else []) ∧
      done.registry = (Registry.fresh base group).after (before ++ [u]) ∧
      (done.scans = [] → done.registry = (Registry.fresh base group).after before) ∧
      (∀ name, done.registry.components.get? name
        = lastComponent base (loaded group (tried group (before ++ [u]))) name) ∧
      (∀ cause, latestInterruption? group (tried group (before ++ [u])) = some cause →
        done.answer = .error (.interrupted cause)) ∧
      (latestInterruption? group (tried group (before ++ [u])) = none →
        AnswersFrom (lastComponent base (loaded group (tried group (before ++ [u])))) group u
          done) ∧
      ((∀ c ∈ scanned (before ++ [u]), c.interruption? group = none) →
        done.scans = (if before.isEmpty || u.call.isReload then [group] else []) ∧
        ∃ catalogue, (scanned (before ++ [u])).getLast? = some catalogue ∧
          AnswersFrom (lastComponent base (catalogue.group group)) group u done) := by
  obtain ⟨hregistry, hscans, hinterruption⟩ :=
    Registry.prepare_afterScans base group (tried group before) u
  rw [← Registry.after_eq] at hregistry hscans hinterruption
  rw [← tried_concat] at hregistry hinterruption
  rw [← Registry.registry_call u.factory] at hregistry
  rw [← Registry.scans_call u.factory] at hscans
  have hanswer := Registry.answer_call u.factory u.catalogue
    ((Registry.fresh base group).after before) u.call
  rw [hinterruption, ← Registry.registry_call u.factory] at hanswer
  have hget := Registry.get?_afterScans base group (tried group (before ++ [u]))
  have hanswers (hwhole : latestInterruption? group (tried group (before ++ [u])) = none) :
      AnswersFrom (lastComponent base (loaded group (tried group (before ++ [u])))) group u
        (((Registry.fresh base group).after before).call u.factory u.catalogue u.call) := by
    rw [hwhole] at hanswer
    rw [← funext hget]
    refine Registry.answersFrom_answerTo ?_ hregistry (by rw [hanswer, hregistry])
    exact nodup_collect (show (Table.keys []).Nodup from List.nodup_nil) _
  refine ⟨_, Registry.run_getElem? _ before later u, hscans, ?_, ?_, ?_, ?_, hanswers, ?_⟩
  · rw [hregistry, Registry.after_eq]
  · intro hnone
    rw [hscans, ite_eq_right_iff] at hnone
    have hidle : u.call.isReload = false ∧ isSettled group (tried group before) = true := by
      simpa using hnone
    rw [hregistry, Registry.after_eq, tried_concat, tryNext, hidle.1, hidle.2]
    rfl
  · intro name
    rw [hregistry, hget]
  · intro cause hcause
    rw [hanswer, hcause]
  · intro hwhole
    have hbefore : ∀ c ∈ scanned before, c.interruption? group = none :=
      fun c hc => hwhole c (scanned_subset_concat before u hc)
    obtain ⟨catalogue, hlast, hnone, hloaded⟩ :=
      exists_latest_of_whole group (List.concat_ne_nil u before) hwhole
    refine ⟨?_, catalogue, hlast, ?_⟩
    · rw [hscans, isSettled_of_whole group hbefore, Bool.not_not, Bool.or_comm]
    · rw [← hloaded]
      exact hanswers hnone

/-- A scan that is broken off leaves a name behind that the catalogue at the latest scan does
not have, and a name that is no key is not even looked for. -/
theorem interrupted_scan_leaves_name :
    let base : Base Unit := ⟨"Base", fun _ => true⟩
    let factory : Factory Unit Unit := fun _ => .ok (some ())
    let exits : Catalogue Unit :=
      [("g", [⟨"old", "m:a", .component ()⟩, ⟨"stop", "m:b", .exits ⟨"SystemExit", "1"⟩⟩])]
    ((Registry.fresh base "g").run
        [⟨exits, factory, .discover⟩, ⟨[], factory, .has (.str "old")⟩]).map (·.answer)
      = [.error (.interrupted ⟨"SystemExit", "1"⟩), .ok (.has true)]
    ∧ ((Registry.fresh base "g").run [⟨[], factory, .require (.list [.str "x"])⟩]).map (·.answer)
      = [.error (.unhashable "list")] :=
  ⟨rfl, rfl⟩

end CodeAtlas.Plugin
