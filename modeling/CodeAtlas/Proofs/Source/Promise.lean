/-
CodeAtlas.Proofs.Source.Promise — how a service fails.

A source promises that it fails only with a failure that names the resource
(`Fetched.KeepsPromise`). A service at a URL of its own, behind a network that answers
or breaks down, keeps the promise in all but two cases: the resource makes no URL, or the
body of a successful answer nests too deep to be read (`fetch_keepsPromise_iff`).

Two things have to be seen for that. The check that an address has a scheme never fails,
since all that is sent to has the scheme of a URL. And a body can be at fault in no other
way than by its bytes, its text, its depth or what it says.

The promise is that of `SliceSource`, and the operation is `fetch_slice` of `GraphSliceClient`.
-/
import CodeAtlas.Proofs.Source.Target

namespace CodeAtlas

open CodeAtlas.Graph (Slice)

/-! ## The promise -/

def Fault.IsFailureOf (resource : String) : Fault → Prop
  | .fetch failure _ => failure.resource = .str resource
  | _ => False

/-- What came is a slice or a failure to fetch the resource. -/
def Fetched.KeepsPromise (resource : String) (f : Fetched) : Prop :=
  ∀ fault, f.outcome = .error fault → fault.IsFailureOf resource

/-- Where it is known when a source keeps its promise, and how it fails otherwise, the
promise is an equivalence, and no fault is of another kind. -/
theorem Fetched.keepsPromise_iff_of_cases {resource : String} {f : Fetched} {holds : Prop}
    {escapes : Fault → Prop} (hescapes : ∀ fault, escapes fault → ¬ fault.IsFailureOf resource)
    (h : (holds ∧ f.KeepsPromise resource)
      ∨ (¬ holds ∧ ∃ fault, f.outcome = .error fault ∧ escapes fault)) :
    (f.KeepsPromise resource ↔ holds)
      ∧ ∀ fault, f.outcome = .error fault → fault.IsFailureOf resource ∨ escapes fault := by
  rcases h with ⟨hholds, hkeeps⟩ | ⟨hnot, fault, houtcome, hescape⟩
  · refine ⟨iff_of_true hkeeps hholds, ?_⟩
    intro fault hfault
    exact Or.inl (hkeeps fault hfault)
  · refine ⟨iff_of_false ?_ hnot, ?_⟩
    · intro hkeeps
      exact hescapes fault hescape (hkeeps fault houtcome)
    · intro other hother
      rw [houtcome] at hother
      cases hother
      exact Or.inr hescape

/-! ## Replies -/

/-- The reply is an answer or a failure of the network. -/
def Reply.IsFromNetwork : Reply → Prop
  | .answer _ _ => True
  | .broken (.network _ _) => True
  | .broken _ => False

/-- The reply is successful, and its body nests too deep to be read. -/
def Reply.IsTooDeep (levels : Nat) (reply : Reply) : Prop :=
  ∃ status body container, reply = .answer status body ∧ Service.isSuccess status = true
    ∧ Json.readBytes levels body = .error (.text (.tooDeep container))

namespace Service

variable {levels : Nat}

/-- A body that is no slice is at fault by its content or by its depth. -/
theorem fault_of_readBody {body : List UInt8} {fault : Fault}
    (h : readBody levels body = .error fault) :
    (∃ words, contentFault? fault = some words)
      ∨ ∃ container, fault = .document (.tooDeep container)
          ∧ Json.readBytes levels body = .error (.text (.tooDeep container)) := by
  unfold readBody at h
  split at h
  · cases h
    exact Or.inl ⟨_, rfl⟩
  · next e hread =>
    cases h
    cases e with
    | malformed problem line column position => exact Or.inl ⟨_, rfl⟩
    | tooManyDigits count => exact Or.inl ⟨_, rfl⟩
    | tooDeep container => exact Or.inr ⟨container, rfl, hread⟩
  · split at h
    · cases h
      exact Or.inl ⟨_, rfl⟩
    · cases h

/-- A body that is too deep is at fault by its depth. -/
theorem readBody_of_tooDeep {body : List UInt8} {container : Json.Container}
    (h : Json.readBytes levels body = .error (.text (.tooDeep container))) :
    readBody levels body = .error (.document (.tooDeep container)) := by
  rw [readBody, h]

/-- A fault of content is turned into a failure to fetch. -/
theorem isFailureOf_bodyFailure {fault : Fault} {words : String}
    (h : contentFault? fault = some words) (resource : String) (status : Int) :
    (bodyFailure resource status fault).IsFailureOf resource := by
  rw [bodyFailure, h]
  exact rfl

/-- A reply that is not too deep is made a slice or a failure to fetch the resource. -/
theorem isFailureOf_of_outcomeOf {resource : String} {sent : Request} {reply : Reply}
    {fault : Fault} (hscheme : schemeFault? sent.target.text = none)
    (hnetwork : reply.IsFromNetwork) (hdeep : ¬ reply.IsTooDeep levels)
    (h : outcomeOf levels resource sent reply = .error fault) : fault.IsFailureOf resource := by
  unfold outcomeOf at h
  split at h
  · cases h
    exact rfl
  · next cause hnot =>
    cases cause <;> first | exact absurd rfl (hnot _ _) | exact hnetwork.elim
  · next status body =>
    rw [hscheme] at h
    dsimp only at h
    split at h
    · cases h
      exact rfl
    · next hsuccess =>
      split at h
      · cases h
      · next cause hcause =>
        cases h
        rcases fault_of_readBody hcause with ⟨words, hcontent⟩ | ⟨container, -, hread⟩
        · exact isFailureOf_bodyFailure hcontent resource status
        · exact absurd ⟨status, body, container, rfl, by simpa using hsuccess, hread⟩ hdeep

/-- A fault of depth is passed on as it is. -/
theorem outcomeOf_of_isTooDeep {sent : Request} {reply : Reply}
    (hscheme : schemeFault? sent.target.text = none) (hdeep : reply.IsTooDeep levels)
    (resource : String) :
    ∃ container,
      outcomeOf levels resource sent reply = .error (.document (.tooDeep container)) := by
  obtain ⟨status, body, container, rfl, hsuccess, hread⟩ := hdeep
  refine ⟨container, ?_⟩
  simp only [outcomeOf, hscheme, hsuccess, readBody_of_tooDeep hread]
  rfl

/-! ## Fetching -/

/-- The faults of a service that are no failures to fetch: the resource makes no URL, or
the answer is too deep. -/
def Escapes (fault : Fault) : Prop :=
  (∃ e, fault = .url e) ∨ ∃ container, fault = .document (.tooDeep container)

/-- Neither of them is a failure to fetch. -/
theorem Escapes.not_isFailureOf {fault : Fault} (h : Escapes fault) (resource : String) :
    ¬ fault.IsFailureOf resource := by
  rcases h with ⟨e, rfl⟩ | ⟨container, rfl⟩ <;> exact id

/-- The resource is refused for its dot segments, or makes a request whose answer is not
too deep. -/
def IsServed (s : Service) (levels : Nat) (transport : Transport) (resource : String) : Prop :=
  ∀ path, resourcePath? resource.toList = some path →
    ∃ sent, s.request path none = .ok sent ∧ ¬ (transport sent).IsTooDeep levels

/-- A resource that makes a request is served if the answer is not too deep. -/
theorem isServed_iff {s : Service} {transport : Transport} {resource : String} {path : List Char}
    {sent : Request} (hpath : resourcePath? resource.toList = some path)
    (hsent : s.request path none = .ok sent) :
    s.IsServed levels transport resource ↔ ¬ (transport sent).IsTooDeep levels := by
  constructor
  · intro h
    obtain ⟨sent', hsent', hdeep⟩ := h path hpath
    rw [hsent] at hsent'
    cases hsent'
    exact hdeep
  · intro hdeep path' hpath'
    rw [hpath] at hpath'
    cases hpath'
    exact ⟨sent, hsent, hdeep⟩

/-- The outcome of a fetch is what is made of the reply. -/
theorem outcome_of_request {s : Service} (levels : Nat) (transport : Transport)
    {resource : String} {path : List Char} {params : Option (Table String Value)} {sent : Request}
    (hpath : resourcePath? resource.toList = some path)
    (h : s.request path params = .ok sent) :
    (s.fetchWith levels transport resource params).outcome
      = outcomeOf levels resource sent (transport sent) := by
  rw [fetchWith, hpath]
  dsimp only
  rw [h]
  dsimp only
  split <;> simp_all

/-- A resource is served or not, and a service keeps its promise accordingly. -/
theorem fetch_cases {s : Service} (levels : Nat) {transport : Transport} {text : String}
    {base : Url} {timeout : Value} (resource : String) (hs : s.baseUrl = .str text)
    (hparse : Url.parse text.toList = .ok base) (habs : base.isAbsolute = true)
    (htimeout : readTimeout s.timeout = .ok timeout)
    (hnetwork : ∀ request, (transport request).IsFromNetwork) :
    (s.IsServed levels transport resource
        ∧ (s.fetchWith levels transport resource none).KeepsPromise resource)
      ∨ (¬ s.IsServed levels transport resource
        ∧ ∃ fault, (s.fetchWith levels transport resource none).outcome = .error fault
          ∧ Escapes fault) := by
  cases hpath : resourcePath? resource.toList with
  | none =>
    refine Or.inl ⟨fun path h => ?_, fun fault hfault => ?_⟩
    · rw [hpath] at h
      cases h
    · rw [fetchWith, hpath] at hfault
      cases hfault
      exact rfl
  | some path =>
    cases hsent : s.request path none with
    | error fault =>
      refine Or.inr ⟨fun h => ?_, fault, ?_, Or.inl (url_of_request_error hs htimeout hsent)⟩
      · obtain ⟨sent, hok, -⟩ := h path hpath
        rw [hsent] at hok
        cases hok
      · rw [fetchWith, hpath]
        dsimp only
        rw [hsent]
    | ok sent =>
      have hscheme := schemeFault?_target hs hparse habs hsent
      have houtcome := outcome_of_request levels transport hpath hsent
      rw [isServed_iff hpath hsent]
      by_cases hdeep : (transport sent).IsTooDeep levels
      · obtain ⟨container, hcontainer⟩ := outcomeOf_of_isTooDeep hscheme hdeep resource
        exact Or.inr ⟨fun hnot => hnot hdeep, _, houtcome.trans hcontainer, Or.inr ⟨container, rfl⟩⟩
      · refine Or.inl ⟨hdeep, fun fault hfault => ?_⟩
        rw [houtcome] at hfault
        exact isFailureOf_of_outcomeOf hscheme (hnetwork sent) hdeep hfault

/-- A service at a URL of its own keeps its promise exactly if the resource is refused
for its dot segments, or makes a request whose answer is not too deep. Other faults than
failures come from URLs and from depth alone. A plain resource makes a request if the
base does by itself and the two together are not too long. -/
theorem fetch_keepsPromise_iff (s : Service) (levels : Nat) (transport : Transport)
    (resource text : String) (base : Url) (timeout : Value) (hs : s.baseUrl = .str text)
    (hparse : Url.parse text.toList = .ok base) (habs : base.isAbsolute = true)
    (htimeout : readTimeout s.timeout = .ok timeout)
    (hnetwork : ∀ request, (transport request).IsFromNetwork) :
    ((s.fetchWith levels transport resource none).KeepsPromise resource ↔
        ∀ path, resourcePath? resource.toList = some path →
          ∃ sent, s.request path none = .ok sent ∧ ¬ (transport sent).IsTooDeep levels)
      ∧ (∀ fault, (s.fetchWith levels transport resource none).outcome = .error fault →
          fault.IsFailureOf resource ∨ (∃ e, fault = .url e)
            ∨ ∃ container, fault = .document (.tooDeep container))
      ∧ ((∀ c ∈ resource.toList, Url.isPlainChar c = true) →
          ∀ b sent, s.base = .ok b → s.request [] none = .ok sent →
            b.rawPath.length + resource.length ≤ Url.lengthLimit →
              ∀ path, resourcePath? resource.toList = some path →
                ∃ sent', s.request path none = .ok sent') := by
  have hcases := fetch_cases levels resource hs hparse habs htimeout hnetwork
  obtain ⟨hiff, hfaults⟩ := Fetched.keepsPromise_iff_of_cases
    (fun _ hescape => hescape.not_isFailureOf resource) hcases
  refine ⟨hiff, hfaults, ?_⟩
  intro hplain b sent hb hsent hlength path hpath
  obtain ⟨rfl, -⟩ := isName_of_resourcePath? hpath
  refine exists_request_of_plain hs hparse habs htimeout hb hsent
    (fun c hc => hplain c (List.dropWhile_subset _ hc)) (head?_dropWhile_slash _) ?_
  calc (b.rawPath ++ resource.toList.dropWhile (· = '/')).length
      = b.rawPath.length + (resource.toList.dropWhile (· = '/')).length := List.length_append
    _ ≤ b.rawPath.length + resource.toList.length :=
        Nat.add_le_add_left (List.dropWhile_sublist _).length_le _
    _ ≤ Url.lengthLimit := by rwa [String.length_toList]

/-- A service whose body is no text, asked for a resource behind a slash. -/
theorem fetch_keepsPromise_unreadable_body :
    Fetched.KeepsPromise "/packages"
      (Service.fetchWith { baseUrl := .str "http://graph.test/api/graph" } 1000
        (fun _ => .answer 200 [255, 255]) "/packages" none) := by
  refine (fetch_keepsPromise_iff { baseUrl := .str "http://graph.test/api/graph" } 1000
    (fun _ => .answer 200 [255, 255]) "/packages" "http://graph.test/api/graph" _ .null
    rfl rfl rfl rfl (fun _ => trivial)).1.mpr ?_
  intro path hpath
  cases hpath
  refine ⟨_, rfl, ?_⟩
  rintro ⟨status, body, container, hanswer, -, hread⟩
  cases hanswer
  have hencoding : (match Json.readBytes 1000 [255, 255] with
      | .error (.encoding _) => true
      | _ => false) = true := by decide +kernel
  rw [hread] at hencoding
  cases hencoding

/-- A tab in a resource: what comes is not a failure to fetch it. -/
theorem tab_breaks_promise :
    ∃ base, Url.parse "http://graph.test/api/graph".toList = .ok base ∧ base.isAbsolute = true
      ∧ ¬ Fetched.KeepsPromise "a\tb"
          (Service.fetchWith { baseUrl := .str "http://graph.test/api/graph" } 1000
            (fun _ => .answer 200 []) "a\tb" none) := by
  refine ⟨_, rfl, rfl, fun hkeeps => ?_⟩
  exact hkeeps (.url (.controlCharacter '\t' 1)) rfl

end Service

end CodeAtlas
