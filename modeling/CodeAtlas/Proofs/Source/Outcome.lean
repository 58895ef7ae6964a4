/-
CodeAtlas.Proofs.Source.Outcome — what a service makes of a reply.

A fetch ends in one of five ways. A resource with a dot segment is refused, and nothing is
sent. Otherwise one request is sent, and the reply decides: the network breaks down, the
status is none of success, the body is a slice, or it is not (`Reply.CallsFor`).

The last two are told apart by the body alone. Every object that a body can say is a slice
(`Graph.exists_ofDocument`), and nothing else is.

The operation is `fetch_slice` of `GraphSliceClient`.
-/
import CodeAtlas.Proofs.Graph.Decoded
import CodeAtlas.Proofs.Source.Delivery

namespace CodeAtlas

open CodeAtlas.Graph (Slice)
open Text (splitOn isDot isDotDot)

/-- The reply to a request for a resource calls for this outcome. -/
inductive Reply.CallsFor (levels : Nat) (resource : String) : Reply → Except Fault Slice → Prop
  /-- The network breaks down: a failure without a status, with a cause. -/
  | network (kind message reason : String) :
      CallsFor levels resource (.broken (.network kind message))
        (.error (.fetch ⟨.str resource, .null, .str reason⟩ (some (.network kind message))))
  /-- The status is none of success: a failure with it and without a reason. -/
  | status {status : Int} (body : List UInt8) (h : status < 200 ∨ 299 < status) :
      CallsFor levels resource (.answer status body)
        (.error (.fetch ⟨.str resource, .int status, .null⟩ none))
  /-- The body is an object: the slice that it describes. -/
  | slice {status : Int} {body : List UInt8} {fields : Table String Value} {s : Slice}
      (hstatus : 200 ≤ status ∧ status ≤ 299)
      (hbody : Json.readBytes levels body = .ok (.dict fields))
      (hs : Slice.ofDocument (.dict fields) = .ok s) :
      CallsFor levels resource (.answer status body) (.ok s)
  /-- The body is anything else: a failure with a status and a reason. -/
  | unreadable {status : Int} {body : List UInt8} (reason : String) (cause : Option Fault)
      (hstatus : 200 ≤ status ∧ status ≤ 299)
      (hbody : ∀ fields, Json.readBytes levels body ≠ .ok (.dict fields)) :
      CallsFor levels resource (.answer status body)
        (.error (.fetch ⟨.str resource, .int status, .str reason⟩ cause))

namespace Service

variable {levels : Nat}

/-! ## Bodies -/

theorem isSuccess_iff {status : Int} : isSuccess status = true ↔ 200 ≤ status ∧ status ≤ 299 := by
  simp [isSuccess]

/-- Only objects are slices. -/
theorem exists_dict_of_ofDocument {v : Value} {s : Slice} (h : Slice.ofDocument v = .ok s) :
    ∃ fields, v = .dict fields := by
  cases v with
  | dict fields => exact ⟨fields, rfl⟩
  | _ => cases h

/-- A body is a slice exactly if it is an object. -/
theorem exists_readBody_iff {body : List UInt8} :
    (∃ s, readBody levels body = .ok s)
      ↔ ∃ fields, Json.readBytes levels body = .ok (.dict fields) := by
  constructor
  · rintro ⟨s, hs⟩
    obtain ⟨v, hv, hdocument⟩ := readBody_eq_ok_iff.mp hs
    obtain ⟨fields, rfl⟩ := exists_dict_of_ofDocument hdocument
    exact ⟨fields, hv⟩
  · rintro ⟨fields, hfields⟩
    obtain ⟨s, hs⟩ := Graph.exists_ofDocument (Json.isDecoded_of_readBytes hfields)
    exact ⟨s, readBody_eq_ok_iff.mpr ⟨_, hfields, hs⟩⟩

/-- What is made of a reply is what the reply calls for. -/
theorem callsFor_outcomeOf {sent : Request} {reply : Reply} (resource : String)
    (hscheme : schemeFault? sent.target.text = none) (hnetwork : reply.IsFromNetwork)
    (hdeep : ¬ reply.IsTooDeep levels) :
    reply.CallsFor levels resource (outcomeOf levels resource sent reply) := by
  cases reply with
  | broken fault =>
    cases fault with
    | network kind message => exact .network kind message _
    | _ => exact hnetwork.elim
  | answer status body =>
    unfold outcomeOf
    rw [hscheme]
    dsimp only
    cases hsuccess : isSuccess status with
    | false =>
      refine .status body ?_
      rw [← Bool.not_eq_true, isSuccess_iff] at hsuccess
      omega
    | true =>
      cases hbody : readBody levels body with
      | ok s =>
        obtain ⟨v, hv, hs⟩ := readBody_eq_ok_iff.mp hbody
        obtain ⟨fields, rfl⟩ := exists_dict_of_ofDocument hs
        exact .slice (isSuccess_iff.mp hsuccess) hv hs
      | error fault =>
        obtain ⟨words, hcontent⟩ : ∃ words, contentFault? fault = some words := by
          rcases fault_of_readBody hbody with hcontent | ⟨container, -, hread⟩
          · exact hcontent
          · exact absurd ⟨status, body, container, rfl, hsuccess, hread⟩ hdeep
        have hobject : ∀ fields, Json.readBytes levels body ≠ .ok (.dict fields) := by
          intro fields hfields
          obtain ⟨s, hs⟩ := exists_readBody_iff.mpr ⟨fields, hfields⟩
          rw [hbody] at hs
          cases hs
        dsimp only
        rw [bodyFailure, hcontent]
        exact .unreadable _ _ (isSuccess_iff.mp hsuccess) hobject

/-! ## Fetching -/

/-- A request that can be made is sent, once. -/
theorem requests_of_request {s : Service} (levels : Nat) (transport : Transport) {resource : String}
    {path : List Char} {params : Option (Table String Value)} {sent : Request}
    (hpath : resourcePath? resource.toList = some path)
    (h : s.request path params = .ok sent) :
    (s.fetchWith levels transport resource params).requests = [sent] := by
  rw [fetchWith, hpath]
  dsimp only
  rw [h]
  dsimp only
  split <;> rfl

/-- A resource is refused for a dot segment and for nothing else. -/
theorem resourcePath?_eq_none_iff {resource : List Char} :
    resourcePath? resource = none ↔
      ∃ piece ∈ splitOn '/' (resource.dropWhile (· = '/')), piece = ['.'] ∨ piece = ['.', '.'] := by
  have hdots : ∀ piece : List Char,
      (isDot piece || isDotDot piece) = true ↔ piece = ['.'] ∨ piece = ['.', '.'] := by
    intro piece
    simp [isDot, isDotDot]
  unfold resourcePath?
  dsimp only
  split
  · next hany =>
    obtain ⟨piece, hpiece, h⟩ := List.any_eq_true.mp hany
    exact iff_of_true rfl ⟨piece, hpiece, (hdots piece).mp h⟩
  · next hnone =>
    refine iff_of_false (fun h => by cases h) ?_
    rintro ⟨piece, hpiece, h⟩
    exact hnone (List.any_eq_true.mpr ⟨piece, hpiece, (hdots piece).mpr h⟩)

/-- A resource without dot segments is asked for by its path. -/
theorem resourcePath?_of_isName {resource : List Char}
    (h : ∀ piece ∈ splitOn '/' (resource.dropWhile (· = '/')), Url.isName piece = true) :
    resourcePath? resource = some (resource.dropWhile (· = '/')) := by
  have hsome : resourcePath? resource ≠ none := by
    rw [Ne, resourcePath?_eq_none_iff]
    rintro ⟨piece, hpiece, hdots⟩
    have hname := h piece hpiece
    rcases hdots with rfl | rfl <;> exact absurd hname (by decide)
  obtain ⟨path, hpath⟩ := Option.ne_none_iff_exists'.mp hsome
  rw [hpath, (isName_of_resourcePath? hpath).1]

/-- **One request, one outcome.** A service at a URL of its own, which can be asked for by
itself, refuses resources with a dot segment and sends nothing for them. For any other
resource that makes a URL it sends one request, if that is not too long, and the outcome is
what the reply calls for. -/
theorem fetch_outcome_follows_reply (s : Service) (levels : Nat) (transport : Transport)
    (resource text : String) (base b : Url) (sent₀ : Request) (hs : s.baseUrl = .str text)
    (hparse : Url.parse text.toList = .ok base) (habs : base.isAbsolute = true)
    (hb : s.base = .ok b) (hsent₀ : s.request [] none = .ok sent₀)
    (hnetwork : ∀ request, (transport request).IsFromNetwork)
    (hdeep : ∀ request, ¬ (transport request).IsTooDeep levels) :
    ((∃ piece ∈ splitOn '/' (resource.toList.dropWhile (· = '/')),
          piece = ['.'] ∨ piece = ['.', '.']) →
        (s.fetchWith levels transport resource none).requests = []
          ∧ (s.fetchWith levels transport resource none).outcome = .error (.fetch
              ⟨.str resource, .null, .str "resource escapes the service base path"⟩ none))
      ∧ ((¬ ∃ piece ∈ splitOn '/' (resource.toList.dropWhile (· = '/')),
            piece = ['.'] ∨ piece = ['.', '.']) →
          ∀ r, Url.parse (resource.toList.dropWhile (· = '/')) = .ok r →
            (r.isAbsolute = false →
              (b.rawPath ++ r.rawPath.dropWhile (· = '/')).length ≤ Url.lengthLimit) →
            ∃ sent, b.join r = .ok sent.target
              ∧ (s.fetchWith levels transport resource none).requests = [sent]
              ∧ (transport sent).CallsFor levels resource
                  (s.fetchWith levels transport resource none).outcome) := by
  rw [← resourcePath?_eq_none_iff]
  constructor
  · intro hnone
    rw [fetchWith, hnone]
    exact ⟨rfl, rfl⟩
  · intro hsome r hr hlength
    obtain ⟨path, hpath⟩ := Option.ne_none_iff_exists'.mp hsome
    obtain ⟨rfl, -⟩ := isName_of_resourcePath? hpath
    obtain ⟨-, -, -, htimeout, -, -⟩ := request_eq_ok_iff.mp hsent₀
    obtain ⟨sent, hsent, hjoin⟩ :=
      exists_request_of_parse hs hparse habs htimeout hb hsent₀ hr hlength
    refine ⟨sent, hjoin, requests_of_request levels transport hpath hsent, ?_⟩
    rw [outcome_of_request levels transport hpath hsent]
    exact callsFor_outcomeOf resource (schemeFault?_target hs hparse habs hsent) (hnetwork sent)
      (hdeep sent)

/-- A service that answers with a list, asked for a resource with a blank, a query and a
fragment. -/
theorem fetch_outcome_follows_reply_list :
    ∃ sent, (Service.fetchWith { baseUrl := .str "http://graph.test/api/graph" } 1000
          (fun _ => .answer 200 [91, 93]) "//a b?c=d#e" none).requests = [sent]
      ∧ (Reply.answer 200 [91, 93]).CallsFor 1000 "//a b?c=d#e"
          (Service.fetchWith { baseUrl := .str "http://graph.test/api/graph" } 1000
            (fun _ => .answer 200 [91, 93]) "//a b?c=d#e" none).outcome := by
  have hdeep : ¬ (Reply.answer 200 [91, 93]).IsTooDeep 1000 := by
    rintro ⟨status, body, container, hanswer, -, hread⟩
    cases hanswer
    have hok : (Json.readBytes 1000 [91, 93]).isOk = true := by decide +kernel
    rw [hread] at hok
    cases hok
  obtain ⟨-, hfetch⟩ := fetch_outcome_follows_reply
    { baseUrl := .str "http://graph.test/api/graph" } 1000 (fun _ => .answer 200 [91, 93])
    "//a b?c=d#e" "http://graph.test/api/graph" _ _ _ rfl rfl rfl rfl rfl (fun _ => trivial)
    (fun _ => hdeep)
  obtain ⟨sent, -, hsent, hcalls⟩ := hfetch (by decide) _ rfl (fun _ => by decide)
  exact ⟨sent, hsent, hcalls⟩

end Service

end CodeAtlas
