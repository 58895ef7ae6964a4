/-
CodeAtlas.Source.Service — slices from a graph service.

Each fetch is one GET below the base URL of the service, without another try.
A resource with a dot segment is refused before anything is sent, since it would
climb out of the base. The answer has to have a status of success and a body
that is a slice document; what is wrong with either, or with the network, is the
reason of the failure.

The service is reached through a `Transport`, a function from requests to
replies.

In the program a service is a `GraphSliceClient`.
-/
import CodeAtlas.Source.Basic

namespace CodeAtlas

open CodeAtlas.Graph (Slice)
open Text (splitOn isDot isDotDot)

/-- What comes back for a request. -/
inductive Reply where
  | answer (status : Int) (body : List UInt8)
  | broken (fault : Fault)

/-- The way to a service. -/
abbrev Transport := Request → Reply

/-- A graph service: where it is, and how long to wait for it. -/
structure Service where
  baseUrl : Value := .str "http://localhost:8080/api/graph"
  timeout : Value := .null

namespace Service

/-- A service in one line, unless an integer in its base is too long. -/
def text? (s : Service) : Option String :=
  s.baseUrl.text?.map fun base => "GraphSliceClient(base_url='" ++ base ++ "')"

/-! ## Requests -/

/-- The path of a resource below the base, unless it has a dot segment. -/
def resourcePath? (resource : List Char) : Option (List Char) :=
  let path := resource.dropWhile (· = '/')
  if (splitOn '/' path).any fun piece => isDot piece || isDotDot piece then none
  else some path

/-- The base URL of a service. -/
def base (s : Service) : Except Fault Url :=
  match s.baseUrl with
  | .str text =>
      match Url.parse text.toList with
      | .error e => .error (.url e)
      | .ok u =>
          match u.asBase with
          | .error e => .error (.url e)
          | .ok u => .ok u
  | other =>
      if other.isWritable then .error (.baseNotText other) else .error .baseTooLong

/-- The time to wait for an answer: a tuple gives one for each phase. -/
def readTimeout : Value → Except Fault Value
  | .tuple (_ :: t :: _) => .ok t
  | .tuple _ => .error .shortTimeout
  | t => .ok t

/-- Replace the query by parameters, if there are any. -/
def withParams (u : Url) : Option (Table String Value) → Except Fault Url
  | none => .ok u
  | some params =>
      if Url.areWritable params then
        match u.withQuery (Url.queryOf params) with
        | .error e => .error (.url e)
        | .ok u => .ok u
      else .error .parameterTooLong

/-- The URL of a path below the base. -/
def target (base : Url) (path : List Char) : Except Fault Url :=
  match Url.parse path with
  | .error e => .error (.url e)
  | .ok resource =>
      match base.join resource with
      | .error e => .error (.url e)
      | .ok u => .ok u

/-- The request for a path below the base. -/
def request (s : Service) (path : List Char) (params : Option (Table String Value)) :
    Except Fault Request := do
  let base ← s.base
  let timeout ← readTimeout s.timeout
  let u ← target base path
  let u ← withParams u params
  return ⟨u, timeout⟩

/-! ## Answers -/

/-- The status says that the request was successful. -/
def isSuccess (status : Int) : Bool := 200 ≤ status && status ≤ 299

/-- A body that nests at most `levels` deep, as a slice. -/
def readBody (levels : Nat) (body : List UInt8) : Except Fault Slice :=
  match Json.readBytes levels body with
  | .error (.encoding e) => .error (.encoding e)
  | .error (.text e) => .error (.document e)
  | .ok v =>
      match Slice.ofDocument v with
      | .error e => .error (.slice e)
      | .ok s => .ok s

/-- What is wrong with the content of a body; its depth is no matter of content. -/
def contentFault? : Fault → Option String
  | .encoding cause => some cause.message
  | .document (.tooDeep _) => none
  | .document cause => some cause.message
  | .slice cause => some cause.message
  | _ => none

/-- A fault in a body as a failure of the fetch. -/
def bodyFailure (resource : String) (status : Int) (fault : Fault) : Fault :=
  match contentFault? fault with
  | some words =>
      .fetch ⟨.str resource, .int status, .str ("unreadable body: " ++ words)⟩ (some fault)
  | none => fault

/-- A URL before its last mark of a fragment, and what follows the mark. -/
def splitFragment (url : List Char) : List Char × List Char :=
  match url.reverse.dropWhile (· ≠ '#') with
  | _ :: before => (before.reverse, (url.reverse.takeWhile (· ≠ '#')).reverse)
  | [] => (url, [])

/-- The URL names a scheme. -/
def hasScheme (url : List Char) : Bool :=
  let rest := url.dropWhile fun c => c ≠ '/' && c ≠ ':'
  rest.head? = some ':' && rest.length < url.length

/-- A URL without scheme, as it is refused: an empty fragment is not shown. -/
def schemeFault? (url : List Char) : Option Fault :=
  let (before, fragment) := splitFragment url
  if hasScheme before then none
  else some (.unknownScheme (if fragment.isEmpty then before else url))

/-- What to make of a reply. -/
def outcomeOf (levels : Nat) (resource : String) (sent : Request) :
    Reply → Except Fault Slice
  | .broken (.network kind message) =>
      .error (.fetch
        ⟨.str resource, .null, .str (kind ++ ": " ++ message)⟩
        (some (.network kind message)))
  | .broken fault => .error fault
  | .answer status body =>
      match schemeFault? sent.target.text with
      | some fault => .error fault
      | none =>
          if !isSuccess status then
            .error (.fetch ⟨.str resource, .int status, .null⟩ none)
          else
            match readBody levels body with
            | .ok s => .ok s
            | .error fault => .error (bodyFailure resource status fault)

/-! ## Fetching -/

/-- The report of a slice that was fetched. -/
def fetchedEntry (resource : String) (s : Slice) : LogEntry :=
  ⟨.info, .service, "Fetched '" ++ resource ++ "' "
    ++ sizeText s.nodes.length s.edges.length⟩

/-- Fetch a resource, with parameters or without. The body may nest `levels` deep. -/
def fetchWith (s : Service) (levels : Nat) (transport : Transport) (resource : String)
    (params : Option (Table String Value)) : Fetched :=
  match resourcePath? resource.toList with
  | none =>
      { outcome := .error (.fetch
          ⟨.str resource, .null, .str "resource escapes the service base path"⟩
          none) }
  | some path =>
      match s.request path params with
      | .error fault => { outcome := .error fault }
      | .ok sent =>
          match outcomeOf levels resource sent (transport sent) with
          | .error fault => { outcome := .error fault, requests := [sent] }
          | .ok slice =>
              { outcome := .ok slice
                requests := [sent]
                log := [fetchedEntry resource slice] }

/-- Fetch a resource that is given as a value. -/
def fetchValue (s : Service) (levels : Nat) (transport : Transport) (resource : Value)
    (params : Option (Table String Value)) : Fetched :=
  match resource with
  | .str text => s.fetchWith levels transport text params
  | other => { outcome := .error (.lacks other.kind "lstrip") }

/-- The service as a source. -/
def source (s : Service) (levels : Nat) (transport : Transport) : Source :=
  ⟨fun resource => s.fetchValue levels transport resource none⟩

/-! ## Endpoints -/

/-- A name as one segment of a path. -/
def segment (name : String) : String :=
  String.ofList (Text.percentEncode Text.isUnreserved name.toList)

/-- The graph of all packages. -/
def fetchPackages (s : Service) (levels : Nat) (transport : Transport) : Fetched :=
  s.fetchWith levels transport "packages" none

/-- The classes of a package. -/
def fetchClasses (s : Service) (levels : Nat) (transport : Transport) :
    (package : Value) → Fetched
  | .str name =>
      s.fetchWith levels transport ("packages/" ++ segment name ++ "/classes") none
  | _ => { outcome := .error .nameNotText }

/-- The nodes within some steps of a node. -/
def fetchNeighborhood (s : Service) (levels : Nat) (transport : Transport)
    (node depth : Value) : Fetched :=
  match node with
  | .str name =>
      s.fetchWith levels transport ("nodes/" ++ segment name ++ "/neighborhood")
        (some [("depth", depth)])
  | _ => { outcome := .error .nameNotText }

/-- The most expensive nodes. -/
def fetchHotspots (s : Service) (levels : Nat) (transport : Transport) (limit : Value) :
    Fetched :=
  s.fetchWith levels transport "hotspots" (some [("limit", limit)])

end Service

end CodeAtlas
