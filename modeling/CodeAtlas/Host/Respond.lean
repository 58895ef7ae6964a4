/-
CodeAtlas.Host.Respond — answering visitors.

Every visit starts with an empty view, fills it from the source that the
settings name, and answers with the page that shows it or with the view as JSON.
A source or visualizer that is not installed is reported and shown as a failure;
settings that cannot be read, and plugins that cannot be built, are not caught
(`HostError`), and neither is what escapes when a view is filled.

The two pages are given for any way to find a source (`indexFrom`,
`sliceViewFrom`); `index` and `sliceView` take the one of the host.

In the program these are `index` and `slice_view`, with `build_source` and
`build_visualizer`.
-/
import CodeAtlas.Host.Address
import CodeAtlas.Host.Page
import CodeAtlas.Host.Route
import CodeAtlas.Plugin.Registry
import CodeAtlas.View.Populate

namespace CodeAtlas

open Json (WriteError)
open Plugin (Catalogue LookupError Registry)
open Storage (Codecs Disk)

/-- How deep containers may nest at each place where the host reads or writes JSON: what
the call stack has left there. The places are reached by different chains of calls, and
a source may read on a stack of its own, so none of the numbers follows from another. -/
structure Levels where
  /-- Where the body of a service is read. -/
  body : Nat
  /-- Where a slice file is read. -/
  file : Nat
  /-- Where the data of a drawing are written. -/
  drawing : Nat
  /-- Where an answer is written. -/
  answer : Nat

/-- What a host works with: its settings, what is installed, the disk, the way to the
service, and what the call stack leaves for nested data. -/
structure Host where
  settings : Value
  catalogue : Catalogue Plugin.Component
  disk : Disk
  transport : Transport
  levels : Levels

namespace Host

/-- Why a visit has no answer. -/
inductive HostError where
  | address (cause : AddressError)
  | settings (cause : SettingsError)
  | lookup (cause : LookupError)
  | drawing (cause : DrawingError)
  | unwritable (cause : WriteError)
  | escaped (cause : Escape)
  /-- The plugin cannot draw. -/
  | lacks (kind operation : String)

def HostError.message : HostError → String
  | .address cause => cause.message
  | .settings cause => cause.message
  | .lookup cause => cause.message
  | .drawing cause => cause.message
  | .unwritable cause => cause.message
  | .escaped cause => cause.message
  | .lacks kind operation => Fault.lacksText kind operation

/-- What a body is. -/
inductive ContentType where
  | html
  | json
  deriving DecidableEq

def ContentType.name : ContentType → String
  | .html => "text/html; charset=utf-8"
  | .json => "application/json"

/-- The answer to a visit. -/
inductive Response where
  | content (status : Nat) (type : ContentType) (body : List Char)
  | bare (status : Nat)

/-- The answer to a visit, or why there is none, with what was sent and
reported. -/
structure Visit (α : Type) where
  outcome : Except HostError α
  requests : List Request := []
  log : List LogEntry := []

namespace Visit

/-- Go on with what came out. -/
def andThen {α β : Type} (v : Visit α) (next : α → Visit β) : Visit β :=
  match v.outcome with
  | .error e => ⟨.error e, v.requests, v.log⟩
  | .ok a =>
      let w := next a
      ⟨w.outcome, v.requests ++ w.requests, v.log ++ w.log⟩

/-- Nothing sent and nothing reported. -/
def quiet {α : Type} (outcome : Except HostError α) : Visit α := ⟨outcome, [], []⟩

end Visit

/-! ## Plugins -/

/-- The plugin that settings name, found in a fresh registry. -/
def lookup (host : Host) (settings : Settings) (role : Plugin.Role) (name : Value) :
    List LogEntry × Except LookupError Plugin :=
  let found := (Registry.ofRole role).discover host.catalogue
  match found.interruption with
  | some cause => (found.log, .error (.interrupted cause))
  | none => (found.log, found.registry.plugin (Plugin.buildFrom settings) name)

/-- A plugin as a source. -/
def sourceOf (host : Host) : Plugin → Source
  | .service s => s.source host.levels.body host.transport
  | .directory d => d.source host.levels.file Codecs.standard host.disk
  | other => .broken (.lacks other.component.name "fetch_slice")

/-- A way from settings to a source, with what is reported on the way. -/
abbrev Search := Settings → List LogEntry × Except LookupError Source

/-- The source that settings name, or the service. -/
def findSource (host : Host) : Search := fun settings =>
  if settings.source.isTruthy then
    let (log, found) := lookup host settings .source settings.source
    (log, found.map (sourceOf host))
  else ([], .ok (sourceOf host (.service (Plugin.serviceOf settings))))

/-- The visualizer that settings name, or the drawing. -/
def findVisualizer (host : Host) (settings : Settings) :
    List LogEntry × Except LookupError Plugin :=
  if settings.visualizer.isTruthy then
    lookup host settings .visualizer settings.visualizer
  else ([], .ok (.drawing Drawing.defaultHeight))

/-! ## Views -/

/-- The outcome of filling a view, as far as a visitor sees it. -/
structure Shown where
  success : Bool
  message : String
  view : View
  report : Option SyncReport

/-- The report of a source that is not installed. -/
def noSourceEntry (resource : Value) (message : String) : LogEntry :=
  ⟨.error, .host, "No slice source for '" ++ resourceText resource ++ "': "
    ++ message⟩

/-- The report of a visualizer that is not installed. -/
def noVisualizerEntry (resource : Value) (message : String) : LogEntry :=
  ⟨.error, .host, "No visualizer for '" ++ resourceText resource ++ "': "
    ++ message⟩

/-- The report of a view that was not filled. -/
def partialEntry (resource : Value) (message : String) : LogEntry :=
  ⟨.warning, .host, "Serving partial view for '" ++ resourceText resource ++ "': "
    ++ message⟩

/-- The entries of a log that name a resource, if it can be written. -/
def naming (resource : Value) (entries : List LogEntry) : List LogEntry :=
  if resource.isWritable then entries else []

/-- Fill an empty view from a source. -/
def fillFrom (settings : Settings) (source : Source) (resource : Value) :
    Visit Shown :=
  let f := (View.empty resource).populate none (.int settings.nodeSize) source resource
  match f.result with
  | .ok o =>
      { outcome := .ok ⟨o.success, o.message, f.view, o.report⟩
        requests := f.requests
        log := f.log
          ++ if o.success then [] else naming resource [partialEntry resource o.message] }
  | .error e => ⟨.error (.escaped e), f.requests, f.log⟩

/-- Fill an empty view from the source that a search finds. -/
def fill (search : Search) (settings : Settings) (resource : Value) : Visit Shown :=
  match search settings with
  | (log, .ok source) =>
      let v := fillFrom settings source resource
      { v with log := log ++ v.log }
  | (log, .error (.notFound name group available)) =>
      let message := (LookupError.notFound name group available).message
      { outcome := .ok ⟨false, message, View.empty resource, none⟩
        log := log ++ naming resource [noSourceEntry resource message] }
  | (log, .error e) => ⟨.error (.lookup e), [], log⟩

/-! ## Pages -/

/-- The page of a view. -/
def pageOf (resource : Value) (success : Bool) (message : String)
    (drawing : List Char) : Response :=
  .content 200 .html (page (Page.name resource) success message.toList drawing)

/-- The page of a view that was filled or not. -/
def present (host : Host) (settings : Settings) (resource : Value) (s : Shown) :
    Visit Response :=
  match findVisualizer host settings with
  | (log, .ok (.drawing height)) =>
      match Drawing.draw host.levels.drawing height s.view with
      | .ok drawing => ⟨.ok (pageOf resource s.success s.message drawing), [], log⟩
      | .error e => ⟨.error (.drawing e), [], log⟩
  | (log, .ok other) =>
      ⟨.error (.lacks other.component.name "visualize"), [], log⟩
  | (log, .error (.notFound name group available)) =>
      -- Without a drawing, the page is where the resource is written first.
      let message := (LookupError.notFound name group available).message
      { outcome := if resource.isWritable then .ok (pageOf resource false message [])
          else .error (.escaped .tooLong)
        log := log ++ naming resource [noVisualizerEntry resource message] }
  | (log, .error e) => ⟨.error (.lookup e), [], log⟩

/-- The index page, filled from the source that a search finds. -/
def indexFrom (host : Host) (search : Search) (query : List Char) : Visit Response :=
  match Settings.ofValue host.settings with
  | .error e => .quiet (.error (.settings e))
  | .ok settings =>
      if hasTooManyFields query then .quiet (.ok (.bare 400))
      else
        let resource :=
          match queryValue? "resource" query with
          | some name => .str name
          | none => settings.resource
        (fill search settings resource).andThen (present host settings resource)

/-- The index page. -/
def index (host : Host) (query : List Char) : Visit Response :=
  host.indexFrom host.findSource query

/-- The document that answers for a view. -/
def payload (s : Shown) : Value :=
  .dict
    ([("success", .bool s.success), ("message", .str s.message),
      ("view", s.view.document)]
      ++ (match s.report with
          | some r => [("skipped_edges", .list r.skippedEdges)]
          | none => []))

/-- A view as JSON, filled from the source that a search finds. -/
def sliceViewFrom (host : Host) (search : Search) (resource : String) :
    Visit Response :=
  match Settings.ofValue host.settings with
  | .error e => .quiet (.error (.settings e))
  | .ok settings =>
      (fill search settings (.str resource)).andThen fun s =>
        match Json.write host.levels.answer .inline (payload s) with
        | .ok text =>
            .quiet (.ok (.content (if s.success then 200 else 502) .json text))
        | .error e => .quiet (.error (.unwritable e))

/-- A view as JSON. -/
def sliceView (host : Host) (resource : String) : Visit Response :=
  host.sliceViewFrom host.findSource resource

/-- Answer a visitor at an address. -/
def respond (host : Host) (address : List Char) : Visit Response :=
  match Address.parse address with
  | .error e => .quiet (.error (.address e))
  | .ok a =>
      match Route.ofPath a.pathText with
      | .index => index host a.query
      | .view resource => sliceView host resource
      | .unknown => .quiet (.ok (.bare 404))

end Host

end CodeAtlas
