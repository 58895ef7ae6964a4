/-
CodeAtlas.View.Populate — filling a view from a source.

One slice is fetched and brought into the view. What goes wrong is reported and
handed back with the result. A failed fetch leaves the view as it was; a view that
breaks off is left as far as it got.

A result holds words: those for the fault, or those that name the resource. If they
cannot be found, something escapes (`Filling.result`): for a fault that cannot be put
into words, and after a sync for a resource that is too long to be written. An entry of
the log that cannot be written is lost, and nothing else comes of that.

In the program this is `initialize`, with its `InitResult`.
-/
import CodeAtlas.View.Sync
import CodeAtlas.Source.Basic

namespace CodeAtlas

/-- The result of filling a view. -/
structure Outcome where
  success : Bool
  message : String
  report : Option SyncReport
  fault : Option Fault

/-- What came of filling a view: the view as it is left, the result or what escaped
instead, and what was sent and reported. -/
structure Filling where
  view : View
  result : Except Escape Outcome
  requests : List Request
  log : List LogEntry

namespace Outcome

/-- A view that could not be filled, if the fault can be put into words. -/
def failed (fault : Fault) : Except Escape Outcome :=
  match fault.message with
  | .ok words => .ok ⟨false, words, none, some fault⟩
  | .error e => .error e

/-- What is said of a slice that was brought in. -/
def syncedMessage (resource : Value) (r : SyncReport) : String :=
  "Synced '" ++ resourceText resource ++ "': "
    ++ toString r.nodesSynced.length ++ " node(s), "
    ++ toString r.edgesAdded.length ++ " edge(s), "
    ++ toString r.skippedEdges.length ++ " skipped."

/-- A view that was filled, if the resource can be named. -/
def synced (resource : Value) (r : SyncReport) : Except Escape Outcome :=
  if resource.isWritable then .ok ⟨true, syncedMessage resource r, some r, none⟩
  else .error .tooLong

end Outcome

namespace View

/-- The report of a view that could not be filled. -/
def failedEntry (v : View) (resource : Value) : LogEntry :=
  ⟨.error, .bootstrap, "Initializing view " ++ resourceText v.id ++ " from '"
    ++ resourceText resource ++ "' failed"⟩

/-- The report of edges that were skipped, if there are any. -/
def skippedEntries (v : View) (resource : Value) (r : SyncReport) :
    List LogEntry :=
  if r.skippedEdges.isEmpty then []
  else
    [⟨.info, .bootstrap, "View " ++ resourceText v.id ++ ": "
      ++ toString r.skippedEdges.length ++ " edge(s) of '"
      ++ resourceText resource ++ "' skipped, endpoint not in view"⟩]

/-- The report of a view that was filled. -/
def syncedEntry (v : View) (resource : Value) : LogEntry :=
  ⟨.info, .bootstrap, "View " ++ resourceText v.id ++ " synced from '"
    ++ resourceText resource ++ "' "
    ++ sizeText v.nodes.length v.edges.length⟩

/-- View and resource can be named in a report. -/
def canReport (v : View) (resource : Value) : Bool :=
  v.id.isWritable && resource.isWritable

/-- A view after it was to be filled. -/
def finish (v : View) (resource : Value) (fetched : Fetched) (entries : List LogEntry)
    (w : View) (result : Except Escape Outcome) : Filling :=
  ⟨w, result, fetched.requests,
    fetched.log ++ if v.canReport resource then entries else []⟩

/-- Fetch a resource and bring it into a view. -/
def populate (room : Option Nat) (size : Value) (v : View) (source : Source)
    (resource : Value) : Filling :=
  let fetched := source.fetch resource
  match fetched.outcome with
  | .error fault =>
      v.finish resource fetched [v.failedEntry resource] v (Outcome.failed fault)
  | .ok slice =>
      match v.syncWithin room size slice with
      | (w, .error e) =>
          v.finish resource fetched [w.failedEntry resource] w (Outcome.failed (.view e))
      | (w, .ok report) =>
          v.finish resource fetched
            (w.skippedEntries resource report ++ [w.syncedEntry resource]) w
            (Outcome.synced resource report)

end View

end CodeAtlas
