/-
CodeAtlas.Source.Basic — where slices come from.

A source is asked for a resource and answers with a slice or a fault. What it
sent over the network and what it reported come with the answer.

In the program this is `fetch_slice` of a `SliceSource`.
-/
import CodeAtlas.Source.Fault
import CodeAtlas.Log

namespace CodeAtlas

open CodeAtlas.Graph (Slice)

/-- A request to a graph service: what is asked for, and how long to wait. -/
structure Request where
  target : Url
  timeout : Value
  deriving DecidableEq

/-- The answer of a source. -/
structure Fetched where
  outcome : Except Fault Slice
  requests : List Request := []
  log : List LogEntry := []

/-- Where slices come from. -/
structure Source where
  fetch : (resource : Value) → Fetched

/-- A resource in a report. -/
def resourceText (resource : Value) : String := String.ofList resource.text

/-- The size of a slice in a report. -/
def sizeText (nodes edges : Nat) : String :=
  "(" ++ toString nodes ++ " nodes, " ++ toString edges ++ " edges)"

/-- A source that has one slice for every resource. -/
def Source.constant (s : Slice) : Source := ⟨fun _ => { outcome := .ok s }⟩

/-- A source that always fails in the same way. -/
def Source.broken (fault : Fault) : Source := ⟨fun _ => { outcome := .error fault }⟩

end CodeAtlas
