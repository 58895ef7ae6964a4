/-
CodeAtlas.Host.Route — what a visitor asks for.

There are two pages: the index at the root, which takes the name of a resource
from the query, and the view of a resource, named by the rest of the path.

In the program the two pages are `index` and `slice_view`. Taking a request
apart is left to a library, and modelled as far as the two can tell.
-/
import CodeAtlas.Text.Percent
import CodeAtlas.Text.Split

namespace CodeAtlas.Host

open Text (splitOn)

/-! ## Queries -/

/-- Read a text in which bytes are percent-encoded: each run of ASCII characters
is decoded on its own, with the replacement character for faults. -/
def decodeRuns : List Char → List Char → List Char
  | run, [] => Text.repairUtf8 (Text.percentDecode (Text.encodeUtf8 run.reverse))
  | run, c :: cs =>
      if c.toNat < 128 then decodeRuns (c :: run) cs
      else
        Text.repairUtf8 (Text.percentDecode (Text.encodeUtf8 run.reverse))
          ++ c :: decodeRuns [] cs

/-- Read a part of a query: a plus sign is a blank. -/
def decodePart (cs : List Char) : List Char :=
  decodeRuns [] (cs.map fun c => if c = '+' then ' ' else c)

/-- The fields of a query, in order. -/
def queryFields (query : List Char) : List (List Char × List Char) :=
  ((splitOn '&' query).filter (!·.isEmpty)).map fun field =>
    (decodePart (field.takeWhile (· ≠ '=')),
     decodePart ((field.dropWhile (· ≠ '=')).drop 1))

/-- The number of fields that a query may have. -/
def fieldLimit : Nat := 1000

/-- The query has more fields than it may have, empty ones included. -/
def hasTooManyFields (query : List Char) : Bool :=
  fieldLimit < (splitOn '&' query).length

/-- The last value of a field, if the field is there and not empty. -/
def queryValue? (name : String) (query : List Char) : Option String :=
  match ((queryFields query).filter (·.1 == name.toList)).getLast? with
  | some (_, value) => if value.isEmpty then none else some (String.ofList value)
  | none => none

/-! ## Pages -/

/-- What a visitor asks for. -/
inductive Route where
  | index
  | view (resource : String)
  | unknown
  deriving DecidableEq

/-- The path under which views are found. -/
def viewPath : List Char := "/api/view/".toList

/-- The page at a path. -/
def Route.ofPath (path : List Char) : Route :=
  if path = ['/'] then .index
  else
    let resource := path.drop viewPath.length
    if viewPath.isPrefixOf path && !resource.isEmpty && !resource.contains '\n' then
      .view (String.ofList resource)
    else .unknown

end CodeAtlas.Host
