/-
CodeAtlas.Url.Join — resources below a base URL.

A base URL is given a slash at its end. A resource that is a URL of its own,
with scheme and host, takes the place of the base; of any other resource the
path and query, without leading slashes, are appended to those of the base, and
the result is normalized again.

Parameters, if there are any, replace the query by the fields of a form.

In the program this is what the HTTP library of `GraphSliceClient` makes of a
base and a path.
-/
import CodeAtlas.Url.Basic
import CodeAtlas.Value.Display

namespace CodeAtlas.Url

/-- Give a base URL a slash at its end. -/
def asBase (u : Url) : Except UrlError Url :=
  if u.rawPath.getLast? = some '/' then .ok u else u.withPath (u.rawPath ++ ['/'])

/-- A URL of its own. -/
def isAbsolute (u : Url) : Bool := !u.scheme.isEmpty && !u.host.isEmpty

/-- Put a resource below a base URL. -/
def join (base resource : Url) : Except UrlError Url :=
  if resource.isAbsolute then .ok resource
  else base.withPath (base.rawPath ++ resource.rawPath.dropWhile (· = '/'))

/-! ## Parameters -/

/-- A parameter as text. -/
def parameterText : Value → List Char
  | .null => []
  | .bool b => (if b then "true" else "false").toList
  | v => v.text

/-- The values of a parameter: a list repeats it. -/
def parameterValues : Value → List Value
  | .list items | .tuple items => items
  | v => [v]

/-- One field of a form. -/
def formField (key : String) (v : Value) : List Char :=
  Text.formEncode key.toList ++ '=' :: Text.formEncode (parameterText v)

/-- The query that parameters stand for: none without parameters. -/
def queryOf (params : Table String Value) : Option (List Char) :=
  if params.isEmpty then none
  else some (List.intercalate ['&']
    (params.flatMap fun (k, v) => (parameterValues v).map (formField k)))

/-- All integers in the parameters are short enough to be written. -/
def areWritable (params : Table String Value) : Bool :=
  params.all fun p => p.2.isWritable

end CodeAtlas.Url
