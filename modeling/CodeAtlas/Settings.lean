/-
CodeAtlas.Settings — where slices come from and how they are shown.

Settings are read from a mapping with names in capitals. A name that is missing
has a default, other names are ignored, and most values are taken as they are;
only the size of nodes has to be an integer or a value that stands for one.
Something that is no mapping counts as an empty one if it is not set.

`Environment` are the settings of a host whose environment says where the
service and the slice files are.

In the program this is `from_mapping` of `ViewerConfig`.
-/
import CodeAtlas.Graph.Format
import CodeAtlas.Value.Conversion

namespace CodeAtlas

open CodeAtlas.Graph (Format)
open Value (ConversionError)

/-- Where slices come from and how they are shown. -/
structure Settings where
  baseUrl : Value := .str "http://localhost:8080/api/graph"
  timeout : Value := .null
  format : Format := {}
  resource : Value := .str "packages"
  nodeSize : Int := 5
  sliceDir : Value := .str "."
  source : Value := .null
  visualizer : Value := .null

/-- Why a value is no settings. -/
inductive SettingsError where
  | notAMapping (kind : String)
  | nodeSize (cause : ConversionError)

def SettingsError.message : SettingsError → String
  | .notAMapping kind => "'" ++ kind ++ "' object has no attribute 'get'"
  | .nodeSize cause => cause.message

namespace Settings

/-- Settings from the fields of a mapping. -/
def ofFields (fields : Table String Value) : Except SettingsError Settings :=
  let standard : Settings := {}
  let get (key : String) (default : Value) : Value := (fields.get? key).getD default
  match (get "NODE_SIZE" (.int standard.nodeSize)).toInteger with
  | .error cause => .error (.nodeSize cause)
  | .ok size => .ok
      { baseUrl := get "BASE_URL" standard.baseUrl
        timeout := get "TIMEOUT" standard.timeout
        resource := get "RESOURCE" standard.resource
        nodeSize := size
        sliceDir := get "SLICE_DIR" standard.sliceDir
        source := get "SOURCE" standard.source
        visualizer := get "VISUALIZER" standard.visualizer }

/-- Settings from a value. -/
def ofValue (v : Value) : Except SettingsError Settings :=
  if v.isTruthy then
    match v with
    | .dict fields => ofFields fields
    | other => .error (.notAMapping other.kind)
  else ofFields []

end Settings

/-- The settings that a host takes from its environment. -/
structure Environment where
  secretKey : String
  debug : Bool
  values : Table String Value

namespace Environment

/-- Read the variables of an environment. -/
def ofVariables (vars : Table String String) : Environment :=
  let get (key default : String) : String := (vars.get? key).getD default
  { secretKey := get "CODEGRAPH_SECRET_KEY" "codegraph-dev-only"
    debug := get "CODEGRAPH_DEBUG" "" == "1"
    values :=
      [("BASE_URL", .str (get "CODEGRAPH_BASE_URL" "http://localhost:8080/api/graph")),
       ("RESOURCE", .str "packages"),
       ("NODE_SIZE", .int 5),
       ("SLICE_DIR", .str (get "CODEGRAPH_SLICE_DIR" "."))] }

end Environment

end CodeAtlas
