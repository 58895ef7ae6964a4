/-
CodeAtlas.Log — what the library reports while it works.

Functions that report return their entries with their result, in the order in
which they arose.
-/
namespace CodeAtlas

/-- How grave an entry is. -/
inductive LogLevel where
  | info | warning | error
  deriving DecidableEq

/-- The part of the library that reports. -/
inductive LogOrigin where
  | service | files | bootstrap | plugins | host
  deriving DecidableEq

/-- One entry of a log. -/
structure LogEntry where
  level : LogLevel
  origin : LogOrigin
  message : String
  deriving DecidableEq

def LogLevel.name : LogLevel → String
  | .info => "INFO"
  | .warning => "WARNING"
  | .error => "ERROR"

def LogOrigin.name : LogOrigin → String
  | .service => "codegraph_view.client"
  | .files => "codegraph_view.services.slice_loader"
  | .bootstrap => "codegraph_view.bootstrap"
  | .plugins => "codegraph_view.plugin_loader"
  | .host => "codegraph_web.views"

/-- An entry in one line. -/
def LogEntry.text (e : LogEntry) : String :=
  e.level.name ++ " " ++ e.origin.name ++ ": " ++ e.message

end CodeAtlas
