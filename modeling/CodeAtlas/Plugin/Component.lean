/-
CodeAtlas.Plugin.Component — parts that can be chosen by name.

A component is a source of slices or a visualizer. Building one gives a plugin
that is ready for use, with the settings if there are some and with defaults
otherwise. The bare roles are components too, but cannot be built.

In the program the two roles are `SliceSource` and `VisualizerPlugin`, and
building is `from_config`.
-/
import CodeAtlas.Settings
import CodeAtlas.Source.Service
import CodeAtlas.Source.Directory
import CodeAtlas.View.Drawing

namespace CodeAtlas

/-- A plugin that is ready for use. -/
inductive Plugin where
  | service (s : Service)
  | directory (d : Directory)
  | drawing (height : Value)

namespace Plugin

/-- What a component is for. -/
inductive Role where
  | source
  | visualizer
  deriving DecidableEq

namespace Role

def name : Role → String
  | .source => "SliceSource"
  | .visualizer => "VisualizerPlugin"

/-- The group in which components of a role are installed. -/
def group : Role → String
  | .source => "codegraph.slice_source"
  | .visualizer => "codegraph.visualizer"

/-- What a plugin of the role has to be able to do. -/
def duties : Role → String
  | .source => "fetch_slice, get_plugin_name"
  | .visualizer => "get_plugin_name, visualize"

end Role

/-- A part that can be installed under a name. -/
inductive Component where
  | service
  | directory
  | drawing
  /-- A role without anyone to fill it. -/
  | bare (role : Role)
  deriving DecidableEq

namespace Component

def role : Component → Role
  | .service => .source
  | .directory => .source
  | .drawing => .visualizer
  | .bare role => role

def name : Component → String
  | .service => "GraphSliceClient"
  | .directory => "FileSliceSource"
  | .drawing => "HtmlVisualizer"
  | .bare role => role.name

end Component

/-- The component that a plugin was built from. -/
def component : Plugin → Component
  | .service _ => .service
  | .directory _ => .directory
  | .drawing _ => .drawing

/-- The title under which a plugin presents itself. -/
def title : Plugin → String
  | .service _ => "HTTP Graph Service"
  | .directory _ => "Local Slice Files"
  | .drawing _ => "HTML Force Layout"

/-- Why a component cannot be built. -/
inductive BuildError where
  | bare (role : Role)
  | settings (cause : DirectoryError)
  /-- A factory that is plugged in refused. -/
  | refused (reason : String)

def BuildError.message : BuildError → String
  | .bare role =>
      "Can't instantiate abstract class " ++ role.name ++ " with abstract methods "
        ++ role.duties
  | .settings cause => cause.message
  | .refused reason => reason

/-- A way to build plugins of type `α` from components of type `κ`. It may refuse, and
it may come back with nothing. -/
abbrev Factory (κ α : Type) := κ → Except BuildError (Option α)

/-- The directory that settings name. -/
def directoryOf (sliceDir : Value) : Except BuildError Plugin :=
  match Directory.ofValues sliceDir Directory.defaultExtension with
  | .ok d => .ok (.directory d)
  | .error cause => .error (.settings cause)

/-- The service that settings name. -/
def serviceOf (settings : Settings) : Service := ⟨settings.baseUrl, settings.timeout⟩

/-- Build a component from settings. -/
def buildFrom (settings : Settings) : Factory Component Plugin
  | .service => .ok (some (.service (serviceOf settings)))
  | .directory => (directoryOf settings.sliceDir).map some
  | .drawing => .ok (some (.drawing Drawing.defaultHeight))
  | .bare role => .error (.bare role)

/-- Build a component, from settings if there are some. -/
def build (settings : Option Settings) : Factory Component Plugin :=
  buildFrom (settings.getD {})

end Plugin

end CodeAtlas
