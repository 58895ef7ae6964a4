/-
CodeAtlas.Plugin.Call — using a registry.

Every call first makes sure that the group has been scanned, and is answered
from the components that are known then. Only `reload` scans a group that has
been scanned before. Between two calls the catalogue may change; a registry does
not see that until it is told to reload. What comes of building a component may
change too, so every `Use` of a registry has a catalogue and a factory of its own.

Main definitions: `Registry.answerTo`, what a registry that has been scanned
answers; `Registry.call`, one call; `Registry.run`, calls one after the other.

In the program these are the operations of `PluginLoader` other than `discover`.
-/
import CodeAtlas.Plugin.Registry

namespace CodeAtlas.Plugin

/-- What a registry can be asked. -/
inductive Call where
  | discover
  | reload
  | get (name : Value)
  | require (name : Value)
  | all
  | names
  | size
  | has (name : Value)

/-- What a registry answers. -/
inductive Answer (κ α : Type) where
  | components (known : Table String κ)
  | found (plugin? : Option α)
  | required (plugin : α)
  | all (plugins : List (String × Option α))
  | names (names : List String)
  | size (n : Nat)
  | has (present : Bool)

/-- A registry after a call, with the answer, and with what was scanned and
reported. -/
structure Called (κ α : Type) where
  registry : Registry κ
  answer : Except LookupError (Answer κ α)
  scans : List String
  log : List LogEntry

variable {κ α : Type}

namespace Registry

/-- The answer of a registry that has been scanned. -/
def answerTo (factory : Factory κ α) (r : Registry κ) :
    Call → Except LookupError (Answer κ α)
  | .discover => .ok (.components r.components)
  | .reload => .ok (.components r.components)
  | .get name => (r.plugin? factory name).map .found
  | .require name => (r.plugin factory name).map .required
  | .all => .ok (.all (r.plugins factory))
  | .names => .ok (.names r.names)
  | .size => .ok (.size r.components.length)
  | .has name => (r.contains name).map .has

/-- What a registry that has been scanned reports when it answers. -/
def reportsOf (factory : Factory κ α) (r : Registry κ) : Call → List LogEntry
  | .all => r.failures factory
  | _ => []

/-- The scan that a call brings with it, if any. -/
def prepare (catalogue : Catalogue κ) (r : Registry κ) : Call → Discovery κ
  | .reload => r.reload catalogue
  | _ => r.discover catalogue

/-- Call a registry while a catalogue is installed. A scan that is broken off leaves
the call without an answer. -/
def call (factory : Factory κ α) (catalogue : Catalogue κ) (r : Registry κ) (c : Call) :
    Called κ α :=
  let d := r.prepare catalogue c
  match d.interruption with
  | some cause => ⟨d.registry, .error (.interrupted cause), d.scans, d.log⟩
  | none =>
      { registry := d.registry
        answer := d.registry.answerTo factory c
        scans := d.scans
        log := d.log ++ d.registry.reportsOf factory c }

end Registry

/-- A call at some time: the catalogue that is installed then, and how components
can be built. -/
structure Use (κ α : Type) where
  catalogue : Catalogue κ
  factory : Factory κ α
  call : Call

/-- Use a registry again and again. -/
def Registry.run : Registry κ → List (Use κ α) → List (Called κ α)
  | _, [] => []
  | r, u :: uses =>
      let done := r.call u.factory u.catalogue u.call
      done :: done.registry.run uses

end CodeAtlas.Plugin
