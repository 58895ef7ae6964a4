/-
CodeAtlas.Plugin.Registry — the components of a base that are installed.

A catalogue lists what is installed in each group: a name, an address, and what
is found there. A registry scans its group once, when it is first used, and
again only when it is told to forget what it knows. A scan puts every entry that
can be loaded and is of the base under its name, over what is there; every other
entry is reported and left out.

Loading an entry runs code that is not the registry's. If that code ends the run
instead of failing (`Content.exits`), the scan is broken off: the registry keeps what it
has got to know by then, and is not counted as scanned.

The registry does not look into components and plugins. Their types are parameters,
and a `Base` says which components it takes; `Registry.ofRole` is the registry of the
program's own ones.

In the program a registry is a `PluginLoader`, and a scan is its `discover`.
-/
import CodeAtlas.Log
import CodeAtlas.Plugin.Component
import CodeAtlas.Value.Comparison

namespace CodeAtlas.Plugin

/-- Something that ends a run from within and is not handled as a fault. -/
structure Interruption where
  kind : String
  message : String
  deriving DecidableEq

/-- What is found at the address of an entry. -/
inductive Content (κ : Type) where
  | component (c : κ)
  /-- Something that is no component. -/
  | foreign
  /-- Nothing, for a reason. -/
  | broken (reason : String)
  /-- Something that ends the run when it is loaded. -/
  | exits (cause : Interruption)

/-- One installed entry. -/
structure Entry (κ : Type) where
  name : String
  address : String
  content : Content κ

/-- The installed entries by group. -/
abbrev Catalogue (κ : Type) := Table String (List (Entry κ))

/-- What components have to be, to be taken into a registry. -/
structure Base (κ : Type) where
  name : String
  admits : κ → Bool

variable {κ α : Type}

/-- The entries of a group. -/
def Catalogue.group (c : Catalogue κ) (name : String) : List (Entry κ) :=
  (Table.get? c name).getD []

/-! ## Scanning -/

namespace Entry

/-- The component at an entry, if it is of the base. -/
def component? (base : Base κ) (e : Entry κ) : Option κ :=
  match e.content with
  | .component c => if base.admits c then some c else none
  | _ => none

/-- What ends the run when the entry is loaded, if anything does. -/
def interruption? (e : Entry κ) : Option Interruption :=
  match e.content with
  | .exits cause => some cause
  | _ => none

/-- The report of an entry that is left out. -/
def complaint (base : Base κ) (e : Entry κ) : LogEntry :=
  match e.content with
  | .broken reason =>
      ⟨.error, .plugins, "Failed to load plugin '" ++ e.name ++ "' ("
        ++ e.address ++ "): " ++ reason⟩
  | _ =>
      ⟨.warning, .plugins, "Plugin '" ++ e.name ++ "' does not subclass "
        ++ base.name ++ "; skipped."⟩

end Entry

/-- The entries that a scan gets to load. -/
def reached (entries : List (Entry κ)) : List (Entry κ) :=
  entries.takeWhile fun e => e.interruption?.isNone

/-- Put the components of a list of entries into a table, by name. -/
def collect (base : Base κ) (known : Table String κ) (entries : List (Entry κ)) :
    Table String κ :=
  entries.foldl (fun t e =>
    match e.component? base with
    | some c => t.insert e.name c
    | none => t) known

/-- The reports of the entries that are left out. -/
def complaints (base : Base κ) (entries : List (Entry κ)) : List LogEntry :=
  (entries.filter fun e => (e.component? base).isNone).map (Entry.complaint base)

/-! ## Registries -/

/-- The components of a base, as far as they are known. -/
structure Registry (κ : Type) where
  base : Base κ
  group : String
  components : Table String κ := []
  discovered : Bool := false

/-- A registry after a call, with what was scanned and reported, and with what broke
the scan off, if anything did. -/
structure Discovery (κ : Type) where
  registry : Registry κ
  scans : List String := []
  log : List LogEntry := []
  interruption : Option Interruption := none

namespace Registry

/-- The registry of a role with the group of that role. -/
def ofRole (role : Role) : Registry Component :=
  { base := ⟨role.name, fun c => c.role = role⟩, group := role.group }

/-- The known names, sorted by code point. -/
def names (r : Registry κ) : List String :=
  r.components.keys.mergeSort fun a b => decide (a ≤ b)

/-- The report of a scan. -/
def scanEntry (r : Registry κ) : LogEntry :=
  ⟨.info, .plugins, "Discovered " ++ toString r.components.length
    ++ " plugin(s) in '" ++ r.group ++ "': " ++ Value.namesText r.names⟩

/-- Scan the group, and add what is found to what is known. -/
def scan (catalogue : Catalogue κ) (r : Registry κ) : Discovery κ :=
  let entries := catalogue.group r.group
  let loaded := reached entries
  let found := collect r.base r.components loaded
  match entries.findSome? Entry.interruption? with
  | some cause =>
      { registry := { r with components := found }
        scans := [r.group]
        log := complaints r.base loaded
        interruption := some cause }
  | none =>
      let r := { r with components := found, discovered := true }
      { registry := r
        scans := [r.group]
        log := complaints r.base loaded ++ [r.scanEntry] }

/-- Scan the group if that has not been done. -/
def discover (catalogue : Catalogue κ) (r : Registry κ) : Discovery κ :=
  if r.discovered then { registry := r } else r.scan catalogue

/-- Forget what is known. -/
def forget (r : Registry κ) : Registry κ :=
  { r with components := [], discovered := false }

/-- Forget what is known, and scan the group again. -/
def reload (catalogue : Catalogue κ) (r : Registry κ) : Discovery κ :=
  r.forget.discover catalogue

/-- The component under a name. -/
def find? (r : Registry κ) : (name : Value) → Option κ
  | .str s => r.components.get? s
  | _ => none

/-- A registry in one line. -/
def text (r : Registry κ) : String :=
  "PluginLoader(base=" ++ r.base.name ++ ", group='" ++ r.group
    ++ "', discovered=" ++ toString r.components.length ++ ")"

end Registry

/-! ## Plugins by name -/

/-- Why there is no plugin under a name. -/
inductive LookupError where
  | notFound (name : Value) (group : String) (available : List String)
  /-- Nothing is installed under the name, and it is too long to be shown. -/
  | nameTooLong
  | unhashable (kind : String)
  | build (cause : BuildError)
  /-- The scan was broken off. -/
  | interrupted (cause : Interruption)

def LookupError.message : LookupError → String
  | .notFound name group available =>
      "Plugin '" ++ String.ofList name.text ++ "' not found in group '" ++ group
        ++ "'. Available: " ++ Value.namesText available
  | .nameTooLong => Number.tooLongToWrite
  | .unhashable kind => "unhashable type: '" ++ kind ++ "'"
  | .build cause => cause.message
  | .interrupted cause => cause.message

namespace Registry

/-- The plugin under a name, if one is installed and the factory comes back with one;
the registry has been scanned. -/
def plugin? (factory : Factory κ α) (r : Registry κ) (name : Value) :
    Except LookupError (Option α) :=
  match name.unhashable? with
  | some kind => .error (.unhashable kind)
  | none =>
      match r.find? name with
      | none => .ok none
      | some c =>
          match factory c with
          | .ok p => .ok p
          | .error cause => .error (.build cause)

/-- The plugin under a name, which has to be installed; the registry has been
scanned. -/
def plugin (factory : Factory κ α) (r : Registry κ) (name : Value) :
    Except LookupError α :=
  match r.plugin? factory name with
  | .ok (some p) => .ok p
  | .ok none =>
      if name.isWritable then .error (.notFound name r.group r.names)
      else .error .nameTooLong
  | .error e => .error e

/-- A name is installed; the registry has been scanned. -/
def contains (r : Registry κ) (name : Value) : Except LookupError Bool :=
  match name.unhashable? with
  | some kind => .error (.unhashable kind)
  | none => .ok (r.find? name).isSome

/-- What the factory comes back with for each component that it does not refuse, by
name; the registry has been scanned. -/
def plugins (factory : Factory κ α) (r : Registry κ) : List (String × Option α) :=
  r.components.filterMap fun (name, c) =>
    match factory c with
    | .ok p => some (name, p)
    | .error _ => none

/-- The reports of the components that cannot be built. -/
def failures (factory : Factory κ α) (r : Registry κ) : List LogEntry :=
  r.components.filterMap fun (name, c) =>
    match factory c with
    | .ok _ => none
    | .error cause =>
        some ⟨.error, .plugins, "Failed to create plugin '" ++ name ++ "': "
          ++ cause.message⟩

end Registry

end CodeAtlas.Plugin
