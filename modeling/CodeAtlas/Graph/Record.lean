/-
CodeAtlas.Graph.Record — nodes and edges made from named fields, and compared.

A record is made from a table of arguments. A name that the record does not
have, or that it has already given to itself, is refused before a missing one,
and all missing names are listed. Records cannot be changed afterwards.

Two nodes are equal if their identifiers are, two edges likewise, and a record
never equals a plain value. `distinct` counts the items that differ, which is
possible only where every item can be collected in a set.

In the program these are the constructors of `NodeDto` and `EdgeDto`, their
equality and their hash.
-/
import CodeAtlas.Graph.Node
import CodeAtlas.Graph.Edge
import CodeAtlas.Value.Comparison

namespace CodeAtlas.Graph

/-! ## Construction -/

/-- Why a record cannot be made or changed. -/
inductive RecordError where
  | unexpected (record name : String)
  | repeated (record name : String)
  | missing (record : String) (names : List String)
  | frozen (name : String)

/-- Names in a sentence, with a comma before the last of three or more. -/
def listNames : List String → String
  | [] => ""
  | [a] => a
  | [a, b] => a ++ " and " ++ b
  | names =>
      String.intercalate ", " names.dropLast ++ ", and " ++ names.getLastD ""

def RecordError.message : RecordError → String
  | .unexpected record name =>
      record ++ ".__init__() got an unexpected keyword argument '" ++ name ++ "'"
  | .repeated record name =>
      record ++ ".__init__() got multiple values for argument '" ++ name ++ "'"
  | .missing record names =>
      record ++ ".__init__() missing " ++ toString names.length
        ++ " required positional argument" ++ (if names.length = 1 then "" else "s")
        ++ ": " ++ listNames (names.map fun n => "'" ++ n ++ "'")
  | .frozen name =>
      "cannot assign to field " ++ String.ofList (Text.quoted name.toList)

/-- The name under which a record knows itself. -/
def ownName : String := "self"

/-- Check the names of arguments against the fields of a record. -/
def checkNames (record : String) (required optional : List String)
    (args : Table String Value) : Except RecordError Unit :=
  match args.keys.find? fun k => !(required ++ optional).contains k with
  | some name =>
      if name = ownName then .error (.repeated record name)
      else .error (.unexpected record name)
  | none =>
      match required.filter fun k => !args.contains k with
      | [] => .ok ()
      | names => .error (.missing record names)

/-- A node from named fields. -/
def Node.ofArguments (args : Table String Value) : Except RecordError Node :=
  match checkNames "NodeDto" ["id", "level", "display_name", "cost"]
      ["complexity", "hotspot", "package_name", "class_name", "method_name",
       "signature"] args with
  | .error e => .error e
  | .ok () => .ok
      { id := Value.field args "id"
        level := Value.field args "level"
        displayName := Value.field args "display_name"
        cost := Value.field args "cost"
        complexity := (args.get? "complexity").getD (.int 0)
        hotspot := (args.get? "hotspot").getD (.bool false)
        packageName := Value.field args "package_name"
        className := Value.field args "class_name"
        methodName := Value.field args "method_name"
        signature := Value.field args "signature" }

/-- An edge from named fields. -/
def Edge.ofArguments (args : Table String Value) : Except RecordError Edge :=
  match checkNames "EdgeDto" ["id", "source_id", "target_id", "type"] ["weight"]
      args with
  | .error e => .error e
  | .ok () => .ok
      { id := Value.field args "id"
        source := Value.field args "source_id"
        target := Value.field args "target_id"
        tag := Value.field args "type"
        weight := (args.get? "weight").getD (.int 0) }

/-- A record with its named fields, unless an integer in it is too long. -/
def recordText? (record : String) (fields : List (String × Value)) :
    Option String := do
  let parts ← fields.mapM fun f => do
    let shown ← f.2.literal?
    return f.1 ++ "=" ++ shown
  return record ++ "(" ++ String.intercalate ", " parts ++ ")"

/-- A node with all its fields, unless an integer in it is too long. -/
def Node.text? (n : Node) : Option String := recordText? "NodeDto" n.shown

/-! ## Comparison -/

/-- A node, an edge or a plain value. -/
inductive Item where
  | node (n : Node)
  | edge (e : Edge)
  | plain (v : Value)

/-- What an item is known by. -/
def Item.key : Item → Value
  | .node n => n.id
  | .edge e => e.id
  | .plain v => v

/-- Two different items are equal. -/
def Item.equals : Item → Item → Bool
  | .node a, .node b => a.id.equals b.id
  | .edge a, .edge b => a.id.equals b.id
  | .plain a, .plain b => a.equals b
  | _, _ => false

/-- All comparisons of a list of items with one another, an item with itself
included. -/
def equalities (items : List Item) : List (List Bool) :=
  items.zipIdx.map fun (a, i) =>
    items.zipIdx.map fun (b, j) =>
      if i = j then a.key.equalsItself else a.equals b

/-- The items without those that equal an earlier one. -/
def dedupe (items : List Item) : List Item :=
  items.foldl (fun kept a => if kept.any a.equals then kept else kept ++ [a]) []

/-- The number of different items, or the kind of a part that cannot be
collected. -/
def distinct (items : List Item) : Except String Nat :=
  match items.findSome? fun a => a.key.unhashable? with
  | some kind => .error kind
  | none => .ok (dedupe items).length

end CodeAtlas.Graph
