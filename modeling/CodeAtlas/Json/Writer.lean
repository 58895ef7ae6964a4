/-
CodeAtlas.Json.Writer — values as JSON text.

The text is ASCII: every other character is escaped, one beyond the basic plane
as a surrogate pair. It is laid out on one line, with a blank after each comma
and colon, or with one item a line under a unit of indentation (`Layout`).
Empty containers stay closed in both. Tuples are written as lists, and the
numbers that are not finite by their names.

`render` is defined for every value. `obstacle?` finds the first part, in the
order of the text, that has no JSON form: a member of a vocabulary, an integer
that is too long, or a container for which no depth is left. `write` renders what
has no obstacle. The depth is the caller's, as it is for the reader.

The program leaves this to a library. The writer is modelled as `to_json` of
`SliceSerializer`, `visualize` and `slice_view` use it.
-/
import CodeAtlas.Json.Reader
import CodeAtlas.Number.Layout
import CodeAtlas.Text.Quoted

namespace CodeAtlas.Json

open Number (SpecialNames floatText integerText)
open Text (hexDigits)

/-- How a document is laid out. -/
inductive Layout where
  /-- On one line. -/
  | inline
  /-- One item a line, indented by a unit for each level. -/
  | lines (unit : List Char)

/-- The spelling of numbers that are not finite. -/
def specialNames : SpecialNames := ⟨"NaN", "Infinity"⟩

/-- The escape of a code unit of sixteen bits. -/
def unitEscape (n : Nat) : List Char := '\\' :: 'u' :: hexDigits 4 n

/-- One character of a string. -/
def stringChar (c : Char) : List Char :=
  if c = '"' || c = '\\' then ['\\', c]
  else if 32 ≤ c.toNat && c.toNat < 127 then [c]
  else if c = '\n' then ['\\', 'n']
  else if c = '\r' then ['\\', 'r']
  else if c = '\t' then ['\\', 't']
  else if c.toNat = 8 then ['\\', 'b']
  else if c.toNat = 12 then ['\\', 'f']
  else if c.toNat < 65536 then unitEscape c.toNat
  else
    let n := c.toNat - 65536
    unitEscape (0xD800 + n / 1024) ++ unitEscape (0xDC00 + n % 1024)

/-- A string between double quotes. -/
def stringText (cs : List Char) : List Char :=
  '"' :: cs.flatMap stringChar ++ ['"']

/-- The break before an item at a level of nesting. -/
def Layout.newline : Layout → Nat → List Char
  | .inline, _ => []
  | .lines unit, level => '\n' :: (List.replicate level unit).flatten

/-- What stands between two items at a level of nesting. -/
def Layout.separator : Layout → Nat → List Char
  | .inline, _ => [',', ' ']
  | .lines unit, level => ',' :: Layout.newline (.lines unit) level

/-- Items between brackets, given their text; no item leaves the brackets
closed. -/
def Layout.enclose (layout : Layout) (level : Nat) (left right : Char)
    (items : List Char) : List Char :=
  if items.isEmpty then [left, right]
  else left :: layout.newline (level + 1) ++ items
    ++ layout.newline level ++ [right]

mutual

/-- A value at a level of nesting. -/
def render (layout : Layout) (level : Nat) : Value → List Char
  | .null => "null".toList
  | .bool b => (if b then "true" else "false").toList
  | .int n => integerText n
  | .float x => floatText specialNames x
  | .str s => stringText s.toList
  | .list items =>
      layout.enclose level '[' ']' (renderItems layout (level + 1) items)
  | .tuple items =>
      layout.enclose level '[' ']' (renderItems layout (level + 1) items)
  | .dict entries =>
      layout.enclose level '\x7b' '\x7d' (renderEntries layout (level + 1) entries)
  | .member m => stringText m.fullName.toList

/-- The items of a list at a level of nesting. -/
def renderItems (layout : Layout) (level : Nat) : List Value → List Char
  | [] => []
  | [v] => render layout level v
  | v :: vs =>
      render layout level v ++ layout.separator level
        ++ renderItems layout level vs

/-- The fields of an object at a level of nesting. -/
def renderEntries (layout : Layout) (level : Nat) :
    List (String × Value) → List Char
  | [] => []
  | [(k, v)] => stringText k.toList ++ ':' :: ' ' :: render layout level v
  | (k, v) :: es =>
      stringText k.toList ++ ':' :: ' ' :: render layout level v
        ++ layout.separator level ++ renderEntries layout level es

end

/-- Why a value has no JSON text. -/
inductive WriteError where
  | tooLong
  | tooDeep
  | noJsonForm (kind : String)

def WriteError.message : WriteError → String
  | .tooLong => Number.tooLongToWrite
  | .tooDeep => "maximum recursion depth exceeded while encoding a JSON object"
  | .noJsonForm kind => "Object of type " ++ kind ++ " is not JSON serializable"

mutual

/-- The first part of a value that has no JSON text, if containers nest at most
`depth` deep. -/
def obstacle? : (depth : Nat) → Value → Option WriteError
  | _, .int n => if Number.withinLimit n then none else some .tooLong
  | 0, .list _ => some .tooDeep
  | 0, .tuple _ => some .tooDeep
  | 0, .dict _ => some .tooDeep
  | depth + 1, .list items => itemsObstacle? depth items
  | depth + 1, .tuple items => itemsObstacle? depth items
  | depth + 1, .dict entries => entriesObstacle? depth entries
  | _, .member m => some (.noJsonForm m.vocabulary)
  | _, _ => none

/-- The first part of a list of values that has no JSON text. -/
def itemsObstacle? (depth : Nat) : List Value → Option WriteError
  | [] => none
  | v :: vs => (obstacle? depth v).or (itemsObstacle? depth vs)

/-- The first part of a list of fields that has no JSON text. -/
def entriesObstacle? (depth : Nat) : List (String × Value) → Option WriteError
  | [] => none
  | (_, v) :: es => (obstacle? depth v).or (entriesObstacle? depth es)

end

/-- The JSON text of a value whose containers nest at most `depth` deep. -/
def write (depth : Nat) (layout : Layout) (v : Value) :
    Except WriteError (List Char) :=
  match obstacle? depth v with
  | some e => .error e
  | none => .ok (render layout 0 v)

end CodeAtlas.Json
