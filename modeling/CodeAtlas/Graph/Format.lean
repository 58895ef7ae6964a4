/-
CodeAtlas.Graph.Format — slices as JSON text.

A format says whether null fields are left out and how the text is indented.
Both settings are values, as they come from configurations: the first counts by
whether it is set, the second is a number of blanks, the unit of indentation
itself, or null for a text on one line.

What can be written depends on the machine too: `memory` is the length of the
longest text that it can hold. The unit of indentation is made first, whatever
the slice, and the text at the end.

In the program a format is a `SerializationConfig`, and writing is `to_json` of
`SliceSerializer`.
-/
import CodeAtlas.Graph.Slice
import CodeAtlas.Json.Reader
import CodeAtlas.Json.Writer

namespace CodeAtlas.Graph

open Json (Layout ReadError WriteError)

/-- How slices are written. -/
structure Format where
  omitNone : Value := .bool true
  indent : Value := .int 2

/-- Why a slice has no text. -/
inductive FormatError where
  | badIndent (kind : String)
  | hugeIndent
  | outOfMemory
  | noLevelContent (kind : String)
  | unwritable (cause : WriteError)

def FormatError.message : FormatError → String
  | .badIndent kind => "can't multiply sequence by non-int of type '" ++ kind ++ "'"
  | .hugeIndent => "cannot fit 'int' into an index-sized integer"
  | .outOfMemory => ""
  | .noLevelContent kind => "'" ++ kind ++ "' object has no attribute 'value'"
  | .unwritable cause => cause.message

/-- A number of blanks has to fit into a signed word of 64 bits. -/
def fitsIndex (n : Int) : Bool := -Int.pow 2 63 ≤ n && n < Int.pow 2 63

/-- The layout that an indentation stands for. -/
def layoutOf (memory : Nat) : Value → Except FormatError Layout
  | .null => .ok .inline
  | .bool b => .ok (.lines (if b then [' '] else []))
  | .int n =>
      if !fitsIndex n then .error .hugeIndent
      else if memory < n.toNat then .error .outOfMemory
      else .ok (.lines (List.replicate n.toNat ' '))
  | .str s => .ok (.lines s.toList)
  | v => .error (.badIndent v.kind)

namespace Format

/-- A slice as a document, once all its levels have a form. -/
def encode (f : Format) (s : Slice) : Except FormatError Value :=
  match s.nodes.findSome? fun n => levelFault? n.level with
  | some kind => .error (.noLevelContent kind)
  | none => .ok (s.documentWith f.omitNone.isTruthy)

/-- A slice as JSON text, which nests at most `depth` deep. -/
def write (f : Format) (memory depth : Nat) (s : Slice) :
    Except FormatError (List Char) :=
  match f.encode s with
  | .error e => .error e
  | .ok doc =>
      match layoutOf memory f.indent with
      | .error e => .error e
      | .ok layout =>
          match Json.write depth layout doc with
          | .ok text => if memory < text.length then .error .outOfMemory else .ok text
          | .error cause => .error (.unwritable cause)

end Format

/-- Why a text is no slice. -/
inductive SliceTextError where
  | text (cause : ReadError)
  | document (cause : SliceError)

def SliceTextError.message : SliceTextError → String
  | .text cause => cause.message
  | .document cause => cause.message

/-- Read a slice from JSON text that nests at most `depth` deep. -/
def Slice.read (depth : Nat) (text : List Char) : Except SliceTextError Slice :=
  match Json.read depth text with
  | .error cause => .error (.text cause)
  | .ok v =>
      match Slice.ofDocument v with
      | .error cause => .error (.document cause)
      | .ok s => .ok s

end CodeAtlas.Graph
