/-
CodeAtlas.Storage.Codec — slices in files.

A file's suffix decides how it is read and written: codecs are kept by
extension, in small letters and without leading dots. A slice file is UTF-8
text, whose line ends are unified before it is read.

Loading checks the suffix first, then opens the file, then reads it. Saving
checks the suffix, makes the text, and opens the file last. What saving leaves on
the disk is returned in any case, also when it fails.

In the program these are `load` and `save` of `SliceLoader`.
-/
import CodeAtlas.Storage.Disk
import CodeAtlas.Graph.Format
import CodeAtlas.Text.Case

namespace CodeAtlas.Storage

open CodeAtlas.Graph (Format FormatError Slice SliceTextError)
open Text (DecodingError)

/-- Formats of slice files by extension. -/
abbrev Codecs := Table (List Char) Format

/-- An extension as it is kept. -/
def extensionKey (extension : List Char) : List Char :=
  (Text.lower extension).dropWhile (· = '.')

namespace Codecs

/-- The codecs to start with. -/
def standard : Codecs := [("json".toList, {})]

/-- Register a format for an extension. -/
def register (codecs : Codecs) (extension : List Char) (f : Format) : Codecs :=
  Table.insert codecs (extensionKey extension) f

/-- The format for an extension. -/
def find? (codecs : Codecs) (extension : List Char) : Option Format :=
  Table.get? codecs (extensionKey extension)

/-- The extensions, sorted by code point. -/
def extensions (codecs : Codecs) : List String :=
  ((Table.keys codecs).map String.ofList).mergeSort fun a b => decide (a ≤ b)

end Codecs

/-- Why a slice file cannot be loaded. -/
inductive LoadError where
  | unsupported (suffix : List Char) (available : List String)
  | file (cause : FileError)
  | encoding (cause : DecodingError)
  | content (cause : SliceTextError)

/-- The refusal of a suffix. -/
def unsupportedText (suffix : List Char) (available : List String) : String :=
  "Unsupported slice format: '" ++ String.ofList suffix ++ "'. Available: "
    ++ Value.namesText available

def LoadError.message : LoadError → String
  | .unsupported suffix available => unsupportedText suffix available
  | .file cause => cause.message
  | .encoding cause => cause.message
  | .content cause => cause.message

/-- Why a slice file cannot be saved. -/
inductive SaveError where
  | unsupported (suffix : List Char) (available : List String)
  | format (cause : FormatError)
  | file (cause : FileError)

def SaveError.message : SaveError → String
  | .unsupported suffix available => unsupportedText suffix available
  | .format cause => cause.message
  | .file cause => cause.message

/-- Line ends of all kinds as line feeds. -/
def unifyLines : List Char → List Char
  | [] => []
  | '\r' :: '\n' :: cs => '\n' :: unifyLines cs
  | '\r' :: cs => '\n' :: unifyLines cs
  | c :: cs => c :: unifyLines cs

/-- Why a file is no text. -/
inductive TextError where
  | file (cause : FileError)
  | encoding (cause : DecodingError)

/-- The text of a file, with its line ends as they are. -/
def Disk.readText (d : Disk) (p : Path) : Except TextError (List Char) :=
  match d.read p with
  | .error cause => .error (.file cause)
  | .ok bytes =>
      match Text.decodeUtf8 bytes with
      | .error cause => .error (.encoding cause)
      | .ok cs => .ok cs

/-- Load a slice file, which nests at most `depth` deep. -/
def load (depth : Nat) (codecs : Codecs) (d : Disk) (p : Path) : Except LoadError Slice :=
  match codecs.find? p.suffix with
  | none => .error (.unsupported p.suffix codecs.extensions)
  | some _ =>
      match d.readText p with
      | .error (.file cause) => .error (.file cause)
      | .error (.encoding cause) => .error (.encoding cause)
      | .ok text =>
          match Slice.read depth (unifyLines text) with
          | .error cause => .error (.content cause)
          | .ok s => .ok s

/-- Save a slice file, on a machine that can hold texts up to `memory` and has
`depth` levels left for writing. -/
def save (memory depth : Nat) (codecs : Codecs) (d : Disk) (p : Path) (s : Slice) :
    Disk × Except SaveError Unit :=
  match codecs.find? p.suffix with
  | none => (d, .error (.unsupported p.suffix codecs.extensions))
  | some f =>
      match f.write memory depth s with
      | .error cause => (d, .error (.format cause))
      | .ok text =>
          match d.create p with
          | .error cause => (d, .error (.file cause))
          | .ok (place, opened) => (opened.put place (Text.encodeUtf8 text), .ok ())

end CodeAtlas.Storage
