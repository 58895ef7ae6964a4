/-
CodeAtlas.Storage.Disk — directories and files.

A disk is a table from places to what is there. Opening a path goes through it
name by name: every place on the way has to be a directory, also where a double
dot leads back from it. There are no links and no permissions. Besides directories
and files there is a device that takes whatever is written to it and keeps nothing.

`Disk.read` and `Disk.create` fail with a `FileError`, which names the path as it
was given. A file is written in two steps: `Disk.create` opens it, which leaves it
empty, and `Disk.put` gives it its content.
-/
import CodeAtlas.Table
import CodeAtlas.Storage.Path
import CodeAtlas.Text.Quoted
import CodeAtlas.Text.Utf8

namespace CodeAtlas.Storage

open Text (isDotDot)

/-- What is at a place. -/
inductive Entry where
  | directory
  | file (bytes : List UInt8)
  /-- Takes what is written to it, and is read as empty. -/
  | device
  deriving DecidableEq

/-- Why a path cannot be opened. -/
inductive FileFault where
  | missing
  | notADirectory
  | isADirectory
  | nameTooLong
  | nullByte
  deriving DecidableEq

/-- A path that cannot be opened, and why. -/
structure FileError where
  fault : FileFault
  path : List Char
  deriving DecidableEq

def FileError.message (e : FileError) : String :=
  let shown := String.ofList (Text.quoted e.path)
  match e.fault with
  | .missing => "[Errno 2] No such file or directory: " ++ shown
  | .notADirectory => "[Errno 20] Not a directory: " ++ shown
  | .isADirectory => "[Errno 21] Is a directory: " ++ shown
  | .nameTooLong => "[Errno 36] File name too long: " ++ shown
  | .nullByte => "embedded null byte"

/-- Directories and files by place, and the working directory. -/
structure Disk where
  entries : Table (List Name) Entry
  here : List Name

namespace Disk

/-- What is at a place; the top is a directory. -/
def entry? (d : Disk) (place : List Name) : Option Entry :=
  if place.isEmpty then some .directory else d.entries.get? place

/-- The longest name, in bytes. -/
def nameLimit : Nat := 255

/-- Paths of this length, in bytes, and longer ones are refused. -/
def pathLimit : Nat := 4096

/-- Go from a place through names. -/
def descend (d : Disk) : List Name → List Name → Except FileFault (List Name)
  | place, [] => .ok place
  | place, name :: names =>
      match d.entry? place with
      | none => .error .missing
      | some (.file _) => .error .notADirectory
      | some .device => .error .notADirectory
      | some .directory =>
          if isDotDot name then descend d place.dropLast names
          else if nameLimit < (Text.encodeUtf8 name).length then
            .error .nameTooLong
          else descend d (place ++ [name]) names

/-- The place that a path leads to. -/
def locate (d : Disk) (p : Path) : Except FileFault (List Name) :=
  if p.hasNull then .error .nullByte
  else if pathLimit ≤ (Text.encodeUtf8 p.text).length then .error .nameTooLong
  else d.descend (if p.root == .here then d.here else []) p.names

/-- The bytes of a file. -/
def read (d : Disk) (p : Path) : Except FileError (List UInt8) :=
  match d.locate p with
  | .error fault => .error ⟨fault, p.text⟩
  | .ok place =>
      match d.entry? place with
      | some (.file bytes) => .ok bytes
      | some .device => .ok []
      | some .directory => .error ⟨.isADirectory, p.text⟩
      | none => .error ⟨.missing, p.text⟩

/-- A file at a place with these bytes, new or not; a device stays as it is. -/
def put (d : Disk) (place : List Name) (bytes : List UInt8) : Disk :=
  if d.entry? place = some .device then d
  else { d with entries := d.entries.insert place (.file bytes) }

/-- Open a file for writing, new or not: the place of the file, and the disk on
which it is empty. -/
def create (d : Disk) (p : Path) : Except FileError (List Name × Disk) :=
  match d.locate p with
  | .error fault => .error ⟨fault, p.text⟩
  | .ok place =>
      match d.entry? place with
      | some .directory => .error ⟨.isADirectory, p.text⟩
      | _ => .ok (place, d.put place [])

/-- The places on the way to a place, the place itself included. -/
def placesTo (place : List Name) : List (List Name) :=
  (List.range place.length).map fun k => place.take (k + 1)

/-- Make a directory with those above it. -/
def makeDirectory (d : Disk) (place : List Name) : Disk :=
  { d with
    entries := (placesTo place).foldl (fun t p => t.insert p .directory) d.entries }

/-- Put a file at a place, with the directories above it. -/
def putFile (d : Disk) (place : List Name) (bytes : List UInt8) : Disk :=
  (d.makeDirectory place.dropLast).put place bytes

/-- A disk with an empty working directory. -/
def empty (here : List Name) : Disk := makeDirectory ⟨[], here⟩ here

end Disk

end CodeAtlas.Storage
