/-
CodeAtlas.Source.Directory — slices from files below a directory.

A resource is a file below the directory, with an extension. The place of the
file is worked out by names alone, and a resource whose place is not below the
directory is refused. What keeps the file from being read, or its content from
being a slice, is the reason of the failure.

In the program a directory is a `FileSliceSource`, and the place of a file is
what its `resolve` gives.
-/
import CodeAtlas.Source.Basic

namespace CodeAtlas

open CodeAtlas.Graph (Slice)
open Storage (Codecs Disk LoadError Path)

/-- A directory with slice files. -/
structure Directory where
  root : Path
  extension : List Char

/-- Why values name no directory. -/
inductive DirectoryError where
  | rootNotText (kind : String)
  | extensionNotText (kind : String)

def DirectoryError.message : DirectoryError → String
  | .rootNotText kind => "expected str, bytes or os.PathLike object, not " ++ kind
  | .extensionNotText kind => Fault.lacksText kind "lstrip"

namespace Directory

/-- The extension of slice files if none is given. -/
def defaultExtension : Value := .str "json"

/-- A directory, given by values. -/
def ofValues (root extension : Value) : Except DirectoryError Directory :=
  match root with
  | .str root =>
      match extension with
      | .str e => .ok ⟨Path.parse root.toList, e.toList.dropWhile (· = '.')⟩
      | other => .error (.extensionNotText other.kind)
  | other => .error (.rootNotText other.kind)

/-- A directory in one line. -/
def text (d : Directory) : String :=
  "FileSliceSource(root='" ++ String.ofList d.root.text ++ "')"

/-- The name of a resource's file, below the directory. -/
def fileName (d : Directory) (resource : List Char) : List Char :=
  Text.trim (· = '/') resource ++ '.' :: d.extension

/-- The names on the way to a resource's file. -/
def below (d : Directory) (resource : List Char) : Path :=
  ⟨.here, Storage.namesOf (d.fileName resource)⟩

/-- The place of a resource's file, unless it lies outside the directory. -/
def locateText (d : Directory) (here : List Storage.Name) (resource : String) :
    Except Fault (List Storage.Name) :=
  let path := d.below resource.toList
  if d.root.hasNull || path.hasNull then .error .nullByte
  else
    let root := d.root.resolve here
    let place := path.resolve root
    if root.isPrefixOf place then .ok place
    else .error (.fetch
      ⟨.str resource, .null, .str "resource escapes the slice directory"⟩ none)

/-- The fault of a resource that is no text. The directory is looked at
first. -/
def notTextFault (d : Directory) (resource : Value) : Fault :=
  if d.root.hasNull then .nullByte else .lacks resource.kind "strip"

/-- The place of the file of a resource that is given as a value. -/
def locate (d : Directory) (here : List Storage.Name) :
    (resource : Value) → Except Fault (List Storage.Name)
  | .str text => d.locateText here text
  | other => .error (d.notTextFault other)

/-- A fault in loading as a failure of the fetch, where the file or its content
is at fault. -/
def loadFailure (resource : String) (place : List Storage.Name) (e : LoadError) :
    Fault :=
  let path := String.ofList (Storage.placeText place)
  match e with
  | .file cause =>
      if cause.fault = .nullByte then
        .fetch ⟨.str resource, .null,
          .str ("invalid slice file " ++ path ++ ": " ++ cause.message)⟩
          (some (.load e))
      else
        .fetch ⟨.str resource, .null,
          .str ("cannot read " ++ path ++ ": " ++ cause.message)⟩ (some (.load e))
  | .content (.text (.tooDeep _)) => .load e
  | .unsupported _ _ => .load e
  | _ =>
      .fetch ⟨.str resource, .null,
        .str ("invalid slice file " ++ path ++ ": " ++ e.message)⟩ (some (.load e))

/-- The report of a slice that was loaded. -/
def loadedEntry (path : List Char) (s : Slice) : LogEntry :=
  ⟨.info, .files, "Loaded slice from '" ++ String.ofList path ++ "' "
    ++ sizeText s.nodes.length s.edges.length⟩

/-- Fetch a resource, whose file nests at most `levels` deep. -/
def fetchText (d : Directory) (levels : Nat) (codecs : Codecs) (disk : Disk)
    (resource : String) : Fetched :=
  match d.locateText disk.here resource with
  | .error fault => { outcome := .error fault }
  | .ok place =>
      match Storage.load levels codecs disk (Path.ofPlace place) with
      | .error e => { outcome := .error (loadFailure resource place e) }
      | .ok s =>
          { outcome := .ok s, log := [loadedEntry (Storage.placeText place) s] }

/-- Fetch a resource that is given as a value. -/
def fetchValue (d : Directory) (levels : Nat) (codecs : Codecs) (disk : Disk) :
    (resource : Value) → Fetched
  | .str text => d.fetchText levels codecs disk text
  | other => { outcome := .error (d.notTextFault other) }

/-- The directory as a source. -/
def source (d : Directory) (levels : Nat) (codecs : Codecs) (disk : Disk) : Source :=
  ⟨d.fetchValue levels codecs disk⟩

end Directory

end CodeAtlas
