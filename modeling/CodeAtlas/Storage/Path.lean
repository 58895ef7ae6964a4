/-
CodeAtlas.Storage.Path — names of files.

A path is a list of names below a root: below the working directory, or below
one or two leading slashes. Empty pieces and single dots are dropped when a path
is read; double dots stay, since what they mean depends on what is there.
`Path.resolve` removes them by names alone.

The program leaves this to its path library.
-/
import CodeAtlas.Text.Split

namespace CodeAtlas.Storage

open Text (splitOn joinWith isDot isDotDot)

/-- A name in a directory. -/
abbrev Name := List Char

/-- Where a path starts. -/
inductive Root where
  | here
  | top
  | doubled
  deriving DecidableEq

/-- The slashes that a path starts with. -/
def Root.slashes : Root → List Char
  | .here => []
  | .top => ['/']
  | .doubled => ['/', '/']

/-- The root that a number of leading slashes stands for: exactly two are kept
apart. -/
def Root.ofSlashes : Nat → Root
  | 0 => .here
  | 2 => .doubled
  | _ => .top

/-- A path to a file. -/
structure Path where
  root : Root
  names : List Name
  deriving DecidableEq

/-- The names in a text. -/
def namesOf (cs : List Char) : List Name :=
  (splitOn '/' cs).filter fun piece => !piece.isEmpty && !isDot piece

namespace Path

/-- Read a path. -/
def parse (cs : List Char) : Path :=
  ⟨Root.ofSlashes (cs.takeWhile (· = '/')).length, namesOf cs⟩

/-- The text of a path. -/
def text (p : Path) : List Char :=
  if p.root == .here && p.names.isEmpty then ['.']
  else p.root.slashes ++ joinWith '/' p.names

/-- The last name of a path. -/
def lastName (p : Path) : Name := p.names.getLast?.getD []

/-- The end of a name from its last dot on; none if that dot is the first or the
last character. -/
def suffixOf (name : Name) : List Char :=
  let after := (name.reverse.takeWhile (· ≠ '.')).reverse
  let before := name.length - after.length
  if after.isEmpty || before < 2 then [] else '.' :: after

/-- The suffix of a path. -/
def suffix (p : Path) : List Char := suffixOf p.lastName

/-- A name in the path holds a null character. -/
def hasNull (p : Path) : Bool := p.names.any (·.contains (Char.ofNat 0))

/-- One more name on the way: a double dot leads back. -/
def step (place : List Name) (name : Name) : List Name :=
  if isDotDot name then place.dropLast else place ++ [name]

/-- The place that a path names, seen from a working directory, by names
alone. -/
def resolve (here : List Name) (p : Path) : List Name :=
  p.names.foldl step (if p.root == .here then here else [])

end Path

/-- The path to a place. -/
def Path.ofPlace (place : List Name) : Path := ⟨.top, place⟩

/-- The text of the path to a place. -/
def placeText (place : List Name) : List Char := (Path.ofPlace place).text

end CodeAtlas.Storage
