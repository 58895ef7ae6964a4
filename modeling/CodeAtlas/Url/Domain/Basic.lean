/-
CodeAtlas.Url.Domain.Basic — host names in all scripts.

A host name is a list of labels with points between them. A label that is not
ASCII is written as `xn--` and its form in ASCII; a label that already has such
a form is kept, if the form stands for a label. The rules of labels are the same
for both: `isLabel`.
-/
import CodeAtlas.Text.Case
import CodeAtlas.Text.Split
import CodeAtlas.Url.Domain.Composition
import CodeAtlas.Url.Domain.Context
import CodeAtlas.Url.Domain.Direction
import CodeAtlas.Url.Domain.Punycode

namespace CodeAtlas.Url.Domain

/-! ## Labels -/

/-- The greatest length of a written label. -/
def labelLimit : Nat := 63

/-- The greatest length of a name, a point at its end not counted. -/
def nameLimit : Nat := 253

/-- What a label in ASCII form begins with. -/
def formMark : List Char := "xn--".toList

/-- The code point of a hyphen. -/
def hyphen : Nat := 45

/-- Hyphens do not stand at the ends, nor at the third and fourth place
together. -/
def hyphensFit (label : List Nat) : Bool :=
  label.head? != some hyphen && label.getLast? != some hyphen
    && (label.drop 2).take 2 != [hyphen, hyphen]

/-- Code points that make up a label. -/
def isLabel (label : List Nat) : Bool :=
  !label.isEmpty && label.length ≤ nameLimit + 1
    && hyphensFit label
    && !label.head?.any isMark
    && allFit [] label
    && isComposed label
    && keepsOrder label

/-- A label of ASCII characters, in ASCII form or not. -/
def isAsciiLabel (label : List Char) : Bool :=
  if formMark.isPrefixOf label then
    let form := label.drop formMark.length
    !form.isEmpty && form.getLast? != some '-' && (ofPunycode? form).any isLabel
  else isLabel (label.map Char.toNat)

/-- A label in ASCII. -/
def writtenLabel? (label : List Char) : Option (List Char) :=
  let points := label.map Char.toNat
  let isFine := if points.all (· < asciiEnd) then isAsciiLabel label else isLabel points
  let written :=
    if points.all (· < asciiEnd) then label else formMark ++ punycode points
  if isFine && written.length ≤ labelLimit then some written else none

/-! ## Names -/

/-- The characters that stand for the point between labels. -/
def points : List Nat := [0x2E, 0x3002, 0xFF0E, 0xFF61]

/-- The labels of a name. -/
def labels (name : List Char) : List (List Char) :=
  Text.splitOn '.' (name.map fun c => if points.contains c.toNat then '.' else c)

/-- A host name in ASCII, unless it is none. It may end in a point. -/
def ascii? (host : List Char) : Option (List Char) :=
  let name := Text.lower host
  let pieces := labels name
  let isRooted := pieces.getLast? == some []
  let limit := if isRooted then nameLimit + 1 else nameLimit
  if nameLimit + 1 < name.length then none
  else
    match (if isRooted then pieces.dropLast else pieces).mapM writtenLabel? with
    | none => none
    | some written =>
        let text := Text.joinWith '.' written ++ (if isRooted then ['.'] else [])
        if text.length ≤ limit then some text else none

end CodeAtlas.Url.Domain
