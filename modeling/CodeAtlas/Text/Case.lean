/-
CodeAtlas.Text.Case — upper case for tags, lower case for file extensions.

`upper` brings a tag to the form in which the vocabularies are written. The
words of the vocabularies are ASCII, so only letters whose capital form is
ASCII matter: the ASCII letters, the two letters that share a capital with an
ASCII letter, and the ligatures and the sharp s, which become two or three
capitals. All other characters are left alone.

`lower` is the full lower case of Unicode, with its two special cases: the
capital I with a dot becomes two characters, and a capital sigma at the end of
a word takes its final form.
-/
import CodeAtlas.Text.Blank
import CodeAtlas.Text.CaseTable

namespace CodeAtlas.Text

/-- The letters beyond ASCII whose capital form is ASCII. -/
def foldedCapitals : List (Nat × String) :=
  [(223, "SS"), (305, "I"), (383, "S"), (64256, "FF"), (64257, "FI"),
   (64258, "FL"), (64259, "FFI"), (64260, "FFL"), (64261, "ST"), (64262, "ST")]

/-- The capital form of one character. -/
def upperChar (c : Char) : List Char :=
  if c.toNat < 128 then [c.toUpper]
  else match foldedCapitals.find? fun p => p.1 == c.toNat with
    | some p => p.2.toList
    | none => [c]

/-- Capital form, as far as it is ASCII. -/
def upper (cs : List Char) : List Char := cs.flatMap upperChar

/-- A member of a run of capital letters. -/
def CaseRun.contains (r : CaseRun) (n : Nat) : Bool :=
  r.first ≤ n && n ≤ r.last && (n - r.first) % r.step == 0

/-- The lower case of one character outside of words. -/
def lowerChar (c : Char) : List Char :=
  if c.toNat = 304 then [Char.ofNat 105, Char.ofNat 775]
  else match lowerRuns.find? fun r => r.contains c.toNat with
    | some r => [Char.ofNat (c.toNat + r.shift).toNat]
    | none => [c]

/-- A character that has case and ends the search for a word's neighbour. -/
def isCased (c : Char) : Bool := inRanges casedRanges c.toNat

/-- A character that the search for a word's neighbour passes over. -/
def isIgnorable (c : Char) : Bool := inRanges ignorableRanges c.toNat

/-- The nearest character that is not passed over has case. -/
def hasCasedNeighbour (cs : List Char) : Bool :=
  match cs.dropWhile isIgnorable with
  | [] => false
  | c :: _ => isCased c

/-- Lower case from a point on; `before` holds the characters already passed,
the nearest first. -/
def lowerFrom (before : List Char) : List Char → List Char
  | [] => []
  | c :: rest =>
      let here :=
        if c.toNat = 931 then
          if hasCasedNeighbour before && !hasCasedNeighbour rest
          then [Char.ofNat 962] else [Char.ofNat 963]
        else lowerChar c
      here ++ lowerFrom (c :: before) rest

/-- Full lower case of a text. -/
def lower (cs : List Char) : List Char := lowerFrom [] cs

end CodeAtlas.Text
