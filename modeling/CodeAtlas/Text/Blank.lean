/-
CodeAtlas.Text.Blank — characters that leave no mark, and trimming.

`isBlank` is the class of characters that are removed at both ends of a tag or
a number before it is read: the separators of Unicode, the layout characters
and the four information separators of ASCII. `isLayout` is the smaller class
that may surround the digits of an integer: it lacks the information
separators.
-/
namespace CodeAtlas.Text

/-- The code points of blank characters, as closed ranges. -/
def blankRanges : List (Nat × Nat) :=
  [(9, 13), (28, 32), (133, 133), (160, 160), (5760, 5760), (8192, 8202),
   (8232, 8233), (8239, 8239), (8287, 8287), (12288, 12288)]

/-- A number lies in one of the closed ranges. -/
def inRanges (ranges : List (Nat × Nat)) (n : Nat) : Bool :=
  ranges.any fun r => r.1 ≤ n && n ≤ r.2

/-- A blank character. -/
def isBlank (c : Char) : Bool := inRanges blankRanges c.toNat

/-- A blank character other than the information separators of ASCII. -/
def isLayout (c : Char) : Bool :=
  isBlank c && !(28 ≤ c.toNat && c.toNat ≤ 31)

/-- Drop the characters of a class at the end. -/
def trimRight (p : Char → Bool) (cs : List Char) : List Char :=
  (cs.reverse.dropWhile p).reverse

/-- Drop the characters of a class at both ends. -/
def trim (p : Char → Bool) (cs : List Char) : List Char :=
  trimRight p (cs.dropWhile p)

end CodeAtlas.Text
