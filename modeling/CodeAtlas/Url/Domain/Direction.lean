/-
CodeAtlas.Url.Domain.Direction — scripts written from right to left.

A label with characters that are written from right to left has to keep its
order wherever it is shown: it begins with a letter, holds only what goes with
its direction, does not mix two kinds of digits, and ends with a letter or a
digit, to which marks may be added.
-/
import CodeAtlas.Url.Domain.Marks

namespace CodeAtlas.Url.Domain

/-- How a character goes with the direction of a text. -/
inductive Direction where
  | left
  | right
  | arabic
  | arabicDigit
  | digit
  | mark
  | neutral
  deriving DecidableEq

/-- Letters of the scripts that are written from right to left. -/
def rightRanges : List (Nat × Nat) :=
  [(1488, 1514), (1519, 1524), (1984, 2026), (2036, 2037), (2048, 2069), (2074, 2074),
   (2084, 2084), (2088, 2088), (2112, 2136), (67584, 67589), (67592, 67592),
   (67594, 67637), (67639, 67640), (67644, 67644), (67647, 67669), (67680, 67702),
   (67712, 67742), (67808, 67826), (67828, 67829), (67840, 67861), (67872, 67897),
   (67968, 68023), (68030, 68031), (68096, 68096), (68112, 68115), (68117, 68119),
   (68121, 68149), (68192, 68220), (68224, 68252), (68288, 68295), (68297, 68324),
   (68352, 68405), (68416, 68437), (68448, 68466), (68480, 68497), (68608, 68680),
   (68800, 68850), (69248, 69289), (69296, 69297), (69376, 69404), (69415, 69415),
   (69488, 69505), (69552, 69572), (69600, 69622), (124928, 125124), (125218, 125251),
   (125259, 125259), (125264, 125273)]

/-- Letters of Arabic and its kin. -/
def arabicRanges : List (Nat × Nat) :=
  [(1568, 1599), (1601, 1610), (1646, 1647), (1649, 1652), (1657, 1747), (1749, 1749),
   (1765, 1766), (1774, 1775), (1786, 1791), (1808, 1808), (1810, 1839), (1869, 1957),
   (1969, 1969), (2144, 2154), (2160, 2183), (2185, 2190), (2208, 2249),
   (65139, 65139), (68864, 68899), (69424, 69445)]

/-- Digits of Arabic and its kin. -/
def arabicDigitRanges : List (Nat × Nat) :=
  [(1632, 1641), (68912, 68921)]

/-- Digits that go with every direction. -/
def digitRanges : List (Nat × Nat) :=
  [(48, 57), (1776, 1785)]

/-- Signs that go with every direction. -/
def neutralRanges : List (Nat × Nat) :=
  [(45, 45), (183, 183), (697, 698), (710, 719), (748, 748), (885, 885), (8204, 8205),
   (11823, 11823), (12539, 12539), (42623, 42623), (42775, 42783), (42888, 42888)]

/-- Marks without room of their own that count as letters. -/
def leftMarks : List Nat :=
  [3263, 3270, 72199, 72200, 72767]

/-- The direction of a character. -/
def direction (n : Nat) : Direction :=
  if Text.inRanges digitRanges n then .digit
  else if Text.inRanges arabicDigitRanges n then .arabicDigit
  else if Text.inRanges arabicRanges n then .arabic
  else if Text.inRanges rightRanges n then .right
  else if Text.inRanges neutralRanges n then .neutral
  else if isFlat n && !leftMarks.contains n then .mark
  else .left

/-- A direction that makes the rules necessary. -/
def Direction.isRight : Direction → Bool
  | .right | .arabic | .arabicDigit => true
  | _ => false

/-- The last direction other than a mark's satisfies a condition. -/
def endsWith (p : Direction → Bool) (ds : List Direction) : Bool :=
  match ds.reverse.dropWhile (· == .mark) with
  | [] => false
  | d :: _ => p d

/-- The directions of a text that is written from right to left. -/
def isRightOrder (ds : List Direction) : Bool :=
  (ds.head? == some .right || ds.head? == some .arabic)
    && !ds.contains .left
    && !(ds.contains .arabicDigit && ds.contains .digit)
    && endsWith (fun d => d != .neutral) ds

/-- A text keeps its order wherever it is shown. -/
def keepsOrder (text : List Nat) : Bool :=
  let ds := text.map direction
  !ds.any Direction.isRight || isRightOrder ds

end CodeAtlas.Url.Domain
