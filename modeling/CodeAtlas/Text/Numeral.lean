/-
CodeAtlas.Text.Numeral — characters that stand for digits.

Two classes are kept apart. A decimal digit has a value and can be part of an
integer in any script (`decimalValue?`). A digit character is a decimal digit
or one of the digit-like marks, such as superscripts and circled digits
(`isDigitLike`), which look like digits and cannot be read as an integer.
-/
import CodeAtlas.Text.Blank

namespace CodeAtlas.Text

/-- The zeros of the decimal digits; each is followed by its nine companions. -/
def decimalZeros : List Nat :=
  [48, 1632, 1776, 1984, 2406, 2534, 2662, 2790, 2918, 3046, 3174, 3302, 3430,
   3558, 3664, 3792, 3872, 4160, 4240, 6112, 6160, 6470, 6608, 6784, 6800,
   6992, 7088, 7232, 7248, 42528, 43216, 43264, 43472, 43504, 43600, 44016,
   65296, 66720, 68912, 69734, 69872, 69942, 70096, 70384, 70736, 70864, 71248,
   71360, 71472, 71904, 72016, 72784, 73040, 73120, 92768, 92864, 93008,
   120782, 120792, 120802, 120812, 120822, 123200, 123632, 125264, 130032]

/-- The value of a decimal digit of any script. -/
def decimalValue? (c : Char) : Option Nat :=
  match decimalZeros.find? fun z => z ≤ c.toNat && c.toNat < z + 10 with
  | some z => some (c.toNat - z)
  | none => none

/-- The code points of digit-like marks that are not decimal digits. -/
def digitMarks : List (Nat × Nat) :=
  [(178, 179), (185, 185), (4969, 4977), (6618, 6618), (8304, 8304),
   (8308, 8313), (8320, 8329), (9312, 9320), (9332, 9340), (9352, 9360),
   (9450, 9450), (9461, 9469), (9471, 9471), (10102, 10110), (10112, 10120),
   (10122, 10130), (68160, 68163), (69216, 69224), (69714, 69722),
   (127232, 127242)]

/-- A decimal digit of any script, or a digit-like mark. -/
def isDigitLike (c : Char) : Bool :=
  (decimalValue? c).isSome || inRanges digitMarks c.toNat

end CodeAtlas.Text
