/-
CodeAtlas.Number.Layout — how a floating-point number is laid out.

The digits are the fewest that read back. They are written positionally, with
at least one digit on each side of the point, while the point stands at most 3
places before the first digit and at most 16 places after it; otherwise with an
exponent, which has a sign and at least two digits. `writtenOut` is the form
without an exponent for every numeral.
-/
import CodeAtlas.Number.Shortest

namespace CodeAtlas.Number

/-- The choices of a layout for finite numbers. -/
structure FloatLayout where
  /-- Positional only if the point stands after more than this many places. -/
  leastPoint : Int
  /-- Positional only if the point stands after at most this many places. -/
  greatestPoint : Int
  /-- The least number of digits of an exponent. -/
  exponentWidth : Nat

/-- The layout of every number that this library writes. -/
def floatLayout : FloatLayout := ⟨-4, 16, 2⟩

/-- Fill up with zeros on the left. -/
def padLeft (width : Nat) (cs : List Char) : List Char :=
  List.replicate (width - cs.length) '0' ++ cs

/-- The exponent part of a numeral. -/
def exponentText (layout : FloatLayout) (e : Int) : List Char :=
  'e' :: (if e < 0 then '-' else '+')
    :: padLeft layout.exponentWidth (digits e.natAbs)

/-- The number of digits before the point, if the numeral is written without an
exponent. -/
def pointOf (d : Decimal) : Int := ((digits d.digits).length : Int) + d.exponent

/-- A decimal numeral is written without an exponent. -/
def isPositional (layout : FloatLayout) (d : Decimal) : Bool :=
  layout.leastPoint < pointOf d && pointOf d ≤ layout.greatestPoint

/-- A positive decimal numeral in a layout. -/
def decimalText (layout : FloatLayout) (d : Decimal) : List Char :=
  let ds := digits d.digits
  let point := pointOf d
  if isPositional layout d then
    if point ≤ 0 then '0' :: '.' :: List.replicate (-point).toNat '0' ++ ds
    else if (ds.length : Int) ≤ point then
      ds ++ List.replicate (point.toNat - ds.length) '0' ++ ['.', '0']
    else ds.take point.toNat ++ '.' :: ds.drop point.toNat
  else
    ds.take 1 ++ (if ds.length = 1 then [] else '.' :: ds.drop 1)
      ++ exponentText layout (point - 1)

/-- A positive decimal numeral without an exponent, however long that is; an
integer has no point. -/
def writtenOut (d : Decimal) : List Char :=
  let ds := digits d.digits
  let point := pointOf d
  if 0 ≤ d.exponent then ds ++ List.replicate d.exponent.toNat '0'
  else if point ≤ 0 then '0' :: '.' :: List.replicate (-point).toNat '0' ++ ds
  else ds.take point.toNat ++ '.' :: ds.drop point.toNat

/-- A magnitude in a layout. -/
def magnitudeText (layout : FloatLayout) (m : Nat) (e : Int) : List Char :=
  if m = 0 then ['0', '.', '0'] else decimalText layout (shortest m e)

/-- The spelling of the numbers that are not finite. -/
structure SpecialNames where
  nan : String
  infinity : String

/-- A floating-point number as text. -/
def floatText (names : SpecialNames) : Binary64 → List Char
  | .nan => names.nan.toList
  | .infinite false => names.infinity.toList
  | .infinite true => '-' :: names.infinity.toList
  | .finite false m e => magnitudeText floatLayout m e
  | .finite true m e => '-' :: magnitudeText floatLayout m e

end CodeAtlas.Number
