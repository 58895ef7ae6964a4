/-
CodeAtlas.Number.Binary64 — floating-point numbers of 64 bits, exactly.

A finite number is a sign, a natural mantissa and a power of two, so that its
value is `mantissa * 2 ^ exponent` and every operation here is arithmetic on
natural numbers. Numbers that `ofRatio` builds are in normal form: the mantissa
has 53 bits, or the exponent is the least one, -1074.

`ofRatio` rounds a quotient to the nearest number, halves to the even mantissa;
`ofDecimal` does so for a decimal numeral. What is too large becomes infinite.
-/
import CodeAtlas.Number.Integer

namespace CodeAtlas.Number

/-- A floating-point number of 64 bits. -/
inductive Binary64 where
  | nan
  | infinite (negative : Bool)
  | finite (negative : Bool) (mantissa : Nat) (exponent : Int)
  deriving DecidableEq

namespace Binary64

/-- The least exponent of a finite number. -/
def minExponent : Int := -1074

/-- The greatest exponent of a finite number. -/
def maxExponent : Int := 971

/-- Zero with a sign. -/
def zero (negative : Bool) : Binary64 := .finite negative 0 minExponent

/-- `n * 2 ^ e` for `e` not negative, and `n` otherwise. -/
def scaleUp (n : Nat) (e : Int) : Nat := n * Nat.pow 2 e.toNat

/-- The quotient rounded to the nearest natural number, halves to even. -/
def roundHalfEven (num den : Nat) : Nat :=
  let q := num / den
  let r := num % den
  if 2 * r < den then q
  else if den < 2 * r then q + 1
  else if q % 2 = 0 then q else q + 1

/-- The exponent at which a quotient of positive numbers has 53 bits before
the point, and at least the least exponent. -/
def exponentOf (num den : Nat) : Int :=
  let e : Int := (Nat.log2 num : Int) - (Nat.log2 den : Int) - 53
  let q := scaleUp num (-e) / scaleUp den e
  max minExponent (if q < Nat.pow 2 53 then e else e + 1)

/-- The number nearest to a quotient with positive denominator. -/
def ofRatio (negative : Bool) (num den : Nat) : Binary64 :=
  if num = 0 then zero negative
  else
    let e := exponentOf num den
    let m := roundHalfEven (scaleUp num (-e)) (scaleUp den e)
    let (m, e) := if m = Nat.pow 2 53 then (Nat.pow 2 52, e + 1) else (m, e)
    if maxExponent < e then .infinite negative else .finite negative m e

/-- Decimal numerals beyond this power of ten need no arithmetic. -/
def decimalReach : Int := 400

/-- The number nearest to `n * 10 ^ e`. -/
def ofDecimal (negative : Bool) (n : Nat) (e : Int) : Binary64 :=
  if n = 0 then zero negative
  else
    let size := ((digits n).length : Int) + e
    if decimalReach < size then .infinite negative
    else if size < -decimalReach then zero negative
    else ofRatio negative (n * Nat.pow 10 e.toNat) (Nat.pow 10 (-e).toNat)

/-- The integer part, towards zero; none for NaN and the infinities. -/
def toInt? : Binary64 → Option Int
  | .nan => none
  | .infinite _ => none
  | .finite negative m e =>
      let n := scaleUp m e / Nat.pow 2 (-e).toNat
      some (if negative then -(n : Int) else n)

/-- The number is plus or minus zero. -/
def isZero : Binary64 → Bool
  | .finite _ m _ => m == 0
  | _ => false

/-- The number is neither NaN nor infinite. -/
def isFinite : Binary64 → Bool
  | .finite .. => true
  | _ => false

/-- The number is the given integer. -/
def equalsInt : Binary64 → Int → Bool
  | .finite negative m e, n =>
      let v : Int := scaleUp m e
      (if negative then -v else v) == n * (Nat.pow 2 (-e).toNat : Nat)
  | _, _ => false

/-- Equality of values: NaN differs from itself and the two zeros are equal. -/
def equals : Binary64 → Binary64 → Bool
  | .nan, _ => false
  | .infinite a, .infinite b => a == b
  | .finite a m e, .finite b n f =>
      (m == 0 && n == 0) || (a == b && m == n && e == f)
  | _, _ => false

end Binary64

end CodeAtlas.Number
