/-
CodeAtlas.Number.Shortest — the fewest decimal digits that read back.

The reals that round to `m * 2 ^ e` form an interval around it, which contains
its ends exactly if `m` is even. `shortest` looks for the coarsest decimal grid
with a point in that interval: for one digit, two digits, and so on it tests
the two neighbours of the value on the grid. Of two points that hit it takes
the nearer, and of two equally near the even one.
-/
import CodeAtlas.Number.Binary64

namespace CodeAtlas.Number

/-- A decimal numeral: `digits * 10 ^ exponent`. -/
structure Decimal where
  digits : Nat
  exponent : Int
  deriving DecidableEq

/-- A value with the interval of reals that round to it, all three counted in
quarters of the unit in the last place, `2 ^ scale`. -/
structure Rounding where
  low : Nat
  mid : Nat
  high : Nat
  scale : Int
  closed : Bool

/-- The interval of reals that round to `m * 2 ^ e`. Below a power of two the
grid is finer, so the interval is shorter there. -/
def Rounding.of (m : Nat) (e : Int) : Rounding where
  low := if m = Nat.pow 2 52 && Binary64.minExponent < e then 4 * m - 1 else 4 * m - 2
  mid := 4 * m
  high := 4 * m + 2
  scale := e - 2
  closed := m % 2 == 0

/-- A point between the ends of the interval. All three are in one unit. -/
def Rounding.contains (r : Rounding) (unit point : Nat) : Bool :=
  if r.closed then r.low * unit ≤ point && point ≤ r.high * unit
  else r.low * unit < point && point < r.high * unit

/-- The point on the grid of multiples of `10 ^ p` that stands for the value,
if the grid has one in the interval. -/
def Rounding.onGrid (r : Rounding) (p : Int) : Option Nat :=
  let step := Nat.pow 10 p.toNat * Nat.pow 2 (-r.scale).toNat
  let unit := Nat.pow 2 r.scale.toNat * Nat.pow 10 (-p).toNat
  let below := r.mid * unit / step
  let left := r.mid * unit % step
  let lower := r.contains unit (below * step)
  let upper := r.contains unit ((below + 1) * step)
  if lower && upper then
    if 2 * left < step then some below
    else if step < 2 * left then some (below + 1)
    else some (if below % 2 = 0 then below else below + 1)
  else if lower then some below
  else if upper then some (below + 1)
  else none

/-- `10 ^ t` is at most `n * 2 ^ s`. -/
def powerAtMost (t : Int) (n : Nat) (s : Int) : Bool :=
  Nat.pow 10 t.toNat * Nat.pow 2 (-s).toNat
    ≤ n * Nat.pow 2 s.toNat * Nat.pow 10 (-t).toNat

/-- The greatest `t` for which `10 ^ t` is at most the positive number
`n * 2 ^ s`. -/
def decimalOrder (n : Nat) (s : Int) : Int :=
  let guess : Int := (((Nat.log2 n : Int) + s) * 30103) / 100000
  if powerAtMost (guess + 1) n s then guess + 1
  else if powerAtMost guess n s then guess
  else guess - 1

/-- Drop the zeros at the end of a numeral. -/
def Decimal.strip : Nat → Decimal → Decimal
  | 0, d => d
  | fuel + 1, d =>
      if d.digits ≠ 0 && d.digits % 10 = 0
      then Decimal.strip fuel ⟨d.digits / 10, d.exponent + 1⟩ else d

/-- Seventeen digits always suffice. -/
def maxDigits : Nat := 17

/-- The shortest decimal numeral that reads back as `m * 2 ^ e`, for a positive
mantissa. -/
def shortest (m : Nat) (e : Int) : Decimal :=
  let r := Rounding.of m e
  let order := decimalOrder r.mid r.scale
  let found := (List.range maxDigits).findSome? fun (k : Nat) =>
    (r.onGrid (order - (k : Int))).map fun n => (⟨n, order - (k : Int)⟩ : Decimal)
  (found.getD ⟨m, e⟩).strip (maxDigits + 1)

end CodeAtlas.Number
