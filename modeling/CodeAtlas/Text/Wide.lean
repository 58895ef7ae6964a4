/-
CodeAtlas.Text.Wide — texts as bytes in UTF-16 and UTF-32.

Both readers take the order of the bytes as an argument. A surrogate that
stands alone is read as the replacement character; bytes left over at the end,
and numbers beyond the last code point, are faults.
-/
import CodeAtlas.Text.Utf8

namespace CodeAtlas.Text

/-- The order of the bytes of a unit. -/
inductive Endian where
  | little
  | big
  deriving DecidableEq

def Endian.suffix : Endian → String
  | .little => "le"
  | .big => "be"

/-- The unit of sixteen bits in two bytes. -/
def Endian.unit16 : Endian → UInt8 → UInt8 → Nat
  | .little, a, b => b.toNat * 256 + a.toNat
  | .big, a, b => a.toNat * 256 + b.toNat

/-- The unit of thirty-two bits in four bytes. -/
def Endian.unit32 : Endian → UInt8 → UInt8 → UInt8 → UInt8 → Nat
  | .little, a, b, c, d =>
      ((d.toNat * 256 + c.toNat) * 256 + b.toNat) * 256 + a.toNat
  | .big, a, b, c, d =>
      ((a.toNat * 256 + b.toNat) * 256 + c.toNat) * 256 + d.toNat

/-- The units of sixteen bits in a list of bytes. -/
def units16 (endian : Endian) (pos : Nat) :
    List UInt8 → Except DecodingError (List Nat)
  | [] => .ok []
  | [b] => .error ⟨"utf-16-" ++ endian.suffix, pos, [b], "truncated data"⟩
  | a :: b :: rest =>
      match units16 endian (pos + 2) rest with
      | .ok ns => .ok (endian.unit16 a b :: ns)
      | .error e => .error e

/-- Read bytes from a position on as UTF-16. -/
def decodeUtf16 (endian : Endian) (pos : Nat) (bytes : List UInt8) :
    Except DecodingError (List Char) :=
  match units16 endian pos bytes with
  | .ok units => .ok (joinUnits units)
  | .error e => .error e

/-- Read bytes from a position on as UTF-32. -/
def decodeUtf32 (endian : Endian) (pos : Nat) :
    List UInt8 → Except DecodingError (List Char)
  | [] => .ok []
  | a :: b :: c :: d :: rest =>
      let n := endian.unit32 a b c d
      if 0x110000 ≤ n then
        .error ⟨"utf-32-" ++ endian.suffix, pos, [a, b, c, d],
          "code point not in range(0x110000)"⟩
      else match decodeUtf32 endian (pos + 4) rest with
        | .ok cs => .ok (unitChar n :: cs)
        | .error e => .error e
  | bytes => .error ⟨"utf-32-" ++ endian.suffix, pos, bytes, "truncated data"⟩

end CodeAtlas.Text
