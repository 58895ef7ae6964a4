/-
CodeAtlas.Text.Percent — bytes written as `%` and two hexadecimal digits.

`percentEncode` leaves the characters of a class as they are and writes every
other character as the bytes of its UTF-8 form, each with capital digits.
`percentDecode` reads such bytes back and leaves everything else alone.
-/
import CodeAtlas.Text.Utf8

namespace CodeAtlas.Text

/-- Characters that never need to be written as bytes. -/
def isUnreserved (c : Char) : Bool :=
  c.isAlphanum || c = '-' || c = '.' || c = '_' || c = '~'

/-- A capital hexadecimal digit. -/
def capitalDigit (n : Nat) : Char := (Nat.digitChar n).toUpper

/-- A byte as `%` and two digits. -/
def percentByte (b : UInt8) : List Char :=
  ['%', capitalDigit (b.toNat / 16), capitalDigit (b.toNat % 16)]

/-- A character as it is, or as its bytes. -/
def percentChar (keep : Char → Bool) (c : Char) : List Char :=
  if keep c then [c] else (String.utf8EncodeChar c).flatMap percentByte

/-- Write the characters outside a class as bytes. -/
def percentEncode (keep : Char → Bool) (cs : List Char) : List Char :=
  cs.flatMap (percentChar keep)

/-- A character of a form field: as in `percentEncode`, with a plus sign for a
blank. -/
def formChar (c : Char) : List Char :=
  if c = ' ' then ['+'] else percentChar isUnreserved c

/-- A text of a form field. -/
def formEncode (cs : List Char) : List Char := cs.flatMap formChar

/-- The value of a byte that is a hexadecimal digit. -/
def hexByte? (b : UInt8) : Option Nat :=
  if 0x30 ≤ b && b ≤ 0x39 then some (b.toNat - 0x30)
  else if 0x41 ≤ b && b ≤ 0x46 then some (b.toNat - 0x41 + 10)
  else if 0x61 ≤ b && b ≤ 0x66 then some (b.toNat - 0x61 + 10)
  else none

/-- Read bytes that are written as `%` and two digits. -/
def percentDecode : List UInt8 → List UInt8
  | a :: b :: c :: rest =>
      if a = 0x25 then
        match hexByte? b, hexByte? c with
        | some high, some low =>
            UInt8.ofNat (high * 16 + low) :: percentDecode rest
        | _, _ => a :: percentDecode (b :: c :: rest)
      else a :: percentDecode (b :: c :: rest)
  | rest => rest

end CodeAtlas.Text
