/-
CodeAtlas.Text.Surrogate — characters in pairs of code units.

A character beyond the basic plane may be written as two units, a leading and a
trailing surrogate. `joinUnits` reads a list in which such units and whole code
points are mixed. A surrogate that stands alone is no character and is read as
the replacement character.

Texts that differ in such surrogates only are therefore one text here.
-/
namespace CodeAtlas.Text

/-- Stands for what cannot be read. -/
def replacementChar : Char := Char.ofNat 0xFFFD

/-- A code unit that begins a surrogate pair. -/
def isLeading (n : Nat) : Bool := 0xD800 ≤ n && n < 0xDC00

/-- A code unit that ends a surrogate pair. -/
def isTrailing (n : Nat) : Bool := 0xDC00 ≤ n && n < 0xE000

/-- The character of a code point or unit that is not part of a pair. -/
def unitChar (n : Nat) : Char :=
  if isLeading n || isTrailing n then replacementChar else Char.ofNat n

/-- The character of a surrogate pair. -/
def pairChar (high low : Nat) : Char :=
  Char.ofNat (65536 + (high - 0xD800) * 1024 + (low - 0xDC00))

/-- The characters of a list of code points and units: a leading unit and a
trailing one after it are one character. -/
def joinUnits : List Nat → List Char
  | [] => []
  | [n] => [unitChar n]
  | n :: m :: rest =>
      if isLeading n && isTrailing m then pairChar n m :: joinUnits rest
      else unitChar n :: joinUnits (m :: rest)

end CodeAtlas.Text
