/-
CodeAtlas.Url.Domain.Punycode — labels in letters, digits and hyphens.

A label of any characters, given by their code points, is written in ASCII: its
ASCII characters come first, as they are, then a hyphen if there are some, then
a list of numbers. Each number tells where the next character goes in: it counts
the steps that a pointer makes over all places of the label, and over all code
points in their order, before it comes to the character.

A number is written with its least digit first. Which digit ends it depends on
its place and on a bias, which is adapted to the numbers before.

Main definitions: `punycode` writes a label, `ofPunycode?` reads it.
-/
namespace CodeAtlas.Url.Domain

/-! ## Numbers -/

/-- The number of digits: the letters, then the ten digits of ASCII. -/
def digitBase : Nat := 36

/-- A digit as a character. -/
def digitChar (d : Nat) : Char := Char.ofNat (if d < 26 then 97 + d else 22 + d)

/-- The value of a digit. -/
def digitValue? (c : Char) : Option Nat :=
  if 'a' ≤ c && c ≤ 'z' then some (c.toNat - 97)
  else if c.isDigit then some (c.toNat - 22)
  else none

/-- The least digit that does not end a number, at a place from 0 on. -/
def threshold (bias place : Nat) : Nat :=
  max 1 (min 26 (digitBase * (place + 1) - bias))

theorem threshold_pos (bias place : Nat) : 1 ≤ threshold bias place :=
  Nat.le_max_left _ _

/-- A number from a place on. -/
def numberText (bias place n : Nat) : List Char :=
  let t := threshold bias place
  if n < t then [digitChar n]
  else
    digitChar (t + (n - t) % (digitBase - t))
      :: numberText bias (place + 1) ((n - t) / (digitBase - t))
termination_by n
decreasing_by
  have := threshold_pos bias place
  exact Nat.lt_of_le_of_lt (Nat.div_le_self _ _) (by omega)

/-- Read a number from a place on, where its digits have a weight; `n` is what
the digits before have come to. The rest of the text is handed back. -/
def readNumber (bias : Nat) : (place weight n : Nat) → List Char → Option (Nat × List Char)
  | _, _, _, [] => none
  | place, weight, n, c :: rest =>
      match digitValue? c with
      | none => none
      | some d =>
          let t := threshold bias place
          if d < t then some (n + d * weight, rest)
          else readNumber bias (place + 1) (weight * (digitBase - t)) (n + d * weight) rest

theorem length_of_readNumber (bias : Nat) :
    ∀ (cs : List Char) (place weight n : Nat) (r : Nat × List Char),
      readNumber bias place weight n cs = some r → r.2.length < cs.length
  | [], _, _, _, _, h => by simp [readNumber] at h
  | c :: rest, place, weight, n, r, h => by
      rw [readNumber] at h
      split at h
      · simp at h
      · dsimp only at h
        split at h
        · cases h; simp
        · have := length_of_readNumber bias rest _ _ _ r h
          simp only [List.length_cons]; omega

/-! ## Bias -/

/-- The bias at the beginning. -/
def firstBias : Nat := 72

/-- Divide until a number is small; each division makes room for a digit. -/
def shrink (delta room : Nat) : Nat :=
  if 455 < delta then shrink (delta / 35) (room + digitBase)
  else room + digitBase * delta / (delta + 38)
termination_by delta
decreasing_by exact Nat.div_lt_self (by omega) (by omega)

/-- The bias after a number, with the length that the label has by then. The
first number is often much greater than the others. -/
def nextBias (isFirst : Bool) (delta length : Nat) : Nat :=
  let scaled := if isFirst then delta / 700 else delta / 2
  shrink (scaled + scaled / length) 0

/-! ## Writing -/

/-- The first code point outside of ASCII. -/
def asciiEnd : Nat := 128

/-- A label on the way to its written form: the steps since the last number, the
bias, how many characters are written, and the numbers. -/
structure Writing where
  delta : Nat
  bias : Nat
  length : Nat
  numbers : List Char

/-- Pass a character of the label while the code point `n` is written. -/
def Writing.pass (ascii n : Nat) (w : Writing) (m : Nat) : Writing :=
  if m < n then { w with delta := w.delta + 1 }
  else if m = n then
    { delta := 0
      bias := nextBias (w.length == ascii) w.delta (w.length + 1)
      length := w.length + 1
      numbers := w.numbers ++ numberText w.bias 0 w.delta }
  else w

/-- Write all characters with the given code points, the first of which is at
least `next`. -/
def Writing.run (label : List Nat) (ascii : Nat) : Writing → (next : Nat) → List Nat → Writing
  | w, _, [] => w
  | w, next, n :: rest =>
      let start := { w with delta := w.delta + (n - next) * (w.length + 1) }
      let w := label.foldl (Writing.pass ascii n) start
      Writing.run label ascii { w with delta := w.delta + 1 } (n + 1) rest

/-- A label in ASCII. -/
def punycode (label : List Nat) : List Char :=
  let ascii := label.filter (· < asciiEnd)
  let others := ((label.filter (asciiEnd ≤ ·)).mergeSort).eraseDups
  let start : Writing := ⟨0, firstBias, ascii.length, []⟩
  ascii.map Char.ofNat ++ (if ascii.isEmpty then [] else ['-'])
    ++ (start.run label ascii.length asciiEnd others).numbers

/-! ## Reading -/

/-- Put characters into a label as numbers tell: `n` is the code point and
`place` the place that the pointer has come to. -/
def insertAll (isFirst : Bool) (bias n place : Nat) (label : List Nat) (cs : List Char) :
    Option (List Nat) :=
  if cs.isEmpty then some label
  else
    match h : readNumber bias 0 1 0 cs with
    | none => none
    | some (delta, rest) =>
        have : rest.length < cs.length := length_of_readNumber bias cs 0 1 0 _ h
        let places := label.length + 1
        let n := n + (place + delta) / places
        let place := (place + delta) % places
        insertAll false (nextBias isFirst delta places) n (place + 1)
          (label.take place ++ n :: label.drop place) rest
termination_by cs.length

/-- Read a label from ASCII. The last hyphen divides the characters from the
numbers. -/
def ofPunycode? (cs : List Char) : Option (List Nat) :=
  let numbers := (cs.reverse.takeWhile (· ≠ '-')).reverse
  let ascii := (cs.take (cs.length - numbers.length)).dropLast
  insertAll true firstBias asciiEnd 0 (ascii.map Char.toNat) numbers

end CodeAtlas.Url.Domain
