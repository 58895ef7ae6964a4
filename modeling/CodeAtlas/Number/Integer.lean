/-
CodeAtlas.Number.Integer — integers as text.

An integer is written in plain decimal digits. Integers of more than
`digitLimit` digits are neither read nor written: reading reports the number of
digits (`IntegerError.tooManyDigits`), and whoever writes one asks
`withinLimit` first.

`readInteger` accepts layout around the number, one sign, decimal digits of any
script and single underscores between digits.
-/
import CodeAtlas.Text.Numeral
import CodeAtlas.Text.Quoted

namespace CodeAtlas.Number

/-- The largest number of decimal digits that is read or written. -/
def digitLimit : Nat := 4300

/-- The integer can be written. -/
def withinLimit (n : Int) : Bool := n.natAbs < Nat.pow 10 digitLimit

/-- The decimal digits of a natural number. -/
def digits (n : Nat) : List Char := Nat.toDigits 10 n

/-- The value of a list of digit values, the most significant first. -/
def ofDigits (ds : List Nat) : Nat := ds.foldl (fun n d => 10 * n + d) 0

/-- The text of an integer. -/
def integerText (n : Int) : List Char :=
  if n < 0 then '-' :: digits n.natAbs else digits n.natAbs

/-- Why a text is not read as an integer. -/
inductive IntegerError where
  /-- The text does not have the form of an integer. -/
  | notAnInteger (text : List Char)
  /-- The text has more digits than are read. -/
  | tooManyDigits (count : Nat)

/-- How much of a refused text is shown. -/
def shownWidth : Nat := 200

def IntegerError.message : IntegerError → String
  | .notAnInteger text =>
      "invalid literal for int() with base 10: "
        ++ String.ofList ((Text.quoted text).take shownWidth)
  | .tooManyDigits count =>
      "Exceeds the limit (" ++ toString digitLimit
        ++ " digits) for integer string conversion: value has "
        ++ toString count
        ++ " digits; use sys.set_int_max_str_digits() to increase the limit"

/-- What is said when an integer is too long to be written. -/
def tooLongToWrite : String :=
  "Exceeds the limit (" ++ toString digitLimit
    ++ " digits) for integer string conversion; use "
    ++ "sys.set_int_max_str_digits() to increase the limit"

/-- The longest start of the text that consists of digits and underscores. -/
def numeralPart (cs : List Char) : List Char :=
  cs.takeWhile fun c => (Text.decimalValue? c).isSome || c = '_'

/-- Underscores stand between digits, one at a time. -/
def wellSpaced : List Char → Bool
  | [] => false
  | [c] => c != '_'
  | '_' :: _ => false
  | _ :: '_' :: rest => wellSpaced rest
  | _ :: rest => wellSpaced rest

/-- The digit values in a numeral. -/
def digitValues (cs : List Char) : List Nat := cs.filterMap Text.decimalValue?

/-- Read a text as an integer. -/
def readInteger (text : List Char) : Except IntegerError Int :=
  let body := text.dropWhile Text.isLayout
  let negative := body.head? = some '-'
  let unsigned := if negative || body.head? = some '+' then body.tail else body
  let numeral := numeralPart unsigned
  let rest := unsigned.drop numeral.length
  if !wellSpaced numeral then .error (.notAnInteger text)
  else
    let ds := digitValues numeral
    if digitLimit < ds.length then .error (.tooManyDigits ds.length)
    else if rest.all Text.isLayout then
      .ok (if negative then -(ofDigits ds : Int) else (ofDigits ds : Int))
    else .error (.notAnInteger text)

end CodeAtlas.Number
