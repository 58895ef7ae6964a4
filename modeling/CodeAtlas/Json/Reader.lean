/-
CodeAtlas.Json.Reader — JSON text as values.

The reader works on lists of characters. A reader of part of a document returns
what it read and the rest of the text; where it stops, it says what it expected
and hands back the rest, so the place of the fault is known by what is left.

Beyond the grammar of JSON, the names of the numbers that are not finite are
read, a repeated key keeps its first place and takes its last value, and a
surrogate that stands alone is read as the replacement character, so texts that
differ in such surrogates only are one text here. Two limits apply: integers have
at most `Number.digitLimit` digits, and containers nest at most `depth` deep. The
second is no constant: a reader takes the levels that the calls under way have
left, and those differ from one chain of calls to the next.

`value` recurses on the depth that is left. The items of one container are read
by `elements` and `members`, which are given the reader of one item.

The program leaves this to a library. The reader is modelled as `from_json` of
`SliceSerializer` and the two sources use it.
-/
import CodeAtlas.Value.Basic
import CodeAtlas.Number.Binary64
import CodeAtlas.Text.Surrogate

namespace CodeAtlas.Json

open Number (Binary64 IntegerError)

/-- What is wrong with a text. -/
inductive Problem where
  | expectedValue
  | expectedName
  | expectedColon
  | expectedComma
  | unterminatedString
  | controlCharacter
  | badEscape
  | badUnicodeEscape
  | extraData
  | byteOrderMark
  deriving DecidableEq

def Problem.message : Problem → String
  | .expectedValue => "Expecting value"
  | .expectedName => "Expecting property name enclosed in double quotes"
  | .expectedColon => "Expecting ':' delimiter"
  | .expectedComma => "Expecting ',' delimiter"
  | .unterminatedString => "Unterminated string starting at"
  | .controlCharacter => "Invalid control character at"
  | .badEscape => "Invalid \\escape"
  | .badUnicodeEscape => "Invalid \\uXXXX escape"
  | .extraData => "Extra data"
  | .byteOrderMark => "Unexpected UTF-8 BOM (decode using utf-8-sig)"

/-- The two kinds of containers. -/
inductive Container where
  | array
  | object
  deriving DecidableEq

def Container.name : Container → String
  | .array => "array"
  | .object => "object"

/-- Why reading stops before the end. -/
inductive Halt where
  /-- The text is at fault, where `rest` begins. -/
  | fault (problem : Problem) (rest : List Char)
  /-- An integer has too many digits. -/
  | tooManyDigits (count : Nat)
  /-- Containers nest too deep; `container` is the first one too many. -/
  | tooDeep (container : Container)

/-- Reads the start of a text and returns the rest. -/
abbrev Reader (α : Type) := List Char → Except Halt (α × List Char)

/-! ## Strings -/

/-- White space of JSON. -/
def isSpace (c : Char) : Bool := c = ' ' || c = '\t' || c = '\n' || c = '\r'

/-- The text from its first character on that is no white space. -/
def skip (cs : List Char) : List Char := cs.dropWhile isSpace

/-- The value of a hexadecimal digit. -/
def hexValue? (c : Char) : Option Nat :=
  if '0' ≤ c && c ≤ '9' then some (c.toNat - 48)
  else if 'a' ≤ c && c ≤ 'f' then some (c.toNat - 87)
  else if 'A' ≤ c && c ≤ 'F' then some (c.toNat - 55)
  else none

/-- The value of four hexadecimal digits. -/
def hexUnit? (a b c d : Char) : Option Nat := do
  let a ← hexValue? a
  let b ← hexValue? b
  let c ← hexValue? c
  let d ← hexValue? d
  return ((a * 16 + b) * 16 + c) * 16 + d

/-- The character that a letter after a backslash stands for. -/
def shortEscape? : Char → Option Char
  | '"' => some '"'
  | '\\' => some '\\'
  | '/' => some '/'
  | 'b' => some (Char.ofNat 8)
  | 'f' => some (Char.ofNat 12)
  | 'n' => some '\n'
  | 'r' => some '\r'
  | 't' => some '\t'
  | _ => none

/-- Put a code point in front of what is read next. -/
def push (n : Nat) : Except Halt (List Nat × List Char) →
    Except Halt (List Nat × List Char)
  | .ok (ns, rest) => .ok (n :: ns, rest)
  | .error h => .error h

/-- Read a string after its opening quote, as code points and escaped units;
`opening` is the text from that quote on. An escape by number is not the last
thing in a text. -/
def stringUnits (opening : List Char) : Reader (List Nat)
  | [] => .error (.fault .unterminatedString opening)
  | '"' :: rest => .ok ([], rest)
  | ['\\'] => .error (.fault .unterminatedString opening)
  | '\\' :: 'u' :: a :: b :: c :: d :: rest =>
      match hexUnit? a b c d, rest.isEmpty with
      | some n, false => push n (stringUnits opening rest)
      | _, _ => .error (.fault .badUnicodeEscape ('u' :: a :: b :: c :: d :: rest))
  | '\\' :: 'u' :: rest => .error (.fault .badUnicodeEscape ('u' :: rest))
  | '\\' :: e :: rest =>
      match shortEscape? e with
      | some c => push c.toNat (stringUnits opening rest)
      | none => .error (.fault .badEscape ('\\' :: e :: rest))
  | c :: rest =>
      if c.toNat < 32 then .error (.fault .controlCharacter (c :: rest))
      else push c.toNat (stringUnits opening rest)

/-- Read a string after its opening quote. -/
def stringBody (opening : List Char) : Reader String := fun cs =>
  match stringUnits opening cs with
  | .ok (units, rest) => .ok (String.ofList (Text.joinUnits units), rest)
  | .error h => .error h

/-! ## Numbers -/

/-- A numeral: sign, digits before and after the point, and exponent. -/
structure Numeral where
  negative : Bool
  whole : List Char
  fraction : Option (List Char)
  exponent : Option (Bool × List Char)

/-- The digits at the start of a text, and the rest. -/
def spanDigits (cs : List Char) : List Char × List Char :=
  (cs.takeWhile Char.isDigit, cs.dropWhile Char.isDigit)

/-- Digits after a point; a point without digits is left alone. -/
def fractionPart : List Char → Option (List Char) × List Char
  | '.' :: rest =>
      let (ds, after) := spanDigits rest
      if ds.isEmpty then (none, '.' :: rest) else (some ds, after)
  | cs => (none, cs)

/-- The sign of an exponent. -/
def exponentSign : List Char → Bool × List Char
  | '-' :: rest => (true, rest)
  | '+' :: rest => (false, rest)
  | cs => (false, cs)

/-- An exponent; a mark without digits is left alone. -/
def exponentPart : List Char → Option (Bool × List Char) × List Char
  | [] => (none, [])
  | c :: rest =>
      if c = 'e' || c = 'E' then
        let (negative, digits) := exponentSign rest
        let (ds, after) := spanDigits digits
        if ds.isEmpty then (none, c :: rest) else (some (negative, ds), after)
      else (none, c :: rest)

/-- Digits before the point: a zero stands alone. -/
def wholePart : List Char → Option (List Char × List Char)
  | [] => none
  | c :: rest =>
      if c = '0' then some (['0'], rest)
      else if c.isDigit then some (spanDigits (c :: rest))
      else none

/-- The numeral at the start of a text, and the rest. -/
def numeral (cs : List Char) : Option (Numeral × List Char) :=
  let negative := cs.head? = some '-'
  let unsigned := if negative then cs.tail else cs
  match wholePart unsigned with
  | none => none
  | some (whole, rest) =>
      let (fraction, rest) := fractionPart rest
      let (exponent, rest) := exponentPart rest
      some (⟨negative, whole, fraction, exponent⟩, rest)

/-- The value of decimal digits. -/
def digitsValue (ds : List Char) : Nat :=
  ds.foldl (fun n d => 10 * n + (d.toNat - 48)) 0

/-- The exponent of a numeral as an integer. -/
def exponentValue : Option (Bool × List Char) → Int
  | none => 0
  | some (negative, ds) =>
      if negative then -(digitsValue ds : Int) else digitsValue ds

/-- The value of a numeral: without fraction and exponent it is an integer. -/
def Numeral.value (n : Numeral) : Except Halt Value :=
  match n.fraction, n.exponent with
  | none, none =>
      if Number.digitLimit < n.whole.length then
        .error (.tooManyDigits n.whole.length)
      else
        let m := digitsValue n.whole
        .ok (.int (if n.negative then -(m : Int) else m))
  | fraction, exponent =>
      let places := fraction.getD []
      .ok (.float (Binary64.ofDecimal n.negative
        (digitsValue (n.whole ++ places))
        (exponentValue exponent - (places.length : Int))))

/-! ## Values -/

/-- The words that stand for values. -/
def words : List (List Char × Value) :=
  [("null".toList, .null), ("true".toList, .bool true),
   ("false".toList, .bool false), ("NaN".toList, .float .nan),
   ("Infinity".toList, .float (.infinite false)),
   ("-Infinity".toList, .float (.infinite true))]

/-- A value that is no string and no container. -/
def scalar : Reader Value := fun cs =>
  match words.find? fun w => w.1.isPrefixOf cs with
  | some w => .ok (w.2, cs.drop w.1.length)
  | none =>
      match numeral cs with
      | none => .error (.fault .expectedValue cs)
      | some (n, rest) =>
          match n.value with
          | .ok v => .ok (v, rest)
          | .error h => .error h

/-- The items of an array up to its end, from the first item on. -/
def elements (item : Reader Value) : Nat → Reader (List Value)
  | 0, cs => .error (.fault .expectedValue cs)
  | fuel + 1, cs =>
      match item cs with
      | .error h => .error h
      | .ok (v, rest) =>
          match skip rest with
          | ']' :: rest => .ok ([v], rest)
          | ',' :: rest =>
              match elements item fuel (skip rest) with
              | .ok (vs, rest) => .ok (v :: vs, rest)
              | .error h => .error h
          | rest => .error (.fault .expectedComma rest)

/-- The name of a field with the colon after it. -/
def fieldName : Reader String := fun cs =>
  match cs with
  | '"' :: body =>
      match stringBody cs body with
      | .error h => .error h
      | .ok (name, rest) =>
          match skip rest with
          | ':' :: rest => .ok (name, skip rest)
          | rest => .error (.fault .expectedColon rest)
  | _ => .error (.fault .expectedName cs)

/-- The fields of an object up to its end, from the first field on. -/
def members (item : Reader Value) : Nat → Reader (List (String × Value))
  | 0, cs => .error (.fault .expectedName cs)
  | fuel + 1, cs =>
      match fieldName cs with
      | .error h => .error h
      | .ok (name, rest) =>
          match item rest with
          | .error h => .error h
          | .ok (v, rest) =>
              match skip rest with
              | '\x7d' :: rest => .ok ([(name, v)], rest)
              | ',' :: rest =>
                  match members item fuel (skip rest) with
                  | .ok (es, rest) => .ok ((name, v) :: es, rest)
                  | .error h => .error h
              | rest => .error (.fault .expectedComma rest)

/-- An array after its opening bracket. -/
def arrayBody (fuel : Nat) (item : Reader Value) : Reader Value := fun cs =>
  match skip cs with
  | ']' :: rest => .ok (.list [], rest)
  | rest =>
      match elements item fuel rest with
      | .ok (vs, rest) => .ok (.list vs, rest)
      | .error h => .error h

/-- An object after its opening brace. -/
def objectBody (fuel : Nat) (item : Reader Value) : Reader Value := fun cs =>
  match skip cs with
  | '\x7d' :: rest => .ok (.dict [], rest)
  | rest =>
      match members item fuel rest with
      | .ok (es, rest) => .ok (.dict (Table.ofPairs es), rest)
      | .error h => .error h

/-- A value, given the readers of the two kinds of containers. -/
def term (array object : Reader Value) : Reader Value
  | '"' :: body =>
      match stringBody ('"' :: body) body with
      | .ok (s, rest) => .ok (.str s, rest)
      | .error h => .error h
  | '[' :: body => array body
  | '\x7b' :: body => object body
  | cs => scalar cs

/-- A value whose containers nest at most `depth` deep and have at most `fuel`
items each; a text has fewer items than characters. -/
def value (fuel : Nat) : (depth : Nat) → Reader Value
  | 0 =>
      term (fun _ => .error (.tooDeep .array)) (fun _ => .error (.tooDeep .object))
  | depth + 1 =>
      term (arrayBody fuel (value fuel depth)) (objectBody fuel (value fuel depth))

/-! ## Documents -/

/-- Why a text is no document. -/
inductive ReadError where
  | malformed (problem : Problem) (line column position : Nat)
  | tooManyDigits (count : Nat)
  | tooDeep (container : Container)

def ReadError.message : ReadError → String
  | .malformed problem line column position =>
      problem.message ++ ": line " ++ toString line ++ " column "
        ++ toString column ++ " (char " ++ toString position ++ ")"
  | .tooManyDigits count => (IntegerError.tooManyDigits count).message
  | .tooDeep container =>
      "maximum recursion depth exceeded while decoding a JSON "
        ++ container.name ++ " from a unicode string"

/-- A fault at a place in a text, counted from the text before it. -/
def malformedAfter (before : List Char) (problem : Problem) : ReadError :=
  .malformed problem (before.count '\n' + 1)
    ((before.reverse.takeWhile (· ≠ '\n')).length + 1) before.length

/-- Why reading `text` stopped. -/
def Halt.toError (text : List Char) : Halt → ReadError
  | .fault problem rest =>
      malformedAfter (text.take (text.length - rest.length)) problem
  | .tooManyDigits count => .tooManyDigits count
  | .tooDeep container => .tooDeep container

/-- Read a whole text as one value whose containers nest at most `depth` deep. -/
def document (depth : Nat) (text : List Char) : Except ReadError Value :=
  match value (text.length + 1) depth (skip text) with
  | .error h => .error (h.toError text)
  | .ok (v, rest) =>
      if (skip rest).isEmpty then .ok v
      else .error ((Halt.fault .extraData (skip rest)).toError text)

/-- Read a text that must not begin with a byte order mark. -/
def read (depth : Nat) (text : List Char) : Except ReadError Value :=
  if text.head? = some (Char.ofNat 0xFEFF) then
    .error (malformedAfter [] .byteOrderMark)
  else document depth text

end CodeAtlas.Json
