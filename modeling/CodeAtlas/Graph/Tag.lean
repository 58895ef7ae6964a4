/-
CodeAtlas.Graph.Tag — reading levels, relations and severities from values.

A tag of the graph service is read without regard to case and surrounding
blanks; what is no word of the vocabulary is no tag, and never an error.

Costs are read in two ways. `Severity.ofCost` is for the graph itself: an
integer code names its severity and everything else is unknown.
`Severity.ofAny` is for data written by hand: it also takes words, numerals and
floating-point numbers, and null is the lowest severity. It fails only where a
numeral of digit-like characters cannot be read, or where the value is too long
to be put into words.

In the program these are `parse` of `NodeLevel` and `EdgeType`, and `from_code`
and `from_any` of `CostLevel`.
-/
import CodeAtlas.Value.Display
import CodeAtlas.Text.Case
import CodeAtlas.Text.Numeral

namespace CodeAtlas.Graph

open Number (IntegerError readInteger)

/-- A tag brought to the form of the vocabularies. -/
def normalTag (cs : List Char) : String :=
  String.ofList (Text.upper (Text.trim Text.isBlank cs))

/-- The level that a value names. -/
def Level.ofValue? : Value → Option Level
  | .member (.level l) => some l
  | .str s => Level.all.find? fun l => l.label == normalTag s.toList
  | _ => none

/-- The relation that a value names. -/
def Relation.ofValue? : Value → Option Relation
  | .member (.relation r) => some r
  | .str s => Relation.all.find? fun r => r.label == normalTag s.toList
  | _ => none

/-- The severity of a cost in the graph. -/
def Severity.ofCost : Value → Severity
  | .int n => Severity.ofCode n
  | _ => .unknown

/-- Why a cost cannot be read. -/
inductive CostError where
  | numeral (cause : IntegerError)
  | tooLong

def CostError.message : CostError → String
  | .numeral cause => cause.message
  | .tooLong => Number.tooLongToWrite

/-- The severity that a word or a numeral names. -/
def Severity.ofWord (word : List Char) : Except CostError Severity :=
  let tag := (Text.upper (Text.trim Text.isBlank word))
  let numeral := tag.dropWhile (· = '-')
  if !numeral.isEmpty && numeral.all Text.isDigitLike then
    match readInteger tag with
    | .ok n => .ok (Severity.ofCode n)
    | .error cause => .error (.numeral cause)
  else
    .ok ((Severity.known.find? fun s => s.label == String.ofList tag).getD .unknown)

/-- The severity of a cost written by hand. -/
def Severity.ofAny : Value → Except CostError Severity
  | .null => .ok .lowest
  | .bool _ => .ok .unknown
  | .int n => .ok (Severity.ofCode n)
  | .float x => .ok ((x.toInt?.map Severity.ofCode).getD .unknown)
  | v =>
      match v.text? with
      | some s => Severity.ofWord s.toList
      | none => .error .tooLong

end CodeAtlas.Graph
