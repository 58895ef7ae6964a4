/-
CodeAtlas.Value.Conversion — values read as integers.

A truth value is one or zero, a floating-point number loses its fraction, and a
text is read as an integer numeral. What cannot be read gives a
`ConversionError`.
-/
import CodeAtlas.Value.Basic
import CodeAtlas.Number.Integer

namespace CodeAtlas.Value

open Number (IntegerError readInteger)

/-- Why a value is not read as an integer. -/
inductive ConversionError where
  | numeral (cause : IntegerError)
  | nan
  | infinity
  | notANumber (kind : String)

def ConversionError.message : ConversionError → String
  | .numeral cause => cause.message
  | .nan => "cannot convert float NaN to integer"
  | .infinity => "cannot convert float infinity to integer"
  | .notANumber kind =>
      "int() argument must be a string, a bytes-like object or a real number, "
        ++ "not '" ++ kind ++ "'"

/-- The integer that a value stands for. -/
def toInteger : Value → Except ConversionError Int
  | .bool b => .ok (if b then 1 else 0)
  | .int n => .ok n
  | .float .nan => .error .nan
  | .float (.infinite _) => .error .infinity
  | .float x => .ok (x.toInt?.getD 0)
  | .str s =>
      match readInteger s.toList with
      | .ok n => .ok n
      | .error cause => .error (.numeral cause)
  | v => .error (.notANumber v.kind)

end CodeAtlas.Value
