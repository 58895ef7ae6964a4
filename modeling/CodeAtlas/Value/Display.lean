/-
CodeAtlas.Value.Display — values as text.

`text` is a value as it appears in a message or as an identifier: a text is
itself. `literal` is a value as it appears inside a list or a dictionary: a
text is quoted. Both are defined for every value; `isWritable` says whether all
integers in it are short enough to be written, and `text?` and `literal?` give
the text only then.
-/
import CodeAtlas.Value.Basic
import CodeAtlas.Number.Layout
import CodeAtlas.Text.Quoted

namespace CodeAtlas.Value

open Number (SpecialNames floatText integerText)
open CodeAtlas.Graph (Member Severity)

/-- The spelling of numbers that are not finite. -/
def specialNames : SpecialNames := ⟨"nan", "inf"⟩

/-- The names of the truth values. -/
def boolName (b : Bool) : String := if b then "True" else "False"

/-- The content of a member: its word, or code and colour of a severity. -/
def memberContent : Member → String
  | .severity s =>
      "(" ++ String.ofList (integerText s.code) ++ ", '" ++ s.color ++ "')"
  | m => "'" ++ m.label ++ "'"

mutual

/-- A value as part of a list or a dictionary. -/
def literal : Value → List Char
  | .null => "None".toList
  | .bool b => (boolName b).toList
  | .int n => integerText n
  | .float x => floatText specialNames x
  | .str s => Text.quoted s.toList
  | .list items => '[' :: literalItems items ++ [']']
  | .tuple items =>
      '(' :: literalItems items
        ++ (if items.length = 1 then [',', ')'] else [')'])
  | .dict entries => '\x7b' :: literalEntries entries ++ ['\x7d']
  | .member m =>
      ("<" ++ m.fullName ++ ": " ++ memberContent m ++ ">").toList

/-- Values one after the other, separated by commas. -/
def literalItems : List Value → List Char
  | [] => []
  | [v] => literal v
  | v :: vs => literal v ++ ',' :: ' ' :: literalItems vs

/-- Fields one after the other, separated by commas. -/
def literalEntries : List (String × Value) → List Char
  | [] => []
  | [(k, v)] => Text.quoted k.toList ++ ':' :: ' ' :: literal v
  | (k, v) :: es =>
      Text.quoted k.toList ++ ':' :: ' ' :: literal v
        ++ ',' :: ' ' :: literalEntries es

end

/-- A value on its own. -/
def text : Value → List Char
  | .str s => s.toList
  | .member m => m.fullName.toList
  | v => literal v

mutual

/-- All integers in the value are short enough to be written. -/
def isWritable : Value → Bool
  | .int n => Number.withinLimit n
  | .list items => areWritable items
  | .tuple items => areWritable items
  | .dict entries => fieldsWritable entries
  | _ => true

/-- All integers in the values are short enough to be written. -/
def areWritable : List Value → Bool
  | [] => true
  | v :: vs => isWritable v && areWritable vs

/-- All integers in the fields are short enough to be written. -/
def fieldsWritable : List (String × Value) → Bool
  | [] => true
  | (_, v) :: es => isWritable v && fieldsWritable es

end

/-- A value on its own, unless an integer in it is too long. -/
def text? (v : Value) : Option String :=
  if v.isWritable then some (String.ofList v.text) else none

/-- A value as part of a list, unless an integer in it is too long. -/
def literal? (v : Value) : Option String :=
  if v.isWritable then some (String.ofList v.literal) else none

/-- The kind of a value as messages show it; a member's kind is its
vocabulary. -/
def kindLiteral : Value → String
  | .member m => "<enum '" ++ m.vocabulary ++ "'>"
  | v => "<class '" ++ v.kind ++ "'>"

/-- A list of names as it is shown in messages. -/
def namesText (names : List String) : String :=
  String.ofList (literal (.list (names.map .str)))

end CodeAtlas.Value
