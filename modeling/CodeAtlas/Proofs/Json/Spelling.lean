/-
CodeAtlas.Proofs.Json.Spelling — which texts stand for a value.

`Spells v t` is the grammar of JSON with its meaning: the text `t`, and nothing
around it, stands for the value `v`. A value has many spellings. White space is
free between the signs, and a character of a string may stand as it is, behind a
backslash, or by number. What a reader must accept and what a writer may produce
are both said by this relation, so neither has to be compared with the other.

Only values that a text can bring back unchanged have a spelling. Floating-point
numbers, tuples and members of vocabularies have none, an integer must be short
enough to be read, and the names in an object must differ.

The lists in brackets come with their closing sign (`SpellsItems`,
`SpellsFields`), as the reader takes them: what follows an item decides whether
there is another one.
-/
import CodeAtlas.Json.Reader
import CodeAtlas.Json.Writer

namespace CodeAtlas.Json

/-! ## Strings -/

/-- A text stands for a character inside a string. -/
inductive SpellsChar : Char → List Char → Prop
  | plain {c : Char} (hc : 32 ≤ c.toNat) (hq : c ≠ '"') (hb : c ≠ '\\') : SpellsChar c [c]
  | short {e c : Char} (h : shortEscape? e = some c) : SpellsChar c ['\\', e]
  | unit {c x₁ x₂ x₃ x₄ : Char} (h : hexUnit? x₁ x₂ x₃ x₄ = some c.toNat) :
      SpellsChar c ['\\', 'u', x₁, x₂, x₃, x₄]
  | pair {c x₁ x₂ x₃ x₄ y₁ y₂ y₃ y₄ : Char} {high low : Nat}
      (hx : hexUnit? x₁ x₂ x₃ x₄ = some high) (hy : hexUnit? y₁ y₂ y₃ y₄ = some low)
      (hhigh : Text.isLeading high = true) (hlow : Text.isTrailing low = true)
      (hc : Text.pairChar high low = c) :
      SpellsChar c ['\\', 'u', x₁, x₂, x₃, x₄, '\\', 'u', y₁, y₂, y₃, y₄]

/-- A text stands for the characters of a string, between its quotes. -/
inductive SpellsText : List Char → List Char → Prop
  | nil : SpellsText [] []
  | cons {c : Char} {t : List Char} {cs ts : List Char} (hc : SpellsChar c t)
      (hcs : SpellsText cs ts) : SpellsText (c :: cs) (t ++ ts)

/-! ## Values -/

def IsPad (w : List Char) : Prop := ∀ c ∈ w, isSpace c = true

/-- A text stands for the name of a field, up to the value of the field. -/
inductive SpellsName : String → List Char → Prop
  | mk {name : String} {t w w' : List Char} (h : SpellsText name.toList t) (hw : IsPad w)
      (hw' : IsPad w') : SpellsName name ('"' :: (t ++ '"' :: (w ++ ':' :: w')))

mutual

/-- A text stands for a value. -/
inductive Spells : Value → List Char → Prop
  | null : Spells .null "null".toList
  | bool (b : Bool) : Spells (.bool b) (if b then "true" else "false").toList
  | int {n : Int} (h : Number.withinLimit n = true) : Spells (.int n) (Number.integerText n)
  | str {s : String} {t : List Char} (h : SpellsText s.toList t) :
      Spells (.str s) ('"' :: (t ++ ['"']))
  | emptyList {w : List Char} (hw : IsPad w) : Spells (.list []) ('[' :: (w ++ [']']))
  | list {items : List Value} {w t : List Char} (hw : IsPad w) (h : SpellsItems items t) :
      Spells (.list items) ('[' :: (w ++ t))
  | emptyDict {w : List Char} (hw : IsPad w) : Spells (.dict []) ('\x7b' :: (w ++ ['\x7d']))
  | dict {entries : List (String × Value)} {w t : List Char} (hw : IsPad w)
      (hk : (Table.keys entries).Nodup) (h : SpellsFields entries t) :
      Spells (.dict entries) ('\x7b' :: (w ++ t))

/-- A text stands for the items of a list, from the first one to the closing
bracket. -/
inductive SpellsItems : List Value → List Char → Prop
  | last {v : Value} {t w : List Char} (h : Spells v t) (hw : IsPad w) :
      SpellsItems [v] (t ++ (w ++ [']']))
  | cons {v : Value} {vs : List Value} {t ts w w' : List Char} (h : Spells v t)
      (hw : IsPad w) (hw' : IsPad w') (hs : SpellsItems vs ts) :
      SpellsItems (v :: vs) (t ++ (w ++ ',' :: (w' ++ ts)))

/-- A text stands for the fields of an object, from the first one to the closing
brace. -/
inductive SpellsFields : List (String × Value) → List Char → Prop
  | last {name : String} {v : Value} {n t w : List Char} (hn : SpellsName name n)
      (h : Spells v t) (hw : IsPad w) :
      SpellsFields [(name, v)] (n ++ (t ++ (w ++ ['\x7d'])))
  | cons {name : String} {v : Value} {es : List (String × Value)} {n t ts w w' : List Char}
      (hn : SpellsName name n) (h : Spells v t) (hw : IsPad w) (hw' : IsPad w')
      (hs : SpellsFields es ts) :
      SpellsFields ((name, v) :: es) (n ++ (t ++ (w ++ ',' :: (w' ++ ts))))

end

/-! ## Depth -/

mutual

/-- How deep containers nest in a value. -/
def nesting : Value → Nat
  | .list items => nestingOfItems items + 1
  | .tuple items => nestingOfItems items + 1
  | .dict entries => nestingOfFields entries + 1
  | _ => 0

def nestingOfItems : List Value → Nat
  | [] => 0
  | v :: vs => max (nesting v) (nestingOfItems vs)

def nestingOfFields : List (String × Value) → Nat
  | [] => 0
  | (_, v) :: es => max (nesting v) (nestingOfFields es)

end

end CodeAtlas.Json
