/-
CodeAtlas.Value.Comparison — when two values count as equal.

Numbers are equal if they are equal as numbers, whatever their kind, with true
and false as one and zero; NaN is equal to nothing. Lists and tuples are
compared item by item and never with each other, dictionaries field by field in
any order, members by identity.

Values that can be changed, lists and dictionaries, cannot be collected in a
set, and neither can a tuple that holds one: `unhashable?` finds the first such
part.
-/
import CodeAtlas.Value.Basic

namespace CodeAtlas.Value

open Number (Binary64)

/-- A value as an integer, where it is one. -/
def wholeNumber? : Value → Option Int
  | .bool b => some (if b then 1 else 0)
  | .int n => some n
  | _ => none

/-- Equality of values that hold no other values. -/
def equalsPlain : Value → Value → Bool
  | .null, .null => true
  | .str a, .str b => a == b
  | .member a, .member b => a == b
  | .float a, .float b => a.equals b
  | .float a, b => (wholeNumber? b).any a.equalsInt
  | a, .float b => (wholeNumber? a).any b.equalsInt
  | a, b =>
      match wholeNumber? a, wholeNumber? b with
      | some m, some n => m == n
      | _, _ => false

mutual

/-- Equality of values. -/
def equals : Value → Value → Bool
  | .list as, .list bs => equalsItems as bs
  | .tuple as, .tuple bs => equalsItems as bs
  | .dict as, .dict bs => as.length == bs.length && equalsEntries as bs
  | a, b => equalsPlain a b

/-- Equality item by item. -/
def equalsItems : List Value → List Value → Bool
  | [], [] => true
  | a :: as, b :: bs => equals a b && equalsItems as bs
  | _, _ => false

/-- Every field has an equal field under the same key. -/
def equalsEntries : List (String × Value) → List (String × Value) → Bool
  | [], _ => true
  | (k, a) :: as, bs =>
      (match Table.get? bs k with
        | some b => equals a b
        | none => false) && equalsEntries as bs

end

/-- Equality of a value with itself: only NaN differs from itself, since the
parts of a value are known to be the same parts. -/
def equalsItself : Value → Bool
  | .float .nan => false
  | _ => true

mutual

/-- The kind of the first part that keeps a value out of a set. -/
def unhashable? : Value → Option String
  | .list _ => some "list"
  | .dict _ => some "dict"
  | .tuple items => firstUnhashable? items
  | _ => none

/-- The kind of the first part that keeps a list of values out of a set. -/
def firstUnhashable? : List Value → Option String
  | [] => none
  | v :: vs => (unhashable? v).or (firstUnhashable? vs)

end

end CodeAtlas.Value
