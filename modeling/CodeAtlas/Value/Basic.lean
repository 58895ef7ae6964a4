/-
CodeAtlas.Value.Basic — the values that documents are made of.

A document of the graph service is JSON, and a node carries whatever the
document says, so values are dynamic: null, booleans, integers of any size,
floating-point numbers, texts, lists, tuples, dictionaries and members of the
graph's vocabularies. A dictionary is a table: its keys keep their order.

Two values are equal exactly if they are built in the same way, and `beq`
decides that (`eq_of_beq`, `beq_self`).
-/
import CodeAtlas.Table
import CodeAtlas.Number.Binary64
import CodeAtlas.Graph.Vocabulary

namespace CodeAtlas

open Number (Binary64)
open CodeAtlas.Graph (Member)

/-- A value of a document. -/
inductive Value where
  | null
  | bool (b : Bool)
  | int (n : Int)
  | float (x : Binary64)
  | str (s : String)
  | list (items : List Value)
  | tuple (items : List Value)
  | dict (entries : List (String × Value))
  | member (m : Member)

namespace Value

instance : Inhabited Value := ⟨.null⟩

/-- The name of a value's kind, as messages give it. -/
def kind : Value → String
  | .null => "NoneType"
  | .bool _ => "bool"
  | .int _ => "int"
  | .float _ => "float"
  | .str _ => "str"
  | .list _ => "list"
  | .tuple _ => "tuple"
  | .dict _ => "dict"
  | .member m => m.vocabulary

/-- Whether a value counts as set: null, false, zero and whatever is empty do
not. -/
def isTruthy : Value → Bool
  | .null => false
  | .bool b => b
  | .int n => n != 0
  | .float x => !x.isZero
  | .str s => s != ""
  | .list items => !items.isEmpty
  | .tuple items => !items.isEmpty
  | .dict entries => !entries.isEmpty
  | .member _ => true

/-- The field of a dictionary; a missing field counts as null. -/
def field (entries : Table String Value) (key : String) : Value :=
  (entries.get? key).getD .null

mutual

/-- Two values are built in the same way. -/
def beq : Value → Value → Bool
  | .null, .null => true
  | .bool a, .bool b => a == b
  | .int a, .int b => a == b
  | .float a, .float b => a == b
  | .str a, .str b => a == b
  | .list a, .list b => beqItems a b
  | .tuple a, .tuple b => beqItems a b
  | .dict a, .dict b => beqEntries a b
  | .member a, .member b => a == b
  | _, _ => false

/-- Two lists of values are built in the same way. -/
def beqItems : List Value → List Value → Bool
  | [], [] => true
  | a :: as, b :: bs => beq a b && beqItems as bs
  | _, _ => false

/-- Two lists of fields are built in the same way. -/
def beqEntries : List (String × Value) → List (String × Value) → Bool
  | [], [] => true
  | (k, a) :: as, (l, b) :: bs => k == l && beq a b && beqEntries as bs
  | _, _ => false

end

mutual

theorem eq_of_beq : ∀ (a b : Value), beq a b = true → a = b
  | .null, b, h => by cases b <;> simp_all [beq]
  | .bool _, b, h => by cases b <;> simp_all [beq]
  | .int _, b, h => by cases b <;> simp_all [beq]
  | .float _, b, h => by cases b <;> simp_all [beq]
  | .str _, b, h => by cases b <;> simp_all [beq]
  | .member _, b, h => by cases b <;> simp_all [beq]
  | .list as, b, h => by
      cases b with
      | list bs => rw [eq_of_beqItems as bs (by simpa [beq] using h)]
      | _ => simp [beq] at h
  | .tuple as, b, h => by
      cases b with
      | tuple bs => rw [eq_of_beqItems as bs (by simpa [beq] using h)]
      | _ => simp [beq] at h
  | .dict as, b, h => by
      cases b with
      | dict bs => rw [eq_of_beqEntries as bs (by simpa [beq] using h)]
      | _ => simp [beq] at h

theorem eq_of_beqItems : ∀ (as bs : List Value), beqItems as bs = true → as = bs
  | [], [], _ => rfl
  | [], _ :: _, h => by simp [beqItems] at h
  | _ :: _, [], h => by simp [beqItems] at h
  | a :: as, b :: bs, h => by
      simp only [beqItems, Bool.and_eq_true] at h
      rw [eq_of_beq a b h.1, eq_of_beqItems as bs h.2]

theorem eq_of_beqEntries : ∀ (as bs : List (String × Value)),
    beqEntries as bs = true → as = bs
  | [], [], _ => rfl
  | [], _ :: _, h => by simp [beqEntries] at h
  | _ :: _, [], h => by simp [beqEntries] at h
  | (k, a) :: as, (l, b) :: bs, h => by
      simp only [beqEntries, Bool.and_eq_true, beq_iff_eq] at h
      rw [h.1.1, eq_of_beq a b h.1.2, eq_of_beqEntries as bs h.2]

end

mutual

theorem beq_self : ∀ a : Value, beq a a = true
  | .null => rfl
  | .bool _ | .int _ | .float _ | .str _ | .member _ => by simp [beq]
  | .list as | .tuple as => by simp [beq, beqItems_self as]
  | .dict as => by simp [beq, beqEntries_self as]

theorem beqItems_self : ∀ as : List Value, beqItems as as = true
  | [] => rfl
  | a :: as => by simp [beqItems, beq_self a, beqItems_self as]

theorem beqEntries_self : ∀ as : List (String × Value), beqEntries as as = true
  | [] => rfl
  | (_, a) :: as => by simp [beqEntries, beq_self a, beqEntries_self as]

end

instance : DecidableEq Value := fun a b =>
  if h : beq a b = true then isTrue (eq_of_beq a b h)
  else isFalse fun e => h (e ▸ beq_self a)

end Value

end CodeAtlas
