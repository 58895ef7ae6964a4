/-
CodeAtlas.Table — tables that remember the order of insertion.

A table is a list of key and value pairs. `insert` overwrites the value of a
key that is present, in place, and puts a new key at the end; so the order of
the keys is the order in which they were first inserted, whatever was
overwritten later. Everything in this library that is kept by key is kept in
such a table: the nodes and edges of a view, the fields of a document, the
codecs of slice files and the plugins that were found.

Main definitions: `Table.insert`, `Table.get?`, `Table.contains` and
`Table.ofPairs`, which inserts a list of pairs one after the other.
-/
namespace CodeAtlas

/-- Values kept by key, in the order in which the keys were first inserted. -/
abbrev Table (κ : Type u) (α : Type v) := List (κ × α)

namespace Table

variable {κ : Type u} {α : Type v} [DecidableEq κ]

/-- The value kept under a key. -/
def get? : Table κ α → κ → Option α
  | [], _ => none
  | (k', a) :: t, k => if k' = k then some a else get? t k

/-- The key is present. -/
def contains (t : Table κ α) (k : κ) : Bool := (get? t k).isSome

/-- Overwrite the value of a present key in place; put a new key at the end. -/
def insert : Table κ α → κ → α → Table κ α
  | [], k, a => [(k, a)]
  | (k', a') :: t, k, a =>
      if k' = k then (k', a) :: t else (k', a') :: insert t k a

/-- The keys in their order. -/
def keys (t : Table κ α) : List κ := t.map (·.1)

/-- Insert pairs one after the other: a repeated key keeps its first place and
takes its last value. -/
def ofPairs (pairs : List (κ × α)) : Table κ α :=
  pairs.foldl (fun t p => insert t p.1 p.2) []

end Table

end CodeAtlas
