import StackForm.Keyed

/-!
# Maps with string keys

A `KeyMap` is a keyed list together with the proof that its keys ascend, so a map has one
representation: its entries can be listed, counted and printed in order without sorting.
-/

namespace StackForm

/-- A finite map from strings, held in ascending order of its keys. -/
structure KeyMap (α : Type) where
  entries : List (String × α)
  ascending : Keyed.Ascending entries

namespace KeyMap

variable {α β : Type}

/-! ### Building -/

/-- The map without entries. -/
def empty : KeyMap α := ⟨[], .nil⟩

instance : Inhabited (KeyMap α) := ⟨empty⟩

/-- Bind `key` to `value`, in place of any earlier value. -/
def insert (map : KeyMap α) (key : String) (value : α) : KeyMap α :=
  ⟨Keyed.insert key value map.entries, map.ascending.insert key value⟩

/-- Bind each pair in turn, so that the last value of a key stays. -/
def ofList (pairs : List (String × α)) : KeyMap α :=
  pairs.foldl (fun map pair => map.insert pair.1 pair.2) empty

/-! ### Reading -/

def get? (map : KeyMap α) (key : String) : Option α :=
  map.entries.lookup key

def contains (map : KeyMap α) (key : String) : Bool :=
  (map.get? key).isSome

/-- The keys in ascending order. -/
def keys (map : KeyMap α) : List String :=
  Keyed.keys map.entries

def size (map : KeyMap α) : Nat :=
  map.entries.length

def isEmpty (map : KeyMap α) : Bool :=
  map.entries.isEmpty

@[ext] theorem ext {m n : KeyMap α} (h : m.entries = n.entries) : m = n := by
  cases m; cases n; cases h; rfl

@[simp] theorem get?_empty (key : String) : (empty : KeyMap α).get? key = none := rfl

theorem get?_insert (map : KeyMap α) (key other : String) (value : α) :
    (map.insert key value).get? other = if other = key then some value else map.get? other :=
  Keyed.lookup_insert key other value map.entries

@[simp] theorem get?_insert_self (map : KeyMap α) (key : String) (value : α) :
    (map.insert key value).get? key = some value :=
  Keyed.lookup_insert_self key value map.entries

theorem get?_insert_of_ne (map : KeyMap α) {key other : String} (h : other ≠ key) (value : α) :
    (map.insert key value).get? other = map.get? other :=
  Keyed.lookup_insert_of_ne h value map.entries

end KeyMap

end StackForm
