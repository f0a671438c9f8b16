import StorageInventory.Text.Basic

/-!
# Tables

A table maps texts to values and remembers the order in which its keys were first put in: a new
value for a known key takes the place of the old one.

* `get?_put_self`, `get?_put_of_ne` say what a table answers after `put`,
* `keys_put` says which keys it has, and in which order,
* `nodup_keys_put` says that no key is ever held twice.
-/

namespace StorageInventory

/-- A map from texts to values that keeps the order of insertion. -/
abbrev Table (α : Type) := List (Text × α)

namespace Table

variable {α : Type}

/-- The value of a key. -/
def get? : Table α → Text → Option α
  | [], _ => none
  | (k, v) :: rest, key => if k = key then some v else get? rest key

/-- Give a key a value. -/
def put : Table α → Text → α → Table α
  | [], key, a => [(key, a)]
  | (k, v) :: rest, key, a => if k = key then (k, a) :: rest else (k, v) :: put rest key a

/-- The keys, in order of insertion. -/
def keys (table : Table α) : List Text := table.map Prod.fst

/-- The values, in order of insertion of their keys. -/
def values (table : Table α) : List α := table.map Prod.snd

/-- The table has the key. -/
def has (table : Table α) (key : Text) : Bool := (table.get? key).isSome

@[simp] theorem get?_nil (key : Text) : get? ([] : Table α) key = none := rfl

/-- What was put under a key is found under it. -/
theorem get?_put_self (table : Table α) (key : Text) (a : α) :
    get? (put table key a) key = some a := by
  induction table with
  | nil => simp [put, get?]
  | cons entry rest ih =>
    by_cases h : entry.1 = key <;> simp [put, get?, h, ih]

/-- What is found under another key does not change by putting. -/
theorem get?_put_of_ne (table : Table α) {key other : Text} (h : other ≠ key) (a : α) :
    get? (put table key a) other = get? table other := by
  induction table with
  | nil => simp [put, get?, Ne.symm h]
  | cons entry rest ih =>
    by_cases hk : entry.1 = key
    · have : entry.1 ≠ other := fun ho => h (ho.symm.trans hk)
      simp [put, get?, hk, hk ▸ this]
    · simp [put, get?, hk, ih]

/-- What a table answers after one `put`. -/
theorem get?_put (table : Table α) (key other : Text) (a : α) :
    get? (put table key a) other = if other = key then some a else get? table other := by
  split
  · next h => rw [h, get?_put_self]
  · next h => exact get?_put_of_ne table h a

/-- Nothing is found under the keys that a table does not have, and under these only. -/
theorem get?_eq_none_iff (table : Table α) (key : Text) :
    get? table key = none ↔ key ∉ keys table := by
  induction table with
  | nil => simp [keys]
  | cons entry rest ih =>
    by_cases h : entry.1 = key
    · simp [get?, keys, h]
    · simp only [keys] at ih
      simp [get?, keys, h, ih, Ne.symm h]

/-- A known key keeps its place and a new one comes last. -/
theorem keys_put (table : Table α) (key : Text) (a : α) :
    keys (put table key a) = if key ∈ keys table then keys table else keys table ++ [key] := by
  induction table with
  | nil => simp [put, keys]
  | cons entry rest ih =>
    by_cases h : entry.1 = key
    · simp [put, keys, h]
    · simp only [keys] at ih
      simp only [put, h, if_false, keys, List.map_cons, ih, List.mem_cons, Ne.symm h, false_or]
      split <;> simp [*]

/-- A key is held once. -/
theorem nodup_keys_put {table : Table α} (h : (keys table).Nodup) (key : Text) (a : α) :
    (keys (put table key a)).Nodup := by
  rw [keys_put]
  split
  · exact h
  · next hn =>
    rw [List.nodup_append]
    exact ⟨h, by simp, by intro x hx y hy; simp at hy; subst hy; exact fun he => hn (he ▸ hx)⟩

end Table

end StorageInventory
