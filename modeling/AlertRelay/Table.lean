/-!
# Tables

A table holds one value for each of its keys, in the order in which the keys came in. What is put
replaces the value of its key. `Table.get?_put` and `Table.get?_erase` say all that its readers see.
-/

namespace AlertRelay

/-- Values by key. -/
structure Table (κ α : Type) where
  entries : List (κ × α)
  deriving DecidableEq, Inhabited

namespace Table

variable {κ α : Type} [DecidableEq κ]

/-- The table without keys. -/
def empty : Table κ α := ⟨[]⟩

/-- The value of a key among entries. -/
def lookup (key : κ) : List (κ × α) → Option α
  | [] => none
  | (k, a) :: rest => if k = key then some a else lookup key rest

/-- The value of a key. -/
def get? (t : Table κ α) (key : κ) : Option α := lookup key t.entries

/-- Puts a value among entries, in the place of its key or at the end. -/
def store (key : κ) (value : α) : List (κ × α) → List (κ × α)
  | [] => [(key, value)]
  | (k, a) :: rest => if k = key then (key, value) :: rest else (k, a) :: store key value rest

/-- Puts the value of a key. -/
def put (t : Table κ α) (key : κ) (value : α) : Table κ α := ⟨store key value t.entries⟩

/-- Takes a key out. -/
def erase (t : Table κ α) (key : κ) : Table κ α := ⟨t.entries.filter fun entry => entry.1 ≠ key⟩

/-- Whether a key has a value. -/
def contains (t : Table κ α) (key : κ) : Bool := (t.get? key).isSome

/-- Puts all values of a key together, in their order. -/
def collect {α : Type} (pairs : List (κ × α)) : Table κ (List α) :=
  pairs.foldl (fun t pair => t.put pair.1 ((t.get? pair.1).getD [] ++ [pair.2])) empty

/-- The number of keys. -/
def size (t : Table κ α) : Nat := t.entries.length

@[simp] theorem get?_empty (key : κ) : (empty : Table κ α).get? key = none := rfl

private theorem lookup_store (key other : κ) (value : α) (entries : List (κ × α)) :
    lookup other (store key value entries) =
      if key = other then some value else lookup other entries := by
  induction entries with
  | nil => simp [store, lookup]
  | cons entry rest ih =>
    obtain ⟨k, a⟩ := entry
    by_cases hk : k = key
    · subst hk
      by_cases ho : k = other <;> simp [store, lookup, ho]
    · by_cases ho : k = other
      · subst ho
        simp [store, lookup, hk, Ne.symm hk]
      · simp [store, lookup, hk, ho, ih]

private theorem lookup_filter (key other : κ) (entries : List (κ × α)) :
    lookup other (entries.filter fun entry => entry.1 ≠ key) =
      if key = other then none else lookup other entries := by
  induction entries with
  | nil => simp [lookup]
  | cons entry rest ih =>
    obtain ⟨k, a⟩ := entry
    by_cases hk : k = key
    · subst hk
      by_cases ho : k = other
      · subst ho
        simpa using ih
      · simpa [lookup, ho] using ih
    · by_cases ho : k = other
      · subst ho
        simp [lookup, hk, Ne.symm hk]
      · simpa [lookup, hk, ho] using ih

/-- What is put is found under its key and nowhere else. -/
@[simp] theorem get?_put (t : Table κ α) (key other : κ) (value : α) :
    (t.put key value).get? other = if key = other then some value else t.get? other :=
  lookup_store key other value t.entries

/-- A key that was taken out is not found; others are. -/
@[simp] theorem get?_erase (t : Table κ α) (key other : κ) :
    (t.erase key).get? other = if key = other then none else t.get? other :=
  lookup_filter key other t.entries

end Table

end AlertRelay
