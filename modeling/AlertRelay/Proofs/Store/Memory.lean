import AlertRelay.Store.Memory

/-!
# What the store does

A row is stored if its event has none, and taken out if its event has one. A store that fails, or is
closed, stays as it is.
-/

namespace AlertRelay

/-- A key is in a table after a put if it was there or was put. -/
theorem Table.contains_put {κ α : Type} [DecidableEq κ] (t : Table κ α) (key other : κ) (a : α) :
    (t.put key a).contains other = true ↔ key = other ∨ t.contains other = true := by
  unfold Table.contains
  rw [Table.get?_put]
  by_cases same : key = other
  · simp only [same, ↓reduceIte, Option.isSome_some, true_or]
  · simp only [same, ↓reduceIte, false_or]

/-- A key is in a table after another one was erased if it was there. -/
theorem Table.contains_erase {κ α : Type} [DecidableEq κ] (t : Table κ α) (key other : κ) :
    (t.erase key).contains other = true ↔ key ≠ other ∧ t.contains other = true := by
  unfold Table.contains
  rw [Table.get?_erase]
  by_cases same : key = other
  · simp only [same, ↓reduceIte, Option.isSome_none, Bool.false_eq_true, ne_eq, not_true_eq_false,
      false_and]
  · simp only [same, ↓reduceIte, ne_eq, not_false_eq_true, true_and]

namespace Table

/-- The keys that have a value, in their order. -/
def keys {κ α : Type} (t : Table κ α) : List κ := t.entries.map Prod.fst

theorem length_keys {κ α : Type} (t : Table κ α) : t.keys.length = t.size := List.length_map ..

variable {κ α : Type} [DecidableEq κ]

theorem mem_keys (t : Table κ α) (key : κ) : key ∈ t.keys ↔ t.contains key = true := by
  unfold Table.keys Table.contains Table.get?
  induction t.entries with
  | nil => exact iff_of_false List.not_mem_nil Bool.false_ne_true
  | cons entry rest ih =>
      rw [List.map_cons, List.mem_cons, Table.lookup]
      by_cases same : entry.1 = key
      · simp only [same, ↓reduceIte, true_or, Option.isSome_some]
      · simp only [Ne.symm same, same, ↓reduceIte, false_or, ih]

/-- A key that is new comes last. -/
private theorem keys_store {key : κ} (value : α) {entries : List (κ × α)}
    (absent : key ∉ entries.map Prod.fst) :
    (store key value entries).map Prod.fst = entries.map Prod.fst ++ [key] := by
  induction entries with
  | nil => rfl
  | cons entry rest ih =>
      rw [List.map_cons, List.mem_cons, not_or] at absent
      rw [Table.store, if_neg (Ne.symm absent.1), List.map_cons, ih absent.2]
      rfl

/-- A key that is put for the first time comes last. -/
theorem keys_put (t : Table κ α) {key : κ} (value : α) (absent : t.contains key = false) :
    (t.put key value).keys = t.keys ++ [key] := by
  refine keys_store value fun member => ?_
  exact Bool.false_ne_true (absent.symm.trans ((t.mem_keys key).mp member))

/-- To erase a key leaves the others in their order. -/
theorem keys_erase_sublist (t : Table κ α) (key : κ) : (t.erase key).keys.Sublist t.keys :=
  List.filter_sublist.map Prod.fst

end Table

namespace AlertStore

/-- An insertion fails, finds a row, or adds one. -/
theorem insertIfAbsent_cases (s : AlertStore) (a : Alert) :
    (∃ cause, s.insertIfAbsent a = (.error cause, s)) ∨
      s.rows.contains a.eventId = true ∧ s.insertIfAbsent a = (.ok false, s) ∨
      ¬s.rows.contains a.eventId = true ∧
        s.insertIfAbsent a = (.ok true, { s with rows := s.rows.put a.eventId a }) := by
  unfold AlertStore.insertIfAbsent
  split
  · exact .inl ⟨_, rfl⟩
  · split
    · exact .inl ⟨_, rfl⟩
    · split
      · next known => exact .inr (.inl ⟨known, rfl⟩)
      · next unknown => exact .inr (.inr ⟨unknown, rfl⟩)

/-- A deletion fails, finds a row and removes it, or finds none. -/
theorem deleteByEventId_cases (s : AlertStore) (eventId : String) :
    (∃ cause, s.deleteByEventId eventId = (.error cause, s)) ∨
      s.rows.contains eventId = true ∧
        s.deleteByEventId eventId = (.ok 1, { s with rows := s.rows.erase eventId }) ∨
      ¬s.rows.contains eventId = true ∧ s.deleteByEventId eventId = (.ok 0, s) := by
  unfold AlertStore.deleteByEventId
  split
  · exact .inl ⟨_, rfl⟩
  · split
    · exact .inl ⟨_, rfl⟩
    · split
      · next known => exact .inr (.inl ⟨known, rfl⟩)
      · next unknown => exact .inr (.inr ⟨unknown, rfl⟩)

end AlertStore

end AlertRelay
