import AlertRelay.Proofs.Document.Written
import AlertRelay.Proofs.Json.Sorted

/-!
# Values in normal form

A value is in normal form if its integers have 64 bits and the members of its objects are sorted
(`Normal`). Such a value is read back from its document just if the document is not nested too deep
(`ofDocument?_toDocument`), and its document is spelled by its text if its doubles are
(`writable_toDocument`).
-/

namespace AlertRelay

namespace Document

mutual

/-- How many lists and records are inside each other. -/
def nesting : Document → Nat
  | list items => itemsNesting items + 1
  | record members => membersNesting members + 1
  | _ => 0

/-- The deepest nesting of some items. -/
def itemsNesting : List Document → Nat
  | [] => 0
  | d :: rest => max d.nesting (itemsNesting rest)

/-- The deepest nesting of some members. -/
def membersNesting : List (Option String × Document) → Nat
  | [] => 0
  | (_, d) :: rest => max d.nesting (membersNesting rest)

end

end Document

namespace Json

mutual

/-- Whether the integers have 64 bits and the members of objects are sorted. -/
def Normal : Json → Prop
  | integer i => Document.minInteger ≤ i ∧ i ≤ maxWord
  | list items => ItemsNormal items
  | object members => Sorted members ∧ MembersNormal members
  | _ => True

/-- Whether every item is in normal form. -/
def ItemsNormal : List Json → Prop
  | [] => True
  | item :: rest => item.Normal ∧ ItemsNormal rest

/-- Whether every member is in normal form. -/
def MembersNormal : List (String × Json) → Prop
  | [] => True
  | (_, value) :: rest => value.Normal ∧ MembersNormal rest

end

mutual

/-- The doubles in a value. -/
def reals : Json → List Float
  | real x => [x]
  | list items => itemReals items
  | object members => memberReals members
  | _ => []

/-- The doubles in some items. -/
def itemReals : List Json → List Float
  | [] => []
  | item :: rest => item.reals ++ itemReals rest

/-- The doubles in some members. -/
def memberReals : List (String × Json) → List Float
  | [] => []
  | (_, value) :: rest => value.reals ++ memberReals rest

end

variable {members : List (String × Json)} {x : Float}

theorem membersNormal_iff : MembersNormal members ↔ ∀ member ∈ members, member.2.Normal := by
  induction members with
  | nil => exact iff_of_true trivial nofun
  | cons member rest ih => rw [MembersNormal, ih, List.forall_mem_cons]

theorem mem_memberReals : x ∈ memberReals members ↔ ∃ member ∈ members, x ∈ member.2.reals := by
  induction members with
  | nil => exact iff_of_false nofun nofun
  | cons member rest ih => 
      rw [memberReals, List.mem_append, ih]
      simp only [List.mem_cons, exists_eq_or_imp]

/-! ## Documents of values -/

mutual

/-- A value in normal form is spelled by its text if its doubles are. -/
theorem writable_toDocument : ∀ (value : Json), value.Normal →
    (∀ x ∈ value.reals, Document.ReadsBack x) → value.toDocument.Writable
  | .null, _, _ | .bool _, _, _ | .text _, _, _ => trivial
  | .integer _, normal, _ => normal
  | .real x, _, read => read x (List.mem_singleton_self x)
  | .list items, normal, read => writable_itemDocuments items normal read
  | .object members, normal, read => writable_memberDocuments members normal.2 read

/-- Items in normal form are spelled by their text if their doubles are. -/
theorem writable_itemDocuments : ∀ (items : List Json), ItemsNormal items →
    (∀ x ∈ itemReals items, Document.ReadsBack x) →
      Document.AllWritable (itemDocuments items)
  | [], _, _ => trivial
  | item :: rest, normal, read =>
      ⟨writable_toDocument item normal.1 fun x among => read x (List.mem_append_left _ among),
        writable_itemDocuments rest normal.2 fun x among => read x (List.mem_append_right _ among)⟩

/-- Members in normal form are spelled by their text if their doubles are. -/
theorem writable_memberDocuments : ∀ (members : List (String × Json)), MembersNormal members →
    (∀ x ∈ memberReals members, Document.ReadsBack x) →
      Document.MembersWritable (memberDocuments members)
  | [], _, _ => trivial
  | (_, value) :: rest, normal, read =>
      ⟨rfl, writable_toDocument value normal.1 fun x among =>
          read x (List.mem_append_left _ among),
        writable_memberDocuments rest normal.2 fun x among =>
          read x (List.mem_append_right _ among)⟩

end

mutual

/-- A value in normal form is read back just if it is not nested too deep. -/
theorem ofDocument?_toDocument : ∀ (value : Json), value.Normal → ∀ (nesting : Nat),
    ofDocument? nesting value.toDocument =
      if value.toDocument.nesting ≤ nesting then some value else none
  | .null, _, _ | .bool _, _, _ | .text _, _, _ | .integer _, _, _ | .real _, _, _ => by
      simp only [toDocument, ofDocument?, Document.nesting, Nat.zero_le, ↓reduceIte]
  | .list items, _, 0 | .object members, _, 0 => by
      rw [toDocument, ofDocument?, Document.nesting, if_neg (Nat.not_succ_le_zero _)]
  | .list items, normal, nesting + 1 => by
      rw [toDocument, ofDocument?, Document.nesting, itemsOf?_itemDocuments items normal]
      simp only [Nat.add_le_add_iff_right]
      split <;> rfl
  | .object members, normal, nesting + 1 => by
      rw [toDocument, ofDocument?, Document.nesting, membersOf?_memberDocuments members normal.2]
      simp only [Nat.add_le_add_iff_right]
      split
      · rw [Option.map_some, sortMembers_eq normal.1]
      · rfl

/-- The items of a list are read back just if none is nested too deep. -/
theorem itemsOf?_itemDocuments : ∀ (items : List Json), ItemsNormal items → ∀ (nesting : Nat),
    itemsOf? nesting (itemDocuments items) =
      if Document.itemsNesting (itemDocuments items) ≤ nesting then some items else none
  | [], _, nesting => by
      simp only [itemDocuments, itemsOf?, Document.itemsNesting, Nat.zero_le, ↓reduceIte]
  | item :: rest, normal, nesting => by
      rw [itemDocuments, itemsOf?, Document.itemsNesting, ofDocument?_toDocument item normal.1,
        itemsOf?_itemDocuments rest normal.2]
      simp only [Nat.max_le]
      by_cases first : item.toDocument.nesting ≤ nesting
      · by_cases others : Document.itemsNesting (itemDocuments rest) ≤ nesting <;>
          simp only [first, others, and_self, and_false, ↓reduceIte]
      · simp only [first, false_and, ↓reduceIte]

/-- The members of an object are read back just if none is nested too deep. -/
theorem membersOf?_memberDocuments : ∀ (members : List (String × Json)), MembersNormal members →
    ∀ (nesting : Nat), membersOf? nesting (memberDocuments members) =
      if Document.membersNesting (memberDocuments members) ≤ nesting then some members else none
  | [], _, nesting => by
      simp only [memberDocuments, membersOf?, Document.membersNesting, Nat.zero_le, ↓reduceIte]
  | (name, value) :: rest, normal, nesting => by
      rw [memberDocuments, membersOf?.eq_def, Document.membersNesting]
      dsimp only
      rw [ofDocument?_toDocument value normal.1, membersOf?_memberDocuments rest normal.2]
      simp only [Nat.max_le]
      by_cases first : value.toDocument.nesting ≤ nesting
      · by_cases others : Document.membersNesting (memberDocuments rest) ≤ nesting <;>
          simp only [first, others, and_self, and_false, ↓reduceIte]
      · simp only [first, false_and, ↓reduceIte]

end

end Json

end AlertRelay
