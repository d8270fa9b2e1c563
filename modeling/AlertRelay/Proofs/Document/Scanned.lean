import AlertRelay.Proofs.Json.Normal
import AlertRelay.Proofs.Number.Finite

/-!
# What a text can spell

A document that was read from a text holds integers of 64 bits and finite doubles only
(`sound_ofJson`), and so a value that was read from one is in normal form and has finite doubles
(`sound_ofDocument?`).
-/

namespace AlertRelay

namespace Document

mutual

/-- Whether the integers have 64 bits and the doubles are finite. -/
def Sound : Document → Prop
  | integer i => minInteger ≤ i ∧ i ≤ maxWord
  | real x => x.isFinite = true
  | list items => AllSound items
  | record members => MembersSound members
  | _ => True

/-- Whether every document of a list is sound. -/
def AllSound : List Document → Prop
  | [] => True
  | d :: rest => d.Sound ∧ AllSound rest

/-- Whether every member of a record is sound. -/
def MembersSound : List (Option String × Document) → Prop
  | [] => True
  | (_, d) :: rest => d.Sound ∧ MembersSound rest

end

/-- A number that was scanned is sound. -/
theorem sound_ofLiteral (l : Literal) : (ofLiteral l).Sound := by
  unfold Document.ofLiteral
  split
  · next n value =>
      have sound := Literal.sound_number? value
      cases n with
      | integer i => exact sound
      | real x => exact sound
  · trivial

mutual

/-- A document that was scanned is sound. -/
theorem sound_scanValue : ∀ (fuel : Nat) (input : List Char), (scanValue fuel input).1.Sound
  | 0, _ => trivial
  | fuel + 1, input => by
      rw [scanValue]
      split
      · split <;> trivial
      · split
        · trivial
        · exact sound_scanItems fuel _
      · split
        · trivial
        · exact sound_scanMembers fuel _
      · split <;> trivial
      · split <;> trivial
      · split <;> trivial
      · split
        · exact sound_ofLiteral _
        · trivial

theorem sound_scanItems : ∀ (fuel : Nat) (input : List Char), AllSound (scanItems fuel input).1
  | 0, _ => ⟨trivial, trivial⟩
  | fuel + 1, input => by
      have item := sound_scanValue fuel input
      rw [scanItems]
      generalize scanValue fuel input = scanned at item
      obtain ⟨d, rest⟩ := scanned
      cases rest with
      | none => exact ⟨item, trivial⟩
      | some rest =>
        dsimp only
        split
        · exact ⟨item, trivial⟩
        · exact ⟨item, sound_scanItems fuel _⟩
        · exact ⟨item, trivial, trivial⟩

theorem sound_scanMembers : ∀ (fuel : Nat) (input : List Char),
    MembersSound (scanMembers fuel input).1
  | 0, _ => ⟨trivial, trivial⟩
  | fuel + 1, input => by
      rw [scanMembers]
      split
      · split
        · exact ⟨trivial, trivial⟩
        · split
          · next rest _ =>
              have value := sound_scanValue fuel rest
              generalize scanValue fuel rest = scanned at value
              obtain ⟨d, rest⟩ := scanned
              cases rest with
              | none => exact ⟨value, trivial⟩
              | some rest =>
                dsimp only
                split
                · exact ⟨value, trivial⟩
                · exact ⟨value, sound_scanMembers fuel _⟩
                · exact ⟨value, trivial, trivial⟩
          · exact ⟨trivial, trivial⟩
      · exact ⟨trivial, trivial⟩

end

/-- A document that was read from a text is sound. -/
theorem sound_ofJson (s : String) : (ofJson s).document.Sound := by
  have sound := sound_scanValue (2 * s.toList.length + 2) s.toList
  unfold Document.ofJson
  dsimp only
  split
  · next scanned =>
      rw [scanned] at sound
      exact sound
  · next scanned =>
      rw [scanned] at sound
      exact sound

end Document

namespace Json

/-- Whether a value is in normal form and its doubles are finite. -/
def Sound (value : Json) : Prop := value.Normal ∧ ∀ x ∈ value.reals, x.isFinite = true

/-- Whether items are in normal form and their doubles are finite. -/
def ItemsSound (items : List Json) : Prop :=
  ItemsNormal items ∧ ∀ x ∈ itemReals items, x.isFinite = true

/-- Whether members are in normal form and their doubles are finite. -/
def MembersSound (members : List (String × Json)) : Prop :=
  MembersNormal members ∧ ∀ x ∈ memberReals members, x.isFinite = true

variable {item value : Json} {items : List Json} {name : String}
  {members some_ : List (String × Json)} {d : Document} {nesting : Nat}

theorem ItemsSound.cons (first : item.Sound) (others : ItemsSound items) :
    ItemsSound (item :: items) := by
  refine ⟨⟨first.1, others.1⟩, fun x among => ?_⟩
  rcases List.mem_append.mp among with among | among
  · exact first.2 x among
  · exact others.2 x among

theorem MembersSound.cons (first : value.Sound) (others : MembersSound members) :
    MembersSound ((name, value) :: members) := by
  refine ⟨⟨first.1, others.1⟩, fun x among => ?_⟩
  rcases List.mem_append.mp among with among | among
  · exact first.2 x among
  · exact others.2 x among

/-- Some of the members are sound if all are. -/
theorem MembersSound.of_subset (sound : MembersSound members)
    (subset : ∀ member ∈ some_, member ∈ members) : MembersSound some_ := by
  obtain ⟨normal, finite⟩ := sound
  rw [membersNormal_iff] at normal
  refine ⟨membersNormal_iff.mpr fun member among => normal member (subset member among), ?_⟩
  intro x among
  obtain ⟨member, within, real⟩ := mem_memberReals.mp among
  exact finite x (mem_memberReals.mpr ⟨member, subset member within, real⟩)

/-- An object of sound members is sound: its members are sorted. -/
theorem sound_object (sound : MembersSound members) : (object (sortMembers members)).Sound := by
  have kept := sound.of_subset fun member => mem_sortMembers
  exact ⟨⟨sorted_sortMembers members, kept.1⟩, kept.2⟩

mutual

/-- A value of a sound document is sound. -/
theorem sound_ofDocument? : ∀ (nesting : Nat) (d : Document), d.Sound → ∀ {value : Json},
    ofDocument? nesting d = some value → value.Sound
  | _, .null, _, _, rfl | _, .bool _, _, _, rfl | _, .text _, _, _, rfl => ⟨trivial, nofun⟩
  | _, .integer _, sound, _, rfl => ⟨sound, nofun⟩
  | _, .real _, sound, _, rfl =>
      ⟨trivial, fun y among => by rwa [List.mem_singleton.mp among]⟩
  | nesting + 1, .list items, sound, value, known => by
      rw [ofDocument?] at known
      obtain ⟨values, read, rfl⟩ := Option.map_eq_some_iff.mp known
      exact sound_itemsOf? nesting items sound read
  | nesting + 1, .record members, sound, value, known => by
      rw [ofDocument?] at known
      obtain ⟨values, read, rfl⟩ := Option.map_eq_some_iff.mp known
      exact sound_object (sound_membersOf? nesting members sound read)

/-- Items that were read from sound documents are sound. -/
theorem sound_itemsOf? : ∀ (nesting : Nat) (items : List Document), Document.AllSound items →
    ∀ {values : List Json}, itemsOf? nesting items = some values → ItemsSound values
  | _, [], _, _, rfl => ⟨trivial, nofun⟩
  | nesting, d :: rest, sound, values, known => by
      rw [itemsOf?] at known
      split at known
      · next item items first others =>
          cases known
          exact .cons (sound_ofDocument? nesting d sound.1 first)
            (sound_itemsOf? nesting rest sound.2 others)
      · cases known

/-- Members that were read from sound documents are sound. -/
theorem sound_membersOf? : ∀ (nesting : Nat) (members : List (Option String × Document)),
    Document.MembersSound members → ∀ {values : List (String × Json)},
      membersOf? nesting members = some values → MembersSound values
  | _, [], _, _, rfl => ⟨trivial, nofun⟩
  | nesting, (name, d) :: rest, sound, values, known => by
      rw [membersOf?.eq_def] at known
      dsimp only at known
      split at known
      · next first others =>
          cases known
          exact .cons (sound_ofDocument? nesting d sound.1 first)
            (sound_membersOf? nesting rest sound.2 others)
      · cases known

end

/-- A value that was read from a text is sound. -/
theorem sound_decoder {s : String} (read : Decoder.ofJson decoder s = .ok value) :
    value.Sound := by
  unfold Decoder.ofJson decoder at read
  cases known : ofDocument? DecodeRules.json.nesting (Document.ofJson s).document with
  | none => simp only [known, Bind.bind, Except.bind, reduceCtorEq] at read
  | some decoded =>
      simp only [known, Bind.bind, Except.bind] at read
      split at read
      · cases read
        exact sound_ofDocument? _ _ (Document.sound_ofJson s) known
      · cases read

/-- The members of an object that a text spells are sorted and sound. -/
theorem sound_parseObject? {s : String} (parsed : parseObject? s = some members) :
    Sorted members ∧ MembersSound members := by
  unfold Json.parseObject? Json.parse? at parsed
  cases read : Decoder.ofJson decoder s with
  | error fault => simp only [read, Except.toOption, reduceCtorEq] at parsed
  | ok value =>
      have sound := sound_decoder read
      simp only [read, Except.toOption] at parsed
      split at parsed
      · next same =>
          cases same
          cases parsed
          exact ⟨sound.1.1, sound.1.2, sound.2⟩
      · cases parsed

end Json

end AlertRelay
