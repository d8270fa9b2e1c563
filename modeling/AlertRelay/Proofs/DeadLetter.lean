import AlertRelay.DeadLetter

/-!
# What dead letters say

The dead letter of a record carries its key and value byte for byte, and its headers name the place
that the record was read from (`DeadLetter.preserves_ofRecord`). The dead letter of another payload
names no place (`DeadLetter.originless_ofPayload`).
-/

namespace AlertRelay

/-- A member that is put in is found, and the others are found as before. -/
theorem Json.member?_insertMember {α : Type} (name other : String) (value : α)
    (members : List (String × α)) :
    member? other (insertMember name value members) =
      if name = other then some value else member? other members := by
  have first : ∀ (n : String) (v : α) (rest : List (String × α)),
      member? other ((n, v) :: rest) = if n = other then some v else member? other rest := by
    intro n v rest
    unfold Json.member?
    rw [List.find?_cons]
    by_cases here : n = other <;> simp [here]
  induction members with
  | nil => exact first name value []
  | cons member rest ih =>
      obtain ⟨n, v⟩ := member
      unfold Json.insertMember
      split
      · exact first name value _
      · split
        · next same =>
          rw [first, first, same]
          split <;> rfl
        · next different =>
          rw [first, first, ih]
          by_cases here : n = other
          · rw [if_pos here, if_neg fun same => different (same.trans here.symm), if_pos here]
          · rw [if_neg here, if_neg here]

namespace Message

/-- The value of a header. -/
def header? (m : Message) (name : String) : Option Bytes := Json.member? name m.headers

/-- A header that is added is found, and the others are found as before. -/
theorem header?_withHeader (m : Message) (name other : String) (value : Bytes) :
    (m.withHeader name value).header? other =
      if name = other then some value else m.header? other :=
  Json.member?_insertMember name other value m.headers

/-- A plain message has no headers. -/
theorem header?_plain (topic : String) (key : Option Bytes) (value : Bytes) (name : String) :
    (plain topic key value).header? name = none := rfl

/-- Whether a message carries the key and the value of a record, and names where it was read. -/
structure Preserves (m : Message) (r : Record) : Prop where
  key : m.key = r.key
  value : m.value = r.value
  topic : m.header? DeadLetter.topicHeader = some (utf8 r.topic)
  partition : m.header? DeadLetter.partitionHeader = some (utf8 (toString r.partition))
  offset : m.header? DeadLetter.offsetHeader = some (utf8 (toString r.offset))

/-- Whether a message names no place that it was read from. -/
structure Originless (m : Message) : Prop where
  topic : m.header? DeadLetter.topicHeader = none
  partition : m.header? DeadLetter.partitionHeader = none
  offset : m.header? DeadLetter.offsetHeader = none

/-- A plain message names no place that it was read from. -/
theorem originless_plain (topic : String) (key : Option Bytes) (value : Bytes) :
    (plain topic key value).Originless :=
  ⟨header?_plain topic key value _, header?_plain topic key value _,
    header?_plain topic key value _⟩

end Message

namespace DeadLetter

/-- A dead letter of a record carries its key and value and names where it was read. -/
theorem preserves_ofRecord (r : Record) (reason : DeadLetterReason) (topic : String)
    (millis : Int) : ((ofRecord r reason).message topic millis).Preserves r where
  key := rfl
  value := rfl
  topic := by
    simp only [message, ofRecord, Message.header?_withHeader]
    rfl
  partition := by
    simp only [message, ofRecord, Message.header?_withHeader]
    rfl
  offset := by
    simp only [message, ofRecord, Message.header?_withHeader]
    rfl

/-- A dead letter of a payload names no place that it was read from. -/
theorem originless_ofPayload (key : Option Bytes) (value : Bytes) (reason : DeadLetterReason)
    (topic : String) (millis : Int) :
    ((ofPayload key value reason).message topic millis).Originless where
  topic := by
    simp only [message, ofPayload, Message.header?_withHeader]
    rfl
  partition := by
    simp only [message, ofPayload, Message.header?_withHeader]
    rfl
  offset := by
    simp only [message, ofPayload, Message.header?_withHeader]
    rfl

end DeadLetter

end AlertRelay
