import AlertRelay.Document.Decode

/-!
# What the reading of a record keeps

A record is read field by field. What holds of the blank record, and is kept by every field that is
read, holds of the record that was read in the end (`Decoder.exists_of_record`).
-/

namespace AlertRelay

/-- Two steps end well if the first one does and the second one does with its value. -/
theorem bind_eq_ok {ε α β : Type} {x : Except ε α} {f : α → Except ε β} {b : β}
    (ended : (x >>= f) = .ok b) : ∃ a, x = .ok a ∧ f a = .ok b := by
  cases x with
  | error e => cases ended
  | ok a => exact ⟨a, rfl, ended⟩

namespace Decoder

variable {α β : Type} {holds : β → Prop} {fields : List (Field β)} {rules : DecodeRules}
  {found last : β}

/-- Whether reading a field keeps what holds of the record that is being read. -/
def Field.Keeps (holds : β → Prop) (field : Field β) : Prop :=
  ∀ rules d update, field.read rules d = .ok update → ∀ found, holds found → holds (update found)

/-- A field keeps what is kept whenever one of its values is set. -/
theorem keeps_named {name : String} {decoder : Decoder α} {get : β → Option α} {set : α → β → β}
    (kept : ∀ rules d v, decoder rules d = .ok v → ∀ found, holds found → holds (set v found)) :
    (Field.named name decoder get set).Keeps holds := by
  intro rules d update read found held
  change (decoder rules d).map set = .ok update at read
  cases decoded : decoder rules d with
  | error fault =>
      rw [decoded] at read
      cases read
  | ok v =>
      rw [decoded] at read
      cases read
      exact kept rules d v decoded found held

/-- To read members keeps what every field keeps. -/
theorem readMembers_keeps (kept : ∀ field ∈ fields, field.Keeps holds)
    {members : List (Option String × Document)} (held : holds found)
    (read : readMembers fields rules members found = .ok last) : holds last := by
  fun_induction readMembers fields rules members found with
  | case1 found =>
      cases read
      exact held
  | case3 name d rest found _ _ ih => exact ih held read
  | case6 name d rest found field listed _ update taken ih =>
      apply ih _ read
      exact kept field (List.mem_of_find?_eq_some listed) rules d update taken found held
  | case2 | case4 | case5 | case7 => cases read

/-- To read items keeps what every field keeps. -/
theorem readItems_keeps (kept : ∀ field ∈ fields, field.Keeps holds) {items : List Document}
    (held : holds found) (read : readItems rules fields items found = .ok last) : holds last := by
  fun_induction readItems rules fields items found with
  | case1 | case3 =>
      cases read
      exact held
  | case4 field fields d items found update taken ih =>
      apply ih (fun other listed => kept other (List.mem_cons_of_mem field listed)) _ read
      exact kept field List.mem_cons_self rules d update taken found held
  | case2 | case5 => cases read

/-- A record that was read is one of which holds what every field keeps. -/
theorem exists_of_record (holds : β → Prop) {blank : β} {finish : β → Option α}
    (kept : ∀ field ∈ fields, field.Keeps holds) (held : holds blank) {d : Document} {a : α}
    (read : record fields blank finish rules d = .ok a) :
    ∃ found, holds found ∧ finish found = some a := by
  cases d with
  | record members =>
      obtain ⟨inner, _, rest⟩ := bind_eq_ok read
      obtain ⟨found, reading, complete⟩ := bind_eq_ok rest
      refine ⟨found, readMembers_keeps kept held reading, ?_⟩
      dsimp only at complete
      split at complete
      · next done => exact done.trans (congrArg some (Except.ok.inj complete))
      · cases complete
  | list items =>
      obtain ⟨inner, _, rest⟩ := bind_eq_ok read
      obtain ⟨found, reading, complete⟩ := bind_eq_ok rest
      refine ⟨found, readItems_keeps kept held reading, ?_⟩
      dsimp only at complete
      split at complete
      · next done => exact done.trans (congrArg some (Except.ok.inj complete))
      · cases complete
  | _ => cases read

end Decoder

end AlertRelay
