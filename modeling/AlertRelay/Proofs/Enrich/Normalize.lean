import AlertRelay.Enrich.Normalize
import AlertRelay.Proofs.Document.Records
import AlertRelay.Proofs.Document.Scanned
import AlertRelay.Proofs.Wire.Payload

/-!
# Events of raw events

An event that a raw event was normalized to is well formed, and what it keeps of the raw event is
sound if the raw event is (`RawEvent.wellFormed_normalize`).
-/

namespace AlertRelay

namespace RawEvent

variable {raw : RawEvent} {fresh : Uuid} {event : Event} {name : String} {found : Option Json}

/-- An address that was read has parts in their ranges. -/
theorem valid_address {a : Address} (read : address name found = .ok (some a)) : a.Valid := by
  unfold RawEvent.address at read
  split at read
  · cases read
  · cases read
  · split at read
    · cases read
    · split at read
      · next known =>
          cases read
          exact Address.valid_parse? known
      · cases read
  · cases read

/-- An instant that counts from 1970 is well-formed. -/
theorem wellFormed_instantOfEpoch? {value : Float} {i : Instant}
    (known : instantOfEpoch? value = some i) : i.WellFormed :=
  Instant.wellFormed_ofMillis? known

/-- A time that was read is well-formed. -/
theorem wellFormed_time {i : Instant} (read : time found = .ok i) : i.WellFormed := by
  unfold RawEvent.time at read
  split at read
  · cases read
  · cases read
  · dsimp only at read
    split at read
    · next known =>
        cases read
        split at known
        · exact wellFormed_instantOfEpoch? known
        · exact wellFormed_instantOfEpoch? known
        · split at known
          · exact wellFormed_instantOfEpoch? known
          · exact Instant.wellFormed_parse? known
        · cases known
    · cases read

/-- What the fields of a normalized event were read from. -/
theorem normalize_ok (normalized : raw.normalize fresh = .ok event) :
    event.id = identifier fresh (Json.member? "id" raw) ∧
      address "src_ip" (Json.member? "src_ip" raw) = .ok (some event.source) ∧
      address "dst_ip" (Json.member? "dst_ip" raw) = .ok event.destination ∧
      time (Json.member? "timestamp" raw) = .ok event.time ∧
      event.extra = raw.filter fun member => !recognized.contains member.1 := by
  obtain ⟨source, known, sourced⟩ := bind_eq_ok normalized
  cases source with
  | none => cases sourced
  | some source =>
      obtain ⟨destination, target, addressed⟩ := bind_eq_ok sourced
      obtain ⟨instant, read, timed⟩ := bind_eq_ok addressed
      cases timed
      exact ⟨rfl, known, target, read, rfl⟩

/-- An event of a sound raw event is well formed, and keeps what is sound. -/
theorem wellFormed_normalize (sorted : Json.Sorted raw) (sound : Json.MembersSound raw)
    (normalized : raw.normalize fresh = .ok event) :
    event.WellFormed ∧ Json.MembersSound event.extra := by
  obtain ⟨_, source, destination, time, extra⟩ := normalize_ok normalized
  have kept : Json.MembersSound event.extra := by
    rw [extra]
    exact sound.of_subset fun member among => (List.mem_filter.mp among).1
  have instant := wellFormed_time time
  refine ⟨⟨⟨valid_address source, fun a is => ?_, instant.toFits, ?_, kept.1⟩, instant.leap⟩, kept⟩
  · rw [Option.mem_def.mp is] at destination
    exact valid_address destination
  · rw [extra]
    exact sorted.filter _

end RawEvent

end AlertRelay
