import AlertRelay.Proofs.Net.Written
import AlertRelay.Proofs.Time.Written
import AlertRelay.Proofs.Wire.Reading
import AlertRelay.Relay.Emit

/-!
# Payloads and results are read back

The decoders of scores, labels, events, payloads and results read what their documents spell
(`Enrichment.reads`, `Result.reads`), where the parts of an event are what its fields can hold
(`Event.Fits`) and a label has counted at most 32 bits of tokens. The time of an event is read as
its text spells it (`Event.carried`), which is the time itself if it came from a text or a number
(`Event.WellFormed`).
-/

namespace AlertRelay

namespace Decoder

variable {α : Type} {decoder : Decoder α} {s : String} {a : α}

theorem reads_text (s : String) : Reads Decoder.text (.text s) s := .of_flat rfl fun _ => rfl

theorem reads_real (x : Float) : Reads Decoder.real (.real x) x := .of_flat rfl fun _ => rfl

/-- A number that fits is read as itself. -/
theorem reads_natural {greatest n : Nat} (fits : n ≤ greatest) :
    Reads (Decoder.natural greatest) (.integer n) n := by
  apply Reads.of_flat rfl
  intro rules
  unfold Decoder.natural Decoder.integer
  dsimp only
  rw [if_pos ⟨Int.natCast_nonneg n, Int.ofNat_le.mpr fits⟩]
  rfl

/-- What is parsed from a text is read from it. -/
theorem reads_parsed {parse : String → Option α} (known : parse s = some a) :
    Reads (Decoder.parsed parse) (.text s) a := by
  apply Reads.of_flat rfl
  intro rules
  unfold Decoder.parsed
  dsimp only
  rw [known]

theorem reads_optional (reads : Reads decoder (.text s) a) :
    Reads (Decoder.optional decoder) (.text s) (some a) := reads.map some

end Decoder

open Decoder

theorem Severity.reads (s : Severity) : Reads Severity.decoder s.toDocument s := by
  apply Reads.of_flat rfl
  intro rules
  cases s <;> rfl

/-- Members are nested no deeper than the deepest of them. -/
theorem Json.membersNesting_le_iff {members : List (String × Json)} {nesting : Nat} :
    Document.membersNesting (Json.memberDocuments members) ≤ nesting ↔
      ∀ member ∈ members, member.2.toDocument.nesting ≤ nesting := by
  induction members with
  | nil => exact iff_of_true (Nat.zero_le _) nofun
  | cons member rest ih =>
      rw [Json.memberDocuments, Document.membersNesting, Nat.max_le, ih, List.forall_mem_cons]

/-- A value in normal form is read back. -/
theorem Json.reads {value : Json} (normal : value.Normal) :
    Reads Json.decoder value.toDocument value := by
  intro rules
  unfold Json.decoder
  rw [Json.ofDocument?_toDocument value normal]
  by_cases inside : value.toDocument.nesting ≤ rules.nesting
  · simp only [inside, ↓reduceIte]
  · simp only [inside, ↓reduceIte]

/-- The members of an object are found in its text unless they are nested too deep. -/
theorem Json.parseObject?_render {members : List (String × Json)}
    (normal : (Json.object members).Normal)
    (read : ∀ x ∈ Json.memberReals members, Document.ReadsBack x) :
    Json.parseObject? (Json.object members).render =
      if (Json.object members).toDocument.nesting ≤ 127 then some members else none := by
  have known := (Json.reads normal).ofJson_render (Json.writable_toDocument _ normal read)
  unfold Json.parseObject? Json.parse? Json.render
  rw [known]
  by_cases inside : (Json.object members).toDocument.nesting ≤ 127
  · simp only [inside, ↓reduceIte, Except.toOption]
  · simp only [inside, ↓reduceIte, Except.toOption]

/-- Sorted members in normal form are read back. -/
theorem Json.reads_object {members : List (String × Json)} (sorted : Json.Sorted members)
    (normal : Json.MembersNormal members) :
    Reads Json.objectDecoder (.record (Json.memberDocuments members)) members := by
  intro rules
  have read := Json.ofDocument?_toDocument (.object members) ⟨sorted, normal⟩ rules.nesting
  rw [Json.toDocument] at read
  unfold Json.objectDecoder
  dsimp only
  rw [read]
  by_cases inside : (Document.record (Json.memberDocuments members)).nesting ≤ rules.nesting
  · simp only [inside, ↓reduceIte]
  · simp only [inside, ↓reduceIte]

theorem Score.reads (s : Score) : Reads Score.decoder s.toDocument s :=
  .record
    (.cons rfl rfl ((reads_real s.isolation).map _)
      (.cons rfl rfl ((reads_real s.sequence).map _)
        (.cons rfl rfl ((reads_real s.aggregate).map _) .nil)))
    rfl

/-- A label whose usage fits is read back. -/
theorem Label.reads {l : Label} (fits : l.usage ≤ maxWord32) :
    Reads Label.decoder l.toDocument l :=
  .record
    (.cons rfl rfl ((reads_text l.incident).map _)
      (.cons rfl rfl (l.severity.reads.map _)
        (.cons rfl rfl ((reads_text l.reason).map _)
          (.cons rfl rfl ((reads_natural fits).map _) .nil))))
    rfl

theorem Result.reads (r : Result) : Reads Result.decoder r.toDocument r :=
  .record
    (.cons rfl rfl ((reads_text r.id).map _)
      (.cons rfl rfl ((reads_real r.score).map _)
        (.cons rfl rfl ((reads_text r.reason).map _)
          (.cons rfl rfl (r.severity.reads.map _)
            (.cons rfl rfl ((reads_text r.incident).map _) .nil)))))
    rfl

namespace Event

/-- Whether the parts of an event are what its fields can hold. -/
structure Fits (e : Event) : Prop where
  source : e.source.Valid
  destination : ∀ a ∈ e.destination, a.Valid
  time : e.time.Fits
  sorted : Json.Sorted e.extra
  normal : Json.MembersNormal e.extra

/-- Whether, moreover, the time of an event is one that texts and numbers can give. -/
structure WellFormed (e : Event) : Prop extends Fits e where
  leap : e.time.Settled

/-- An event at the time that its text spells. -/
def carried (e : Event) : Event := { e with time := e.time.carried }

variable {e : Event}

/-- An event is at the time that its text spells just if nothing is carried. -/
theorem carried_eq_self_iff : e.carried = e ↔ e.time.Settled := by
  rw [← Instant.carried_eq_self_iff]
  exact ⟨congrArg Event.time, fun same => congrArg (fun t => { e with time := t }) same⟩

theorem memberDocuments_append (first second : List (String × Json)) :
    Json.memberDocuments (first ++ second) =
      Json.memberDocuments first ++ Json.memberDocuments second := by
  induction first with
  | nil => rfl
  | cons member rest ih =>
      rw [List.cons_append, Json.memberDocuments, ih, Json.memberDocuments, List.cons_append]

/-- The text of an event does not tell whether a fraction was carried. -/
theorem Fits.toDocument_carried (fits : e.Fits) : e.carried.toDocument = e.toDocument := by
  unfold Event.toDocument Event.members Event.carried
  rw [fits.time.render_carried]

/-- An event is read back at the time that its text spells. -/
theorem reads (fits : e.Fits) : Reads Event.decoder e.toDocument e.carried := by
  obtain ⟨id, source, destination, user, time, extra⟩ := e
  obtain ⟨validSource, validDestination, validTime, sorted, normal⟩ := fits
  refine .record (?_ : ReadsMembers _ _ _ ⟨some id, some source, destination.map some,
    user.map some, some time.carried, if extra.isEmpty then none else some extra⟩) ?_
  · unfold Event.members
    simp only [memberDocuments_append]
    refine .append (?_ : ReadsMembers _ _ _ ⟨some id, some source, destination.map some,
      user.map some, some time.carried, none⟩) ?_
    · refine .append (?_ : ReadsMembers _ _ _ ⟨some id, some source, destination.map some,
        user.map some, none, none⟩) ?_
      · refine .append (?_ : ReadsMembers _ _ _ ⟨some id, some source, destination.map some, none,
          none, none⟩) ?_
        · refine .append (?_ : ReadsMembers _ _ _ ⟨some id, some source, none, none, none, none⟩) ?_
          · exact .cons rfl rfl ((reads_text id).map _)
              (.cons rfl rfl ((reads_parsed (Address.parse?_render validSource)).map _) .nil)
          · cases destination with
            | none => exact .nil
            | some a =>
                have read := reads_parsed (Address.parse?_render (validDestination a rfl))
                exact .cons rfl rfl ((reads_optional read).map _) .nil
        · cases user with
          | none => exact .nil
          | some u => exact .cons rfl rfl ((reads_optional (reads_text u)).map _) .nil
      · have read := reads_parsed (Instant.parseRelaxed?_render_carried validTime)
        exact .cons rfl rfl (read.map _) .nil
    · cases extra with
      | nil => exact .nil
      | cons member rest => exact .cons rfl rfl ((Json.reads_object sorted normal).map _) .nil
  · cases destination <;> cases user <;> cases extra <;> rfl

end Event

namespace Score

/-- The numbers of a score. -/
def reals (s : Score) : List Float := [s.isolation, s.sequence, s.aggregate]

theorem writable {s : Score} (read : ∀ x ∈ s.reals, Document.ReadsBack x) :
    s.toDocument.Writable := by
  simp only [Score.reals, List.forall_mem_cons] at read
  obtain ⟨isolation, sequence, aggregate, _⟩ := read
  exact ⟨rfl, isolation, rfl, sequence, rfl, aggregate, trivial⟩

end Score

namespace Label

theorem writable {l : Label} (fits : l.usage ≤ maxWord32) : l.toDocument.Writable := by
  have inside : Document.minInteger ≤ (l.usage : Int) ∧ (l.usage : Int) ≤ maxWord := by
    unfold Document.minInteger maxWord
    unfold maxWord32 at fits
    omega
  exact ⟨rfl, trivial, rfl, trivial, rfl, trivial, rfl, inside, trivial⟩

end Label

namespace Event

variable {e : Event}

/-- The members that spell an event are texts, but for those that were not recognized. -/
theorem mem_members {member : String × Json} (among : member ∈ e.members) :
    (∃ s, member.2 = .text s) ∨ member.2 = .object e.extra := by
  simp only [Event.members, List.mem_append, List.mem_cons, List.not_mem_nil, or_false,
    Option.mem_toList, Option.map_eq_some_iff] at among
  rcases among with ((((rfl | rfl) | ⟨_, _, rfl⟩) | ⟨_, _, rfl⟩) | rfl) | extra
  · exact .inl ⟨_, rfl⟩
  · exact .inl ⟨_, rfl⟩
  · exact .inl ⟨_, rfl⟩
  · exact .inl ⟨_, rfl⟩
  · exact .inl ⟨_, rfl⟩
  · split at extra
    · cases extra
    · rw [List.mem_singleton.mp extra]
      exact .inr rfl

theorem extra_mem_members (some_ : e.extra ≠ []) :
    ("extra", Json.object e.extra) ∈ e.members := by
  unfold Event.members
  rw [if_neg (by rwa [List.isEmpty_iff])]
  exact List.mem_append_right _ List.mem_cons_self

/-- The members of an event that fits are in normal form. -/
theorem normal_members (fits : e.Fits) : Json.MembersNormal e.members := by
  refine Json.membersNormal_iff.mpr fun member among => ?_
  rcases mem_members among with ⟨s, text⟩ | object
  · rw [text]
    trivial
  · rw [object]
    exact ⟨fits.sorted, fits.normal⟩

/-- The only doubles of an event are those of its extra members. -/
theorem reals_members {x : Float} (among : x ∈ Json.memberReals e.members) :
    x ∈ Json.memberReals e.extra := by
  obtain ⟨member, within, real⟩ := Json.mem_memberReals.mp among
  rcases mem_members within with ⟨s, text⟩ | object
  · rw [text] at real
    cases real
  · rw [object] at real
    exact real

theorem writable (fits : e.Fits)
    (read : ∀ x ∈ Json.memberReals e.extra, Document.ReadsBack x) : e.toDocument.Writable :=
  Json.writable_memberDocuments e.members (normal_members fits) fun x among =>
    read x (reals_members among)

end Event

namespace Enrichment

variable {e : Enrichment}

/-- A payload with its event at the time that its text spells. -/
def carried (e : Enrichment) : Enrichment := { e with event := e.event.carried }

/-- A payload is at the time that its text spells just if nothing is carried. -/
theorem carried_eq_self_iff : e.carried = e ↔ e.event.time.Settled := by
  rw [← Event.carried_eq_self_iff]
  exact ⟨congrArg Enrichment.event, fun same => congrArg (fun x => { e with event := x }) same⟩

/-- A payload is read back, with its event at the time that its text spells. -/
theorem reads (event : e.event.Fits) (fits : e.label.usage ≤ maxWord32) :
    Reads Enrichment.decoder e.toDocument e.carried :=
  .record
    (.cons rfl rfl ((Event.reads event).map _)
      (.cons rfl rfl (e.score.reads.map _)
        (.cons rfl rfl ((Label.reads fits).map _) .nil)))
    rfl

/-- The numbers of a payload. -/
def reals (e : Enrichment) : List Float := Json.memberReals e.event.extra ++ e.score.reals

theorem writable (event : e.event.Fits) (fits : e.label.usage ≤ maxWord32)
    (read : ∀ x ∈ e.reals, Document.ReadsBack x) : e.toDocument.Writable :=
  ⟨rfl, Event.writable event fun x among => read x (List.mem_append_left _ among), rfl,
    Score.writable fun x among => read x (List.mem_append_right _ among), rfl, Label.writable fits,
    trivial⟩

/-- A payload is nested too deep just if a member that was not recognized is nested in more than
124 lists and objects: the payload puts it inside three more. -/
theorem nesting_le_iff :
    e.toDocument.nesting ≤ 127 ↔ ∀ member ∈ e.event.extra, member.2.toDocument.nesting ≤ 124 := by
  have whole : e.toDocument.nesting =
      max (Document.membersNesting (Json.memberDocuments e.event.members) + 1) 1 + 1 := rfl
  have inside : e.toDocument.nesting ≤ 127 ↔
      ∀ member ∈ e.event.members, member.2.toDocument.nesting ≤ 125 := by
    rw [← Json.membersNesting_le_iff]
    omega
  rw [inside]
  constructor
  · intro shallow member among
    have extra := shallow _ (Event.extra_mem_members (List.ne_nil_of_mem among))
    have members := Nat.le_of_succ_le_succ extra
    exact Json.membersNesting_le_iff.mp members member among
  · intro shallow member among
    rcases Event.mem_members among with ⟨s, text⟩ | object
    · rw [text]
      exact Nat.zero_le _
    · rw [object]
      exact Nat.succ_le_succ (Json.membersNesting_le_iff.mpr shallow)

/-- What the alerts topic carries is read back, unless it is nested too deep. -/
theorem ofBytes_payload (event : e.event.WellFormed) (fits : e.label.usage ≤ maxWord32)
    (read : ∀ x ∈ e.reals, Document.ReadsBack x) :
    Decoder.ofBytes Enrichment.decoder e.payload =
      if e.toDocument.nesting ≤ 127 then .ok e else .error .malformed := by
  have read := (reads event.toFits fits).ofBytes_render (writable event.toFits fits read)
  rwa [carried_eq_self_iff.mpr event.leap] at read

end Enrichment

theorem Result.writable {r : Result} (read : Document.ReadsBack r.score) :
    r.toDocument.Writable :=
  ⟨rfl, trivial, rfl, read, rfl, trivial, rfl, trivial, rfl, trivial, trivial⟩

/-- What the output topic carries is read back. -/
theorem Result.ofBytes_render {r : Result} (read : Document.ReadsBack r.score) :
    Decoder.ofBytes Result.decoder (utf8 r.toDocument.render) = .ok r := by
  have flat : r.toDocument.nesting = 1 := rfl
  rw [r.reads.ofBytes_render (Result.writable read), flat]
  rfl

end AlertRelay
