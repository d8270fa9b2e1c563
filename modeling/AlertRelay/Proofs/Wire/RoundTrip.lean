import AlertRelay.Proofs.Uuid
import AlertRelay.Proofs.Wire.Payload
import AlertRelay.Retry.Policy

/-!
# Everything that is written is read back

The types that have a written form, side by side (`WireType`): what each value is spelled as, which
decoder reads it, and what its parts are to be (`WireType.Fits`). Every value of every type is read
from its own text, unless it is nested too deep (`WireType.decode_encode`). Only a time with more
than a second of fraction is read as another one (`WireType.carried`), unless it is in a leap
second.
-/

namespace AlertRelay

open Decoder

namespace Decoder

theorem reads_integer {least greatest i : Int} (above : least ≤ i) (below : i ≤ greatest) :
    Reads (Decoder.integer least greatest) (.integer i) i := by
  apply Reads.of_flat rfl
  intro rules
  unfold Decoder.integer
  exact if_pos ⟨above, below⟩

/-- What is read is checked afterwards. -/
theorem Reads.checked {α β : Type} {decoder : Decoder α} {d : Document} {a : α} {b : β}
    {check : α → Except DecodeFault β} (reads : Reads decoder d a) (passed : check a = .ok b) :
    Reads (fun rules d => (decoder rules d).bind check) d b := by
  intro rules
  dsimp only
  rw [reads rules]
  split
  · exact passed
  · rfl

end Decoder

namespace TopicPartition

/-- Whether the number of a partition has 32 bits. -/
def Fits (tp : TopicPartition) : Prop := -0x80000000 ≤ tp.partition ∧ tp.partition ≤ 0x7fffffff

variable {tp : TopicPartition}

theorem reads (fits : tp.Fits) : Reads TopicPartition.decoder tp.toDocument tp :=
  .record
    (.cons rfl rfl ((reads_text tp.topic).map _)
      (.cons rfl rfl ((reads_integer fits.1 fits.2).map _) .nil))
    rfl

theorem writable (fits : tp.Fits) : tp.toDocument.Writable := by
  have inside : Document.minInteger ≤ tp.partition ∧ tp.partition ≤ maxWord := by
    unfold TopicPartition.Fits at fits
    unfold Document.minInteger maxWord
    omega
  exact ⟨rfl, trivial, rfl, inside, trivial⟩

end TopicPartition

namespace OffsetCommit

/-- Whether the number of the partition has 32 bits, and the offset 64. -/
structure Fits (c : OffsetCommit) : Prop where
  partition : c.topicPartition.Fits
  least : -0x8000000000000000 ≤ c.offset
  greatest : c.offset ≤ 0x7fffffffffffffff

variable {c : OffsetCommit}

theorem reads (fits : c.Fits) : Reads OffsetCommit.decoder c.toDocument c :=
  .record
    (.cons rfl rfl ((reads_text c.topic).map _)
      (.cons rfl rfl ((reads_integer fits.partition.1 fits.partition.2).map _)
        (.cons rfl rfl ((reads_integer fits.least fits.greatest).map _)
          (.cons rfl rfl ((reads_text c.consumerGroup).map _) .nil))))
    rfl

theorem writable (fits : c.Fits) : c.toDocument.Writable := by
  have partition : Document.minInteger ≤ c.partition ∧ c.partition ≤ maxWord := by
    have small : -0x80000000 ≤ c.partition ∧ c.partition ≤ 0x7fffffff := fits.partition
    unfold Document.minInteger maxWord
    omega
  have offset : Document.minInteger ≤ c.offset ∧ c.offset ≤ maxWord := by
    have least := fits.least
    have greatest := fits.greatest
    unfold Document.minInteger maxWord
    omega
  exact ⟨rfl, trivial, rfl, partition, rfl, offset, rfl, trivial, trivial⟩

end OffsetCommit

namespace Alert

/-- Whether the parts of an alert are what its fields can hold. -/
structure FieldsFit (a : Alert) : Prop where
  id : a.id.value < 2 ^ 128
  eventTime : a.eventTime.Fits
  rawEvent : a.rawEvent.Normal
  usage : a.usage ≤ maxWord32

/-- An alert at the time that its text spells. -/
def carried (a : Alert) : Alert := { a with eventTime := a.eventTime.carried }

variable {a : Alert}

/-- An alert is at the time that its text spells just if nothing is carried. -/
theorem carried_eq_self_iff : a.carried = a ↔ a.eventTime.Settled := by
  rw [← Instant.carried_eq_self_iff]
  exact ⟨congrArg Alert.eventTime, fun same => congrArg (fun t => { a with eventTime := t }) same⟩

/-- The text of an alert does not tell whether a fraction was carried. -/
theorem FieldsFit.toDocument_carried (fits : a.FieldsFit) :
    a.carried.toDocument = a.toDocument := by
  unfold Alert.toDocument Alert.carried
  rw [fits.eventTime.render_carried]

/-- An alert is read back at the time that its text spells. -/
theorem reads (fits : a.FieldsFit) : Reads Alert.decoder a.toDocument a.carried :=
  .record
    (.cons rfl rfl ((reads_parsed (Uuid.parse?_render fits.id)).map _)
      (.cons rfl rfl ((reads_text a.eventId).map _)
        (.cons rfl rfl ((reads_text a.incident).map _)
          (.cons rfl rfl (a.severity.reads.map _)
            (.cons rfl rfl ((reads_text a.reason).map _)
              (.cons rfl rfl ((reads_real a.score).map _)
                (.cons rfl rfl
                    ((reads_parsed (Instant.parseRelaxed?_render_carried fits.eventTime)).map _)
                  (.cons rfl rfl ((Json.reads fits.rawEvent).map _)
                    (.cons rfl rfl ((reads_natural fits.usage).map _) .nil)))))))))
    rfl

/-- The numbers of an alert. -/
def reals (a : Alert) : List Float := a.score :: a.rawEvent.reals

theorem writable (fits : a.FieldsFit) (read : ∀ x ∈ a.reals, Document.ReadsBack x) :
    a.toDocument.Writable := by
  have rawEvent : a.rawEvent.toDocument.Writable :=
    Json.writable_toDocument _ fits.rawEvent fun x among =>
      read x (List.mem_cons_of_mem _ among)
  have usage : Document.minInteger ≤ (a.usage : Int) ∧ (a.usage : Int) ≤ maxWord := by
    have small := fits.usage
    unfold Document.minInteger maxWord
    unfold maxWord32 at small
    omega
  exact ⟨rfl, trivial, rfl, trivial, rfl, trivial, rfl, trivial, rfl, trivial, rfl,
    read a.score List.mem_cons_self, rfl, trivial, rfl, rawEvent, rfl, usage, trivial⟩

end Alert

/-- The text of a payload does not tell whether a fraction was carried. -/
theorem Enrichment.toDocument_carried {e : Enrichment} (fits : e.event.Fits) :
    e.carried.toDocument = e.toDocument := by
  unfold Enrichment.toDocument Enrichment.carried
  rw [fits.toDocument_carried]

namespace RetryPolicy

/-- Whether a policy keeps to the bounds of decoded policies. -/
structure Bounded (p : RetryPolicy) : Prop where
  attempts : 1 ≤ p.maxAttempts ∧ p.maxAttempts ≤ attemptLimit
  initial : p.initialMillis ≤ backoffLimit
  longest : p.maxMillis ≤ backoffLimit
  multiplier : p.multiplier.isFinite = true ∧ ¬p.multiplier < 1.0 ∧ ¬100.0 < p.multiplier
  jitter : p.jitter.isFinite = true ∧ ¬p.jitter < 0.0 ∧ ¬1.0 < p.jitter

variable {p : RetryPolicy}

/-- A number of attempts within its limits is read back. -/
theorem reads_attempts {n : Nat} (some_ : 1 ≤ n) (fits : n ≤ attemptLimit) :
    Reads attemptsDecoder (.integer n) n :=
  (reads_natural (Nat.le_trans fits (by decide))).checked (if_neg (by omega))

theorem reads_backoff {n : Nat} (fits : n ≤ backoffLimit) :
    Reads backoffDecoder (.integer n) n :=
  (reads_natural (Nat.le_trans fits (by decide))).checked (if_neg (Nat.not_lt.mpr fits))

theorem reads_multiplier {x : Float} (bounded : x.isFinite = true ∧ ¬x < 1.0 ∧ ¬100.0 < x) :
    Reads multiplierDecoder (.real x) x :=
  (reads_real x).checked (if_neg (by simp [bounded]))

theorem reads_jitter {x : Float} (bounded : x.isFinite = true ∧ ¬x < 0.0 ∧ ¬1.0 < x) :
    Reads jitterDecoder (.real x) x :=
  (reads_real x).checked (if_neg (by simp [bounded]))

theorem reads (bounded : p.Bounded) : Reads RetryPolicy.decoder p.toDocument p :=
  .record
    (.cons rfl rfl ((reads_attempts bounded.attempts.1 bounded.attempts.2).map _)
      (.cons rfl rfl ((reads_backoff bounded.initial).map _)
        (.cons rfl rfl ((reads_backoff bounded.longest).map _)
          (.cons rfl rfl ((reads_multiplier bounded.multiplier).map _)
            (.cons rfl rfl ((reads_jitter bounded.jitter).map _) .nil)))))
    rfl

/-- The doubles of a policy. -/
def reals (p : RetryPolicy) : List Float := [p.multiplier, p.jitter]

theorem writable (bounded : p.Bounded) (read : ∀ x ∈ p.reals, Document.ReadsBack x) :
    p.toDocument.Writable := by
  have inside : ∀ n, n ≤ backoffLimit → Document.minInteger ≤ (n : Int) ∧ (n : Int) ≤ maxWord := by
    intro n fits
    unfold RetryPolicy.backoffLimit at fits
    unfold Document.minInteger maxWord
    omega
  have attempts : p.maxAttempts ≤ backoffLimit :=
    Nat.le_trans bounded.attempts.2 (by decide)
  simp only [RetryPolicy.reals, List.forall_mem_cons] at read
  obtain ⟨multiplier, jitter, _⟩ := read
  exact ⟨rfl, inside _ attempts, rfl, inside _ bounded.initial, rfl, inside _ bounded.longest, rfl,
    multiplier, rfl, jitter, trivial⟩

end RetryPolicy

/-! ## All types together -/

/-- A type whose values are written as JSON. -/
inductive WireType where
  | topicPartition
  | event
  | score
  | severity
  | label
  | alert
  | payload
  | result
  | offsetCommit
  | retryPolicy

namespace WireType

/-- The values of a type. -/
def Value : WireType → Type
  | topicPartition => TopicPartition
  | event => Event
  | score => Score
  | severity => Severity
  | label => Label
  | alert => Alert
  | payload => Enrichment
  | result => Result
  | offsetCommit => OffsetCommit
  | retryPolicy => RetryPolicy

/-- The document of a value. -/
def toDocument : (t : WireType) → t.Value → Document
  | topicPartition => TopicPartition.toDocument
  | event => Event.toDocument
  | score => Score.toDocument
  | severity => Severity.toDocument
  | label => Label.toDocument
  | alert => Alert.toDocument
  | payload => Enrichment.toDocument
  | result => Result.toDocument
  | offsetCommit => OffsetCommit.toDocument
  | retryPolicy => RetryPolicy.toDocument

/-- The decoder of a type. -/
def decoder : (t : WireType) → Decoder t.Value
  | topicPartition => TopicPartition.decoder
  | event => Event.decoder
  | score => Score.decoder
  | severity => Severity.decoder
  | label => Label.decoder
  | alert => Alert.decoder
  | payload => Enrichment.decoder
  | result => Result.decoder
  | offsetCommit => OffsetCommit.decoder
  | retryPolicy => RetryPolicy.decoder

/-- Whether the parts of a value are what its fields can hold, and a policy keeps to its bounds. -/
def Fits : (t : WireType) → t.Value → Prop
  | topicPartition, tp => TopicPartition.Fits tp
  | event, e => Event.Fits e
  | score, _ | severity, _ | result, _ => True
  | label, l => Label.usage l ≤ maxWord32
  | alert, a => Alert.FieldsFit a
  | payload, e => (Enrichment.event e).Fits ∧ (Enrichment.label e).usage ≤ maxWord32
  | offsetCommit, c => OffsetCommit.Fits c
  | retryPolicy, p => RetryPolicy.Bounded p

/-- The doubles in a value. -/
def reals : (t : WireType) → t.Value → List Float
  | event, e => Json.memberReals (Event.extra e)
  | score, s => Score.reals s
  | alert, a => Alert.reals a
  | payload, e => Enrichment.reals e
  | result, r => [Result.score r]
  | retryPolicy, p => RetryPolicy.reals p
  | topicPartition, _ | severity, _ | label, _ | offsetCommit, _ => []

/-- The times in a value. -/
def times : (t : WireType) → t.Value → List Instant
  | event, e => [Event.time e]
  | alert, a => [Alert.eventTime a]
  | payload, e => [(Enrichment.event e).time]
  | _, _ => []

/-- A value with its times as its text spells them. -/
def carried : (t : WireType) → t.Value → t.Value
  | event, e => Event.carried e
  | alert, a => Alert.carried a
  | payload, e => Enrichment.carried e
  | topicPartition, v | score, v | severity, v | label, v | result, v | offsetCommit, v
  | retryPolicy, v => v

/-- The bytes of a value. -/
def encode (t : WireType) (v : t.Value) : Bytes := utf8 (t.toDocument v).render

/-- What the decoder makes of bytes. -/
def decode (t : WireType) (bytes : Bytes) : Except DecodeFault t.Value :=
  Decoder.ofBytes t.decoder bytes

variable {t : WireType} {v : t.Value}

/-- A value is as its text spells it just if nothing is carried in any of its times. -/
theorem carried_eq_self_iff : t.carried v = v ↔ ∀ i ∈ t.times v, i.Settled := by
  cases t with
  | event => exact Event.carried_eq_self_iff.trans List.forall_mem_singleton.symm
  | alert => exact Alert.carried_eq_self_iff.trans List.forall_mem_singleton.symm
  | payload => exact Enrichment.carried_eq_self_iff.trans List.forall_mem_singleton.symm
  | _ => exact iff_of_true rfl nofun

/-- The text of a value does not tell whether a fraction was carried. -/
theorem Fits.toDocument_carried (fits : t.Fits v) :
    t.toDocument (t.carried v) = t.toDocument v := by
  cases t with
  | event => exact Event.Fits.toDocument_carried fits
  | alert => exact Alert.FieldsFit.toDocument_carried fits
  | payload => exact Enrichment.toDocument_carried fits.1
  | _ => rfl

/-- The decoder of a type reads the document of a value, with the times that it spells. -/
theorem reads (fits : t.Fits v) : Reads t.decoder (t.toDocument v) (t.carried v) := by
  cases t with
  | topicPartition => exact TopicPartition.reads fits
  | event => exact Event.reads fits
  | score => exact Score.reads v
  | severity => exact Severity.reads v
  | label => exact Label.reads fits
  | alert => exact Alert.reads fits
  | payload => exact Enrichment.reads fits.1 fits.2
  | result => exact Result.reads v
  | offsetCommit => exact OffsetCommit.reads fits
  | retryPolicy => exact RetryPolicy.reads fits

theorem writable (fits : t.Fits v) (read : ∀ x ∈ t.reals v, Document.ReadsBack x) :
    (t.toDocument v).Writable := by
  cases t with
  | topicPartition => exact TopicPartition.writable fits
  | event => exact Event.writable fits read
  | score => exact Score.writable read
  | severity => exact trivial
  | label => exact Label.writable fits
  | alert => exact Alert.writable fits read
  | payload => exact Enrichment.writable fits.1 fits.2 read
  | result => exact Result.writable (read _ List.mem_cons_self)
  | offsetCommit => exact OffsetCommit.writable fits
  | retryPolicy => exact RetryPolicy.writable fits read

/-- A value is read from its own text with the times that the text spells, unless it is nested too
deep. -/
theorem decode_encode_carried (fits : t.Fits v) (numbers : ∀ x ∈ t.reals v, Document.ReadsBack x)
    (shallow : (t.toDocument v).nesting ≤ 127) : t.decode (t.encode v) = .ok (t.carried v) := by
  unfold WireType.decode WireType.encode
  rw [(reads fits).ofBytes_render (writable fits numbers), if_pos shallow]

/-- Every value of every type is read from its own text, and written again as the same bytes, if its
doubles are finite and it is nested in at most 127 lists and objects. It is read as it was just if
each of its times has more than a second of fraction in the last second of a minute only; in any
other second, the second is carried. A finite double is assumed to be read from its text as it was.
-/
theorem decode_encode (fits : t.Fits v) (finite : ∀ x ∈ t.reals v, x.isFinite = true)
    (numbers : ∀ x ∈ t.reals v, x.isFinite = true → Document.ReadsBack x)
    (shallow : (t.toDocument v).nesting ≤ 127) :
    t.decode (t.encode v) = .ok (t.carried v) ∧
      (t.carried v = v ↔ ∀ i ∈ t.times v, i.Settled) ∧
      (t.decode (t.encode v)).map t.encode = .ok (t.encode v) := by
  have read := decode_encode_carried fits (fun x among => numbers x among (finite x among)) shallow
  refine ⟨read, carried_eq_self_iff, ?_⟩
  rw [read, Except.map, WireType.encode, fits.toDocument_carried]
  rfl

/-- An event half a second after the end of a second in the middle of a minute is read as one of the
next second. -/
theorem fraction_carried :
    let e : Event := ⟨"e", .v4 10 1 2 3, none, none, ⟨1714566870, 1500000000⟩, []⟩
    event.Fits e ∧ event.reals e = [] ∧ (event.toDocument e).nesting ≤ 127 ∧
      event.decode (event.encode e) = .ok { e with time := ⟨1714566871, 500000000⟩ } ∧
      event.decode (event.encode e) ≠ .ok e := by
  intro e
  have fits : event.Fits e :=
    ⟨⟨by decide, by decide, by decide, by decide⟩, nofun, ⟨by decide, by decide, by decide⟩, .nil,
      trivial⟩
  have shallow : (event.toDocument e).nesting ≤ 127 := by decide
  have carried : e.time.carried = ⟨1714566871, 500000000⟩ := by decide
  have read : event.decode (event.encode e) = .ok { e with time := ⟨1714566871, 500000000⟩ } :=
    (decode_encode_carried fits nofun shallow).trans
      (congrArg (fun t => Except.ok { e with time := t }) carried)
  refine ⟨fits, rfl, shallow, read, fun same => ?_⟩
  have times : Except.map Event.time (.ok { e with time := ⟨1714566871, 500000000⟩ }) =
      (Except.map Event.time (.ok e) : Except DecodeFault Instant) :=
    congrArg (Except.map Event.time) (read.symm.trans same)
  cases times

/-- An alert of a leap second, with a quotation mark and a nested value. -/
theorem decode_encode_alert :
    let a : Alert := ⟨⟨0x6f1c1a52111142228333444455556666⟩, "e", "Malware", .medium, "a \"b\"", 0.5,
      ⟨1483228799, 1500000000⟩, .object [("n", .list [.null, .integer (-1)])], 7⟩
    alert.Fits a ∧ (∀ x ∈ alert.reals a, x.isFinite = true) ∧
      (∀ x ∈ alert.reals a, x.isFinite = true → Document.ReadsBack x) ∧
      (alert.toDocument a).nesting ≤ 127 ∧ alert.decode (alert.encode a) = .ok a := by
  intro a
  have half : (Binary64.ofFloat 0.5).jsonText = "0.5" := by decide +kernel
  have fits : alert.Fits a :=
    ⟨by decide, ⟨by decide, by decide, by decide⟩,
      ⟨List.pairwise_singleton _ _, ⟨trivial, ⟨by decide, by decide⟩, trivial⟩, trivial⟩, by decide⟩
  have finite : ∀ x ∈ alert.reals a, x.isFinite = true :=
    List.forall_mem_singleton.mpr (by decide +kernel : (0.5 : Float).isFinite = true)
  have numbers : ∀ x ∈ alert.reals a, x.isFinite = true → Document.ReadsBack x := by
    refine List.forall_mem_singleton.mpr fun _ => ⟨⟨false, [0], some [5], none⟩, ?_, rfl⟩
    change Document.scanNumber (Binary64.ofFloat 0.5).jsonText.toList = _
    rw [half]
    rfl
  have shallow : (alert.toDocument a).nesting ≤ 127 := by decide
  have leap : alert.carried a = a :=
    carried_eq_self_iff.mpr (List.forall_mem_singleton.mpr fun _ => rfl)
  exact ⟨fits, finite, numbers, shallow,
    (decode_encode fits finite numbers shallow).1.trans (congrArg Except.ok leap)⟩

end WireType

end AlertRelay
