import AlertRelay.Event
import AlertRelay.Record

/-!
# Written forms of events and alerts

The documents that events, scores, labels, alerts and what is published about them are written as,
and the decoders that read them again.
-/

namespace AlertRelay

/-- The greatest number of 32 bits. -/
def maxWord32 : Nat := 0xffffffff

namespace TopicPartition

/-- The document of a partition. -/
def toDocument (tp : TopicPartition) : Document :=
  .ofFields [("topic", .text tp.topic), ("partition", .integer tp.partition)]

/-- The fields of a partition that have been read. -/
structure Fields where
  topic : Option String
  partition : Option Int

/-- Reads a number of 32 bits. -/
def number32 : Decoder Int := Decoder.integer (-0x80000000) 0x7fffffff

/-- Reads a partition. -/
def decoder : Decoder TopicPartition :=
  Decoder.record
    [.named "topic" Decoder.text Fields.topic fun v found => { found with topic := some v },
      .named "partition" number32 Fields.partition fun v found =>
        { found with partition := some v }]
    ⟨none, none⟩
    fun found => do return ⟨← found.topic, ← found.partition⟩

end TopicPartition

namespace OffsetCommit

/-- The document of an offset commit. -/
def toDocument (c : OffsetCommit) : Document :=
  .ofFields [("topic", .text c.topic), ("partition", .integer c.partition),
    ("offset", .integer c.offset), ("consumer_group", .text c.consumerGroup)]

/-- The fields of an offset commit that have been read. -/
structure Fields where
  topic : Option String
  partition : Option Int
  offset : Option Int
  consumerGroup : Option String

/-- Reads a number of 64 bits. -/
def number64 : Decoder Int := Decoder.integer (-0x8000000000000000) 0x7fffffffffffffff

/-- Reads an offset commit. -/
def decoder : Decoder OffsetCommit :=
  Decoder.record
    [.named "topic" Decoder.text Fields.topic fun v found => { found with topic := some v },
      .named "partition" TopicPartition.number32 Fields.partition
        fun v found => { found with partition := some v },
      .named "offset" number64 Fields.offset fun v found => { found with offset := some v },
      .named "consumer_group" Decoder.text Fields.consumerGroup
        fun v found => { found with consumerGroup := some v }]
    ⟨none, none, none, none⟩
    fun found => do
      return ⟨← found.topic, ← found.partition, ← found.offset, ← found.consumerGroup⟩

end OffsetCommit

namespace Severity

/-- The document of a severity. -/
def toDocument (s : Severity) : Document := .text s.name

/-- Reads a severity. -/
def decoder : Decoder Severity := Decoder.choice ofName?

end Severity

namespace Score

/-- The document of a score. -/
def toDocument (s : Score) : Document :=
  .ofFields [("score_if", .real s.isolation), ("score_seq", .real s.sequence),
    ("aggregate", .real s.aggregate)]

/-- The fields of a score that have been read. -/
structure Fields where
  isolation : Option Float
  sequence : Option Float
  aggregate : Option Float

/-- Reads a score. -/
def decoder : Decoder Score :=
  Decoder.record
    [.named "score_if" Decoder.real Fields.isolation
        fun v found => { found with isolation := some v },
      .named "score_seq" Decoder.real Fields.sequence
        fun v found => { found with sequence := some v },
      .named "aggregate" Decoder.real Fields.aggregate
        fun v found => { found with aggregate := some v }]
    ⟨none, none, none⟩
    fun found => do return ⟨← found.isolation, ← found.sequence, ← found.aggregate⟩

end Score

namespace Label

/-- The document of a label. -/
def toDocument (l : Label) : Document :=
  .ofFields [("class", .text l.incident), ("severity", l.severity.toDocument),
    ("reason", .text l.reason), ("gpt_tokens", .integer l.usage)]

/-- The fields of a label that have been read. -/
structure Fields where
  incident : Option String
  severity : Option Severity
  reason : Option String
  usage : Option Nat

/-- Reads a label. The number of tokens goes by two names and may be missing. -/
def decoder : Decoder Label :=
  Decoder.record
    [.named "class" Decoder.text Fields.incident fun v found => { found with incident := some v },
      .named "severity" Severity.decoder Fields.severity
        fun v found => { found with severity := some v },
      .named "reason" Decoder.text Fields.reason fun v found => { found with reason := some v },
      { names := ["gpt_tokens", "usage"]
        present := fun found => found.usage.isSome
        read := fun rules d => (Decoder.natural maxWord32 rules d).map fun v found =>
          { found with usage := some v } }]
    ⟨none, none, none, none⟩
    fun found => do
      return ⟨← found.incident, ← found.severity, ← found.reason, found.usage.getD 0⟩

end Label

namespace Event

/-- The document of an event. -/
def toDocument (e : Event) : Document :=
  .record (Json.memberDocuments e.members)

/-- The fields of an event that have been read. -/
structure Fields where
  id : Option String
  source : Option Address
  destination : Option (Option Address)
  user : Option (Option String)
  time : Option Instant
  extra : Option (List (String × Json))

/-- Reads an event. -/
def decoder : Decoder Event :=
  Decoder.record
    [.named "id" Decoder.text Fields.id fun v found => { found with id := some v },
      .named "src_ip" (Decoder.parsed Address.parse?) Fields.source
        fun v found => { found with source := some v },
      .named "dst_ip" (Decoder.optional (Decoder.parsed Address.parse?)) Fields.destination
        fun v found => { found with destination := some v },
      .named "user_id" (Decoder.optional Decoder.text) Fields.user
        fun v found => { found with user := some v },
      .named "timestamp" (Decoder.parsed Instant.parseRelaxed?) Fields.time
        fun v found => { found with time := some v },
      .named "extra" Json.objectDecoder Fields.extra fun v found => { found with extra := some v }]
    ⟨none, none, none, none, none, none⟩
    fun found => do
      return {
        id := ← found.id
        source := ← found.source
        destination := found.destination.getD none
        user := found.user.getD none
        time := ← found.time
        extra := found.extra.getD [] }

end Event

namespace Alert

/-- The document of an alert. -/
def toDocument (a : Alert) : Document :=
  .ofFields [("alert_id", .text a.id.render), ("event_id", .text a.eventId),
    ("class", .text a.incident), ("severity", a.severity.toDocument), ("reason", .text a.reason),
    ("aggregate_score", .real a.score), ("event_timestamp", .text a.eventTime.render),
    ("raw_event", a.rawEvent.toDocument), ("usage", .integer a.usage)]

/-- The fields of an alert that have been read. -/
structure Fields where
  id : Option Uuid
  eventId : Option String
  incident : Option String
  severity : Option Severity
  reason : Option String
  score : Option Float
  eventTime : Option Instant
  rawEvent : Option Json
  usage : Option Nat

/-- Reads an alert. -/
def decoder : Decoder Alert :=
  Decoder.record
    [.named "alert_id" (Decoder.parsed Uuid.parse?) Fields.id
        fun v found => { found with id := some v },
      .named "event_id" Decoder.text Fields.eventId fun v found => { found with eventId := some v },
      .named "class" Decoder.text Fields.incident fun v found => { found with incident := some v },
      .named "severity" Severity.decoder Fields.severity
        fun v found => { found with severity := some v },
      .named "reason" Decoder.text Fields.reason fun v found => { found with reason := some v },
      .named "aggregate_score" Decoder.real Fields.score
        fun v found => { found with score := some v },
      .named "event_timestamp" (Decoder.parsed Instant.parseRelaxed?) Fields.eventTime
        fun v found => { found with eventTime := some v },
      .named "raw_event" Json.decoder Fields.rawEvent
        fun v found => { found with rawEvent := some v },
      .named "usage" (Decoder.natural maxWord32) Fields.usage
        fun v found => { found with usage := some v }]
    ⟨none, none, none, none, none, none, none, none, none⟩
    fun found => do
      return {
        id := ← found.id
        eventId := ← found.eventId
        incident := ← found.incident
        severity := ← found.severity
        reason := ← found.reason
        score := ← found.score
        eventTime := ← found.eventTime
        rawEvent := ← found.rawEvent
        usage := ← found.usage }

end Alert

namespace Enrichment

/-- The document of the payload that the alerts topic carries. -/
def toDocument (e : Enrichment) : Document :=
  .ofFields [("event", e.event.toDocument), ("scores", e.score.toDocument),
    ("label", e.label.toDocument)]

/-- The fields of a payload that have been read. -/
structure Fields where
  event : Option Event
  score : Option Score
  label : Option Label

/-- Reads a payload. -/
def decoder : Decoder Enrichment :=
  Decoder.record
    [.named "event" Event.decoder Fields.event fun v found => { found with event := some v },
      .named "scores" Score.decoder Fields.score fun v found => { found with score := some v },
      .named "label" Label.decoder Fields.label fun v found => { found with label := some v }]
    ⟨none, none, none⟩
    fun found => do return ⟨← found.event, ← found.score, ← found.label⟩

end Enrichment

namespace Result

/-- The document of a result. -/
def toDocument (r : Result) : Document :=
  .ofFields [("id", .text r.id), ("score", .real r.score), ("label", .text r.reason),
    ("severity", r.severity.toDocument), ("class", .text r.incident)]

/-- The fields of a result that have been read. -/
structure Fields where
  id : Option String
  score : Option Float
  reason : Option String
  severity : Option Severity
  incident : Option String

/-- Reads a result. -/
def decoder : Decoder Result :=
  Decoder.record
    [.named "id" Decoder.text Fields.id fun v found => { found with id := some v },
      .named "score" Decoder.real Fields.score fun v found => { found with score := some v },
      .named "label" Decoder.text Fields.reason fun v found => { found with reason := some v },
      .named "severity" Severity.decoder Fields.severity
        fun v found => { found with severity := some v },
      .named "class" Decoder.text Fields.incident fun v found => { found with incident := some v }]
    ⟨none, none, none, none, none⟩
    fun found => do
      return ⟨← found.id, ← found.score, ← found.reason, ← found.severity, ← found.incident⟩

end Result

end AlertRelay
