import AlertRelay.Json
import AlertRelay.Retry.Policy

/-!
# Settings of the consumer loop

What is consumed and produced, how much may be in flight, and how often work is tried again.
Settings that do not fit together are refused with the first complaint in a fixed order.
-/

namespace AlertRelay

/-- The settings of the consumer loop. -/
structure ConsumerConfig where
  groupId : String
  topics : List String
  outputTopic : String
  alertsTopic : String
  /-- The dead-letter topic; without one it is named after the first input topic. -/
  deadLetterTopic : Option String
  pollTimeoutMillis : Nat
  /-- The assignment is paused when more records than this are in flight. -/
  highWatermark : Nat
  /-- The assignment is resumed when fewer records than this are in flight. -/
  lowWatermark : Nat
  /-- How many workers there are; without a number, one for each processor. -/
  workers : Option Nat
  queueCapacity : Nat
  retryPolicy : RetryPolicy
  labelerRetryPolicy : RetryPolicy
  /-- How often a failing record is delivered again before it is set aside. -/
  maxRedeliveries : Nat
  shutdownTimeoutMillis : Nat
  sessionTimeoutMillis : Nat
  autoOffsetReset : String
  deriving Inhabited

namespace ConsumerConfig

/-- The settings when nothing is set. -/
def standard : ConsumerConfig where
  groupId := "ai-service"
  topics := ["rau_events"]
  outputTopic := "rau_events_scored"
  alertsTopic := "alerts"
  deadLetterTopic := none
  pollTimeoutMillis := 1000
  highWatermark := 10000
  lowWatermark := 1000
  workers := none
  queueCapacity := 16384
  retryPolicy := .standard
  labelerRetryPolicy := .labeling
  maxRedeliveries := 3
  shutdownTimeoutMillis := 30000
  sessionTimeoutMillis := 30000
  autoOffsetReset := "earliest"

/-- The dead-letter topic. -/
def deadLetters (c : ConsumerConfig) : String :=
  c.deadLetterTopic.getD (c.topics.headD "events" ++ "_dlq")

/-- The places from which a group without offsets may start. -/
def offsetResets : List String := ["earliest", "latest", "none"]

/-- The first complaint about settings, if there is one. A worker queue must hold all records that
are let in before the gate closes. -/
def complaint? (c : ConsumerConfig) : Option String :=
  if c.groupId.isEmpty then some "Group ID cannot be empty"
  else if c.topics.isEmpty || c.topics.any String.isEmpty then some "Topics cannot be empty"
  else if c.outputTopic.isEmpty || c.alertsTopic.isEmpty then
    some "Output and alerts topics cannot be empty"
  else if c.topics.contains c.deadLetters then
    some ("DLQ topic " ++ c.deadLetters ++ " cannot also be an input topic")
  else if c.pollTimeoutMillis = 0 then some "Poll timeout must be greater than 0"
  else if c.highWatermark ≤ c.lowWatermark then
    some "High watermark must be greater than low watermark"
  else if c.workers = some 0 then some "Number of workers must be greater than 0"
  else if c.queueCapacity ≤ c.highWatermark then
    some "Queue capacity must exceed the high watermark"
  else if !offsetResets.contains c.autoOffsetReset then
    some ("Unknown auto_offset_reset " ++ c.autoOffsetReset)
  else none

/-- Accepts settings or complains. -/
def validate (c : ConsumerConfig) : Except String Unit :=
  match c.complaint? with
  | some complaint => .error complaint
  | none => .ok ()

/-- The document of a number of workers. -/
def workersDocument : Option Nat → Document
  | some n => .integer n
  | none => .text "cpu"

/-- The document of an optional text. -/
def textDocument : Option String → Document
  | some s => .text s
  | none => .null

/-- The document of all settings. -/
def toDocument (c : ConsumerConfig) : Document :=
  .ofFields [("group_id", .text c.groupId), ("topics", .list (c.topics.map .text)),
    ("output_topic", .text c.outputTopic), ("alerts_topic", .text c.alertsTopic),
    ("dlq_topic", textDocument c.deadLetterTopic),
    ("poll_timeout_ms", .integer c.pollTimeoutMillis),
    ("high_watermark", .integer c.highWatermark), ("low_watermark", .integer c.lowWatermark),
    ("num_workers", workersDocument c.workers), ("queue_capacity", .integer c.queueCapacity),
    ("retry_policy", c.retryPolicy.toDocument),
    ("labeler_retry_policy", c.labelerRetryPolicy.toDocument),
    ("max_redeliveries", .integer c.maxRedeliveries),
    ("shutdown_timeout_ms", .integer c.shutdownTimeoutMillis),
    ("session_timeout_ms", .integer c.sessionTimeoutMillis),
    ("auto_offset_reset", .text c.autoOffsetReset)]

/-- The settings that have been read. -/
structure Fields where
  groupId : Option String
  topics : Option (List String)
  outputTopic : Option String
  alertsTopic : Option String
  deadLetterTopic : Option (Option String)
  pollTimeoutMillis : Option Nat
  highWatermark : Option Nat
  lowWatermark : Option Nat
  workers : Option Nat
  queueCapacity : Option Nat
  retryPolicy : Option RetryPolicy
  labelerRetryPolicy : Option RetryPolicy
  maxRedeliveries : Option Nat
  shutdownTimeoutMillis : Option Nat
  sessionTimeoutMillis : Option Nat
  autoOffsetReset : Option String

/-- Nothing read yet. -/
def Fields.blank : Fields :=
  ⟨none, none, none, none, none, none, none, none, none, none, none, none, none, none, none, none⟩

/-- The settings with what was read; what is missing is standard. -/
def Fields.complete (found : Fields) : ConsumerConfig where
  groupId := found.groupId.getD standard.groupId
  topics := found.topics.getD standard.topics
  outputTopic := found.outputTopic.getD standard.outputTopic
  alertsTopic := found.alertsTopic.getD standard.alertsTopic
  deadLetterTopic := found.deadLetterTopic.getD standard.deadLetterTopic
  pollTimeoutMillis := found.pollTimeoutMillis.getD standard.pollTimeoutMillis
  highWatermark := found.highWatermark.getD standard.highWatermark
  lowWatermark := found.lowWatermark.getD standard.lowWatermark
  workers := found.workers
  queueCapacity := found.queueCapacity.getD standard.queueCapacity
  retryPolicy := found.retryPolicy.getD standard.retryPolicy
  labelerRetryPolicy := found.labelerRetryPolicy.getD standard.labelerRetryPolicy
  maxRedeliveries := found.maxRedeliveries.getD standard.maxRedeliveries
  shutdownTimeoutMillis := found.shutdownTimeoutMillis.getD standard.shutdownTimeoutMillis
  sessionTimeoutMillis := found.sessionTimeoutMillis.getD standard.sessionTimeoutMillis
  autoOffsetReset := found.autoOffsetReset.getD standard.autoOffsetReset

/-- Reads a number of 64 bits. -/
def word : Decoder Nat := Decoder.natural maxWord

/-- Reads a number of 32 bits. -/
def word32 : Decoder Nat := Decoder.natural maxWord32

/-- Reads settings. -/
def decoder : Decoder ConsumerConfig :=
  Decoder.record
    [.named "group_id" Decoder.text Fields.groupId
        fun v found => { found with groupId := some v },
      .named "topics" (Decoder.list Decoder.text) Fields.topics
        fun v found => { found with topics := some v },
      .named "output_topic" Decoder.text Fields.outputTopic
        fun v found => { found with outputTopic := some v },
      .named "alerts_topic" Decoder.text Fields.alertsTopic
        fun v found => { found with alertsTopic := some v },
      .named "dlq_topic" (Decoder.optional Decoder.text) Fields.deadLetterTopic
        fun v found => { found with deadLetterTopic := some v },
      .named "poll_timeout_ms" word Fields.pollTimeoutMillis
        fun v found => { found with pollTimeoutMillis := some v },
      .named "high_watermark" word Fields.highWatermark
        fun v found => { found with highWatermark := some v },
      .named "low_watermark" word Fields.lowWatermark
        fun v found => { found with lowWatermark := some v },
      .named "num_workers" word Fields.workers
        fun v found => { found with workers := some v },
      .named "queue_capacity" word Fields.queueCapacity
        fun v found => { found with queueCapacity := some v },
      .named "retry_policy" RetryPolicy.decoder Fields.retryPolicy
        fun v found => { found with retryPolicy := some v },
      .named "labeler_retry_policy" RetryPolicy.decoder Fields.labelerRetryPolicy
        fun v found => { found with labelerRetryPolicy := some v },
      .named "max_redeliveries" word32 Fields.maxRedeliveries
        fun v found => { found with maxRedeliveries := some v },
      .named "shutdown_timeout_ms" word Fields.shutdownTimeoutMillis
        fun v found => { found with shutdownTimeoutMillis := some v },
      .named "session_timeout_ms" word32 Fields.sessionTimeoutMillis
        fun v found => { found with sessionTimeoutMillis := some v },
      .named "auto_offset_reset" Decoder.text Fields.autoOffsetReset
        fun v found => { found with autoOffsetReset := some v }]
    Fields.blank fun found => some found.complete

end ConsumerConfig

end AlertRelay
