import AlertRelay.Record

/-!
# Dead letters

A payload that cannot be processed is forwarded byte for byte to the dead-letter topic. Its headers
say why, when, and, if it was read from a log, from where.
-/

namespace AlertRelay

/-- Why a payload was set aside. -/
inductive DeadLetterReason where
  /-- The payload is not a JSON object. -/
  | undecodable
  /-- The alert could not be stored. -/
  | databaseFailure
  /-- The alert was stored and could not be published. -/
  | brokerFailure
  /-- The record kept failing until its redeliveries were spent. -/
  | processingFailure
  deriving DecidableEq, Inhabited

/-- A payload on its way to the dead-letter topic. -/
structure DeadLetter where
  key : Option Bytes
  value : Bytes
  reason : DeadLetterReason
  /-- Where the payload was read from, with its offset. -/
  origin : Option (TopicPartition × Int)
  deriving DecidableEq, Inhabited

namespace DeadLetterReason

/-- The text of a reason. -/
def text : DeadLetterReason → String
  | undecodable => "deserialization_error"
  | databaseFailure => "db_failure"
  | brokerFailure => "kafka_failure"
  | processingFailure => "processing_failure"

/-- The reason of a text. -/
def ofText? (s : String) : Option DeadLetterReason :=
  if s = "deserialization_error" then some undecodable
  else if s = "db_failure" then some databaseFailure
  else if s = "kafka_failure" then some brokerFailure
  else if s = "processing_failure" then some processingFailure
  else none

end DeadLetterReason

namespace DeadLetter

/-- The header that holds the reason. -/
def reasonHeader : String := "reason"

/-- The header that holds the time, in milliseconds since 1970. -/
def timeHeader : String := "dlq.timestamp"

/-- The header that holds the topic a payload was read from. -/
def topicHeader : String := "dlq.original.topic"

/-- The header that holds the partition a payload was read from. -/
def partitionHeader : String := "dlq.original.partition"

/-- The header that holds the offset a payload was read from. -/
def offsetHeader : String := "dlq.original.offset"

/-- The dead letter of a record. -/
def ofRecord (r : Record) (reason : DeadLetterReason) : DeadLetter :=
  ⟨r.key, r.value, reason, some (r.topicPartition, r.offset)⟩

/-- The dead letter of a payload that was not read from a log. -/
def ofPayload (key : Option Bytes) (value : Bytes) (reason : DeadLetterReason) : DeadLetter :=
  ⟨key, value, reason, none⟩

/-- The message of a dead letter at a time. -/
def message (topic : String) (millis : Int) (d : DeadLetter) : Message :=
  let plain := Message.plain topic d.key d.value
  let m := (plain.withHeader reasonHeader (utf8 d.reason.text)).withHeader timeHeader
    (utf8 (toString millis))
  match d.origin with
  | none => m
  | some (tp, offset) =>
    ((m.withHeader topicHeader (utf8 tp.topic)).withHeader partitionHeader
      (utf8 (toString tp.partition))).withHeader offsetHeader (utf8 (toString offset))

end DeadLetter

end AlertRelay
