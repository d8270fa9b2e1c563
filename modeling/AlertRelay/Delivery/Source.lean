import AlertRelay.DeadLetter
import AlertRelay.Error
import AlertRelay.Outcome
import AlertRelay.Program
import AlertRelay.Record

/-!
# Sources and handlers

What the consumer loop takes records from, and what its workers hand them to. Both act on a state
that they share with everything else outside the loop.
-/

namespace AlertRelay

/-- What a source has for a poll at the moment it is asked. -/
inductive Fetched where
  | record (record : Record)
  | failed (cause : BrokerError)
  /-- The poll is over and has brought nothing. -/
  | nothing
  /-- Nothing is there yet; the poll asks again whenever those who wait are called. -/
  | notYet
  deriving Inhabited

/-- A source of records within a state. -/
structure RecordSource (ω : Type) where
  fetch : ω → Fetched × ω
  /-- How often those who wait for records have been called. -/
  rings : ω → Nat
  /-- How often the partitions were assigned anew. -/
  generation : ω → Nat
  assignment : ω → Except BrokerError (List TopicPartition)
  pause : List TopicPartition → ω → Except BrokerError Unit × ω
  resume : List TopicPartition → ω → Except BrokerError Unit × ω
  seek : TopicPartition → Int → ω → Except BrokerError Unit × ω
  /-- The offset that the next record of a partition will have, if it is known. -/
  highWatermark : TopicPartition → ω → Except BrokerError (Option Int)
  close : ω → Except BrokerError Unit × ω

/-- The work that is done on records. -/
structure RecordHandler (I : Interface) where
  handle : Record → Program I (Except RelayError Outcome)
  deadLetter : Record → DeadLetterReason → Program I (Except RelayError Unit)

/-- A record that the loop hands to a worker, with the assignment it belongs to. -/
structure Delivery where
  record : Record
  generation : Nat
  deriving Inhabited

end AlertRelay
