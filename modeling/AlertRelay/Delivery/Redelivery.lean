import AlertRelay.Delivery.Source
import AlertRelay.Table

/-!
# Redelivery

What a worker remembers of records that are to be delivered again. After a partition was rewound,
the records behind the offset that are still in the queue are stale: they are dropped until the
offset shows up again, or until the partitions are assigned anew.
-/

namespace AlertRelay

/-- An offset that a partition was rewound to, and the assignment under which this was done. -/
structure Rewind where
  offset : Int
  generation : Nat
  deriving DecidableEq, Inhabited

/-- The rewinds that a worker waits for, and its failed attempts at records. -/
structure Redeliveries where
  awaiting : Table TopicPartition Rewind
  /-- How often each record has failed, a 32-bit word. -/
  failures : Table (TopicPartition × Int) Nat
  deriving Inhabited

/-- Whether a record was fetched before its partition was rewound. -/
def Rewind.makesStale (w : Rewind) (d : Delivery) : Bool :=
  d.generation == w.generation && decide (w.offset < d.record.offset)

namespace Redeliveries

/-- Nothing is awaited and nothing has failed. -/
def none : Redeliveries := ⟨.empty, .empty⟩

/-- Whether a delivery is to be worked on. One that is not stale ends the wait of its partition. -/
def accept (r : Redeliveries) (d : Delivery) : Bool × Redeliveries :=
  match r.awaiting.get? d.record.topicPartition with
  | some w =>
    if w.makesStale d then (false, r)
    else (true, { r with awaiting := r.awaiting.erase d.record.topicPartition })
  | .none => (true, r)

/-- How often a record has failed. -/
def failuresOf (r : Redeliveries) (record : Record) : Nat :=
  (r.failures.get? (record.topicPartition, record.offset)).getD 0

/-- Counts a failed attempt at a record. Gives the new count. -/
def countFailure (r : Redeliveries) (record : Record) : Nat × Redeliveries :=
  let count := (r.failuresOf record + 1) % 0x100000000
  (count, { r with failures := r.failures.put (record.topicPartition, record.offset) count })

/-- Forgets the failed attempts at a record that is dealt with. -/
def settle (r : Redeliveries) (record : Record) : Redeliveries :=
  { r with failures := r.failures.erase (record.topicPartition, record.offset) }

/-- Waits for a record after its partition was rewound to it. -/
def await (r : Redeliveries) (d : Delivery) : Redeliveries :=
  { r with awaiting := r.awaiting.put d.record.topicPartition ⟨d.record.offset, d.generation⟩ }

end Redeliveries

end AlertRelay
