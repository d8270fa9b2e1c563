import AlertRelay.Error
import AlertRelay.Record
import AlertRelay.Table

/-!
# The offset ledger

The ledger remembers the last offset that was committed for each group and partition, and refuses a
commit that would not move its partition forward.
-/

namespace AlertRelay

/-- The last committed offsets. -/
structure Ledger where
  committed : Table (String × TopicPartition) Int
  deriving DecidableEq, Inhabited

namespace Ledger

/-- A ledger without commits. -/
def empty : Ledger := ⟨Table.empty⟩

/-- The last offset committed for a group and partition. -/
def last? (l : Ledger) (group : String) (tp : TopicPartition) : Option Int :=
  l.committed.get? (group, tp)

/-- Why a commit is refused. -/
def regression (c : OffsetCommit) (last : Int) : RelayError :=
  .offset ("commit of " ++ toString c.offset ++ " for " ++ c.topicPartition.render ++
    " would not advance past " ++ toString last)

/-- Refuses a commit at or below the last one. -/
def check (l : Ledger) (c : OffsetCommit) : Except RelayError Unit :=
  match l.last? c.consumerGroup c.topicPartition with
  | some last => if c.offset ≤ last then .error (regression c last) else .ok ()
  | none => .ok ()

/-- Remembers a commit. An earlier offset does not replace a later one. -/
def record (l : Ledger) (c : OffsetCommit) : Ledger :=
  let key := (c.consumerGroup, c.topicPartition)
  match l.committed.get? key with
  | some last => if last < c.offset then ⟨l.committed.put key c.offset⟩ else l
  | none => ⟨l.committed.put key c.offset⟩

end Ledger

end AlertRelay
