import AlertRelay.Record
import AlertRelay.Table

/-!
# The log

Topics are lists of partitions, partitions are lists of records, and the offset of a record is its
place in its partition. Beside the records the log keeps the offsets that consumer groups committed,
the history of those commits, and counts of transactions. Whoever waits for records is called by a
bell; only how often it rang is kept.
-/

namespace AlertRelay

/-- How many transactions were begun, committed and aborted. -/
structure TransactionStats where
  begun : Nat
  committed : Nat
  aborted : Nat
  deriving DecidableEq, Inhabited

/-- A partitioned, append-only log with committed offsets. -/
structure Log where
  topics : Table String (List (List Record))
  committed : Table (String × TopicPartition) Int
  commitLog : List OffsetCommit
  stats : TransactionStats
  rings : Nat
  deriving Inhabited

namespace Log

/-- The log without topics. -/
def empty : Log := ⟨Table.empty, Table.empty, [], ⟨0, 0, 0⟩, 0⟩

/-- Calls whoever waits for records. -/
def ring (l : Log) : Log := { l with rings := l.rings + 1 }

/-- The partitions of a topic; a topic that is not there yet has one, empty. -/
def partitions (l : Log) (topic : String) : List (List Record) :=
  (l.topics.get? topic).getD [[]]

/-- Creates a topic unless it is there. It has at least one partition. -/
def createTopic (l : Log) (topic : String) (count : Nat) : Log :=
  if l.topics.contains topic then l
  else { l with topics := l.topics.put topic (List.replicate (max count 1) []) }

/-- The record that a message becomes at a place in the log. -/
def place (m : Message) (partition offset : Nat) : Record :=
  ⟨m.topic, partition, offset, m.key, m.value, m.headers⟩

/-- Appends a message to a partition; a partition that is not there is replaced by the nearest one.
Gives the offset of the new record. -/
def appendTo (l : Log) (m : Message) (partition : Int) : Int × Log :=
  let logs := l.partitions m.topic
  let index := min partition.toNat (logs.length - 1)
  let offset := (logs.getD index []).length
  (offset, { l with
    topics := l.topics.put m.topic (logs.modify index fun log => log ++ [place m index offset]) })

/-- Appends a message to the partition of its key. -/
def append (l : Log) (m : Message) : Log :=
  (l.appendTo m (m.partition (l.partitions m.topic).length)).2

/-- Appends a record directly, and calls whoever waits. -/
def publish (l : Log) (m : Message) (partition : Int) : Int × Log :=
  let (offset, l) := l.appendTo m partition
  (offset, l.ring)

/-- Takes down an offset commit. -/
def commitOffset (l : Log) (c : OffsetCommit) : Log :=
  { l with
    committed := l.committed.put (c.consumerGroup, c.topicPartition) c.offset
    commitLog := l.commitLog ++ [c] }

/-- Takes in the messages and then the offsets of a transaction, in one step. -/
def applyTransaction (l : Log) (messages : List Message) (offsets : List OffsetCommit) : Log :=
  offsets.foldl commitOffset (messages.foldl append l)

/-- The records of a topic, partition by partition. -/
def records (l : Log) (topic : String) : List Record :=
  ((l.topics.get? topic).getD []).flatten

/-- The offset a group has committed in a partition. -/
def committed? (l : Log) (group : String) (tp : TopicPartition) : Option Int :=
  l.committed.get? (group, tp)

/-- The records of a partition, if it is there. -/
def partition? (l : Log) (tp : TopicPartition) : Option (List Record) :=
  match l.topics.get? tp.topic with
  | some logs => if tp.partition < 0 then none else logs[tp.partition.toNat]?
  | none => none

/-- The record at an offset of a partition. There is none at the last of the offsets: no partition
grows so long. -/
def record? (l : Log) (tp : TopicPartition) (offset : Int) : Option Record :=
  match l.partition? tp with
  | some log => if 0 ≤ offset ∧ offset < Record.lastOffset then log[offset.toNat]? else none
  | none => none

/-- The offset that the next record of a partition will have. -/
def highWatermark? (l : Log) (tp : TopicPartition) : Option Int :=
  (l.partition? tp).map fun log => (log.length : Int)

end Log

end AlertRelay
