import AlertRelay.Hash.Sip
import AlertRelay.Json
import AlertRelay.Text.Utf8

/-!
# Records and messages

What is read from a partitioned log and what is written to it: records with their place, messages
without one, and the offsets from which a consumer group goes on.
-/

namespace AlertRelay

/-- The headers of a record, sorted by name, each name once. -/
abbrev Headers := List (String × Bytes)

/-- One partition of a topic. -/
structure TopicPartition where
  topic : String
  partition : Int
  deriving DecidableEq, Inhabited

/-- A record of a log. -/
structure Record where
  topic : String
  partition : Int
  offset : Int
  key : Option Bytes
  value : Bytes
  headers : Headers
  deriving DecidableEq, Inhabited

/-- A message on its way to a topic. -/
structure Message where
  topic : String
  key : Option Bytes
  value : Bytes
  headers : Headers
  deriving DecidableEq, Inhabited

/-- The offset from which a consumer group goes on in a partition. -/
structure OffsetCommit where
  topic : String
  partition : Int
  offset : Int
  consumerGroup : String
  deriving DecidableEq, Inhabited

namespace TopicPartition

/-- The text of a partition. -/
def render (tp : TopicPartition) : String :=
  tp.topic ++ "[" ++ toString tp.partition ++ "]"

/-- The order of partitions: by topic, then by number. -/
def precedes (a b : TopicPartition) : Bool :=
  decide (a.topic < b.topic) || (a.topic == b.topic && decide (a.partition < b.partition))

/-- The bytes that a partition is hashed by: its topic, a byte that no text contains, and its number
in four bytes. -/
def hashBytes (tp : TopicPartition) : Bytes :=
  utf8 tp.topic ++ 0xff :: littleEndianBytes 4 (tp.partition % 0x100000000).toNat

/-- The worker, of so many, that serves a partition. -/
def worker (tp : TopicPartition) (workers : Nat) : Nat :=
  (sipHash tp.hashBytes).toNat % max workers 1

end TopicPartition

namespace Record

/-- A record's partition. -/
def topicPartition (r : Record) : TopicPartition := ⟨r.topic, r.partition⟩

/-- The last of the offsets, which have 64 bits. -/
def lastOffset : Int := 0x7fffffffffffffff

/-- The offset from which a consumer goes on once the record is done. Behind the last offset comes
the first. -/
def nextOffset (r : Record) : Int :=
  if r.offset = lastOffset then -0x8000000000000000 else r.offset + 1

/-- Below the last offset there is, the next one is one more. -/
theorem nextOffset_of_lt {r : Record} (inside : r.offset < lastOffset) :
    r.nextOffset = r.offset + 1 :=
  if_neg (Int.ne_of_lt inside)

/-- The next offset is never more than one more. -/
theorem nextOffset_le (r : Record) : r.nextOffset ≤ r.offset + 1 := by
  unfold Record.nextOffset Record.lastOffset
  split <;> omega

/-- The value of a header. -/
def header? (r : Record) (name : String) : Option Bytes := Json.member? name r.headers

/-- Adds a header; one of the same name is replaced. -/
def withHeader (r : Record) (name : String) (value : Bytes) : Record :=
  { r with headers := Json.insertMember name value r.headers }

end Record

namespace Message

/-- A message without headers. -/
def plain (topic : String) (key : Option Bytes) (value : Bytes) : Message :=
  ⟨topic, key, value, []⟩

/-- Adds a header; one of the same name is replaced. -/
def withHeader (m : Message) (name : String) (value : Bytes) : Message :=
  { m with headers := Json.insertMember name value m.headers }

/-- The bytes that a key is hashed by: its length in eight bytes, then the key. -/
def keyHashBytes (key : Bytes) : Bytes :=
  littleEndianBytes 8 key.length ++ key

/-- The partition, of so many, that a message is put into: that of its key, or the first. -/
def partition (m : Message) (partitions : Nat) : Nat :=
  match m.key with
  | some key => (sipHash (keyHashBytes key)).toNat % partitions
  | none => 0

end Message

namespace OffsetCommit

/-- The commit that marks a record as done for a group. -/
def forRecord (r : Record) (group : String) : OffsetCommit :=
  ⟨r.topic, r.partition, r.nextOffset, group⟩

/-- The partition of a commit. -/
def topicPartition (c : OffsetCommit) : TopicPartition := ⟨c.topic, c.partition⟩

end OffsetCommit

end AlertRelay
