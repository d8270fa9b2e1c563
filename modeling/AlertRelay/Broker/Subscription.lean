import AlertRelay.Broker.Transaction

/-!
# Subscriptions

A member of a consumer group reads every partition of its topics, each from a position of its own.
One scan serves one record; each scan starts one partition further on, so that a busy partition does
not starve the others.
-/

namespace AlertRelay

/-- A consumer-group member. -/
structure Subscription where
  group : String
  /-- The next offset of each assigned partition, in the order of partitions. -/
  positions : List (TopicPartition × Int)
  paused : List TopicPartition
  /-- How many scans were made; it wraps at 64 bits. -/
  cursor : Nat
  /-- How often the partitions were assigned anew. -/
  generation : Nat
  closed : Bool
  deriving Inhabited

namespace Subscription

/-- The offset a group starts a partition from: the one it committed, or the first. -/
def startOffset (l : Log) (group : String) (tp : TopicPartition) : Int :=
  (l.committed? group tp).getD 0

/-- Puts a partition in its place among sorted ones. -/
def insertPosition (tp : TopicPartition) (offset : Int) :
    List (TopicPartition × Int) → List (TopicPartition × Int)
  | [] => [(tp, offset)]
  | (other, position) :: rest =>
    if tp = other then (tp, offset) :: rest
    else if tp.precedes other then (tp, offset) :: (other, position) :: rest
    else (other, position) :: insertPosition tp offset rest

/-- The positions of all partitions of a topic, added to those of other topics. -/
def assignTopic (l : Log) (group topic : String) (positions : List (TopicPartition × Int)) :
    List (TopicPartition × Int) :=
  (List.range (l.partitions topic).length).foldl (fun (positions : List _) (index : Nat) =>
    insertPosition ⟨topic, index⟩ (startOffset l group ⟨topic, index⟩) positions) positions

/-- Joins a group on topics; a topic that is not there is created. -/
def join (l : Log) (group : String) (topics : List String) : Subscription × Log :=
  let l := topics.foldl (fun l topic => l.createTopic topic 1) l
  (⟨group, topics.foldl (fun positions topic => assignTopic l group topic positions) [], [], 0, 0,
    false⟩, l)

/-- The assigned partitions. -/
def assignment (s : Subscription) : List TopicPartition := s.positions.map Prod.fst

/-- The next offset of a partition, if it is assigned. -/
def position? (s : Subscription) (tp : TopicPartition) : Option Int :=
  (s.positions.find? fun entry => entry.1 = tp).map Prod.snd

/-- Whether a partition is paused. -/
def isPaused (s : Subscription) (tp : TopicPartition) : Bool := s.paused.contains tp

/-- Sets the next offset of a partition. -/
def setPosition (s : Subscription) (tp : TopicPartition) (offset : Int) : Subscription :=
  { s with positions := s.positions.map fun entry =>
      if entry.1 = tp then (entry.1, offset) else entry }

/-- The record at the position of a partition, unless the partition is paused. -/
def available? (s : Subscription) (l : Log) (entry : TopicPartition × Int) : Option Record :=
  if s.isPaused entry.1 then none else l.record? entry.1 entry.2

/-- Serves the first record that one of the given partitions has to offer. -/
def serve (s : Subscription) (l : Log) :
    List (TopicPartition × Int) → Option Record × Subscription
  | [] => (none, s)
  | entry :: rest =>
    match s.available? l entry with
    | some r => (some r, s.setPosition entry.1 (entry.2 + 1))
    | none => serve s l rest

/-- The assigned partitions, beginning with the one whose turn it is. -/
def turnOrder (s : Subscription) : List (TopicPartition × Int) :=
  let start := s.cursor % s.positions.length
  s.positions.drop start ++ s.positions.take start

/-- One scan over the partitions. -/
def scan (s : Subscription) (l : Log) : Option Record × Subscription :=
  if s.positions.isEmpty then (none, s)
  else { s with cursor := (s.cursor + 1) % 0x10000000000000000 }.serve l s.turnOrder

/-- One attempt to fetch a record. -/
def poll (s : Subscription) (l : Log) : Except BrokerError (Option Record) × Subscription :=
  if s.closed then (.error .closed, s)
  else
    let (found, s) := s.scan l
    (.ok found, s)

/-- Pauses partitions. -/
def pause (s : Subscription) (tps : List TopicPartition) : Subscription :=
  { s with paused := s.paused ++ tps }

/-- Resumes partitions and calls whoever waits. -/
def resume (s : Subscription) (l : Log) (tps : List TopicPartition) : Subscription × Log :=
  ({ s with paused := s.paused.filter fun tp => !tps.contains tp }, l.ring)

/-- Goes on from an offset of a partition, and calls whoever waits. -/
def seek (s : Subscription) (l : Log) (tp : TopicPartition) (offset : Int) :
    Except BrokerError Unit × Subscription × Log :=
  if s.assignment.contains tp then (.ok (), s.setPosition tp offset, l.ring)
  else (.error (.state ("partition " ++ tp.render ++ " is not assigned")), s, l)

/-- The first half of a new assignment: every position goes back to the committed offset, and
nothing is paused. -/
def resetPositions (s : Subscription) (l : Log) : Subscription :=
  { s with
    positions := s.positions.map fun entry => (entry.1, startOffset l s.group entry.1)
    paused := [] }

/-- The second half of a new assignment: it is counted, and whoever waits is called. -/
def bumpGeneration (s : Subscription) (l : Log) : Subscription × Log :=
  ({ s with generation := s.generation + 1 }, l.ring)

/-- Takes all partitions away and assigns them anew. -/
def rebalance (s : Subscription) (l : Log) : Subscription × Log :=
  (s.resetPositions l).bumpGeneration l

/-- Leaves the group and calls whoever waits. -/
def close (s : Subscription) (l : Log) : Subscription × Log :=
  ({ s with closed := true }, l.ring)

end Subscription

end AlertRelay
