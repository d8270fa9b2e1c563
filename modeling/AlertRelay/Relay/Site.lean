import AlertRelay.Broker.Subscription
import AlertRelay.Delivery.Schedule
import AlertRelay.Relay.Handle
import AlertRelay.Relay.World

/-!
# The site of a relay

A relay at work: a member of the consumer group reads the input topics of the same log to which the
workers write, and the workers do relay work on what it reads.
-/

namespace AlertRelay

/-- The world of relay work, and the member of the group that reads for it. -/
structure Site where
  world : World
  subscription : Subscription

namespace Site

/-- What a poll of a subscription amounts to: it waits if it finds nothing. -/
def fetched : Except BrokerError (Option Record) → Fetched
  | .ok (some r) => .record r
  | .ok none => .notYet
  | .error cause => .failed cause

/-- Puts the subscription and the log after one of its steps. -/
def put (s : Site) (subscription : Subscription) (log : Log) : Site :=
  ⟨{ s.world with log := log }, subscription⟩

/-- The subscription as a source of records. -/
def source : RecordSource Site where
  fetch s :=
    let (answer, subscription) := s.subscription.poll s.world.log
    (fetched answer, { s with subscription := subscription })
  rings s := s.world.log.rings
  generation s := s.subscription.generation
  assignment s := .ok s.subscription.assignment
  pause tps s := (.ok (), { s with subscription := s.subscription.pause tps })
  resume tps s :=
    let (subscription, log) := s.subscription.resume s.world.log tps
    (.ok (), s.put subscription log)
  seek tp offset s :=
    let (sought, subscription, log) := s.subscription.seek s.world.log tp offset
    (sought, s.put subscription log)
  highWatermark tp s := .ok (s.world.log.highWatermark? tp)
  close s :=
    let (subscription, log) := s.subscription.close s.world.log
    (.ok (), s.put subscription log)

/-- One call of a worker. -/
def reply (worker : Nat) (request : RelayCall) (s : Site) : request.Reply × Site :=
  let (answer, world) := World.reply worker request s.world
  (answer, { s with world := world })

/-- The work that a relay does on records. -/
def handler (settings : RelaySettings) : RecordHandler Interface.relay :=
  ⟨Record.handle settings, Record.deadLetter settings⟩

/-- The consumer of a relay, with a number of workers. -/
def consumer (c : ConsumerConfig) (workers : Nat) : Consumer Interface.relay Site :=
  ⟨c, source, List.replicate workers (handler (.ofConsumer c)), reply⟩

/-- A relay in a world, where its group is joined by one member. -/
def start (c : ConsumerConfig) (w : World) : Site :=
  let (subscription, log) := Subscription.join w.log c.groupId c.topics
  ⟨{ w with log := log }, subscription⟩

/-- How many records are dealt with. -/
def settled (s : Site) : Nat := s.world.counters.processed + s.world.counters.deadLettered

/-- The shutdown begins when nobody can go on and so many records are dealt with. -/
def stopAfter (target : Nat) : Timing Site where
  stopsAtOnce _ := false
  stopsAtRest s := decide (target ≤ s.settled)
  later millis s := { s with world := { s.world with clock := s.world.clock + millis } }

end Site

end AlertRelay
