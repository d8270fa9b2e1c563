import AlertRelay.Delivery.Worker

/-!
# The consumer loop

The loop turns the gate, polls a record, and hands it to the worker of its partition. When the loop
is over it waits for the workers to empty their queues; when that takes too long, what is still
queued is dropped. Each step reads or changes what the loop shares with the workers at most once.
-/

namespace AlertRelay

/-- What the loop is about to do. -/
inductive LoopStage where
  /-- To see whether the shutdown has begun. -/
  | checking
  /-- To evaluate the gate. -/
  | evaluating
  /-- To ask for the partitions that are to be paused or resumed. -/
  | assigning (transition : GateTransition)
  /-- To pause or resume partitions. -/
  | turning (transition : GateTransition) (partitions : List TopicPartition)
  /-- To show whether the gate is paused. -/
  | showingPause
  /-- To begin a poll. -/
  | polling
  /-- To ask again, once those who wait have been called more often than this. -/
  | waiting (rings : Nat)
  /-- To ask which assignment a record belongs to. -/
  | tagging (record : Record)
  /-- To ask how far the partition of a delivery reaches. -/
  | measuring (d : Delivery)
  /-- To count a delivery in. -/
  | enqueuing (d : Delivery)
  /-- To show a number of records in flight. -/
  | showing (d : Delivery) (inFlight : Nat)
  /-- To put a delivery into the queue of its worker. -/
  | sending (d : Delivery)
  /-- To store a fatal error. -/
  | blaming (cause : RelayError)
  /-- To close the queues and begin the shutdown. -/
  | leaving
  /-- To wait for the workers for a limited time. -/
  | draining
  /-- To have queued deliveries dropped. -/
  | abandoning
  /-- To wait until no unit is running. -/
  | idling (wait : IdleWait)
  /-- To wait for the workers however long it takes. -/
  | joining
  /-- To close the source. -/
  | closing
  /-- To show what is left and take the fatal error. -/
  | settling
  | returned (result : Except RelayError Unit)

namespace LoopStage

/-- Whether the queues are closed: nothing is put into them any more. -/
def queuesClosed : LoopStage → Bool
  | draining | abandoning | idling _ | joining | closing | settling | returned _ => true
  | _ => false

/-- Whether the loop is inside a poll, where a shutdown that begins ends it. -/
def isPolling : LoopStage → Bool
  | polling | waiting _ => true
  | _ => false

/-- Goes on with what a poll has brought. -/
def ofFetched (rings : Nat) : Fetched → LoopStage
  | .record r => tagging r
  | .failed .closed => leaving
  | .failed cause => if cause.isTransient then checking else blaming (.broker cause)
  | .nothing => checking
  | .notYet => waiting rings

/-- Goes on with the transition of the gate. -/
def ofTransition : GateTransition → LoopStage
  | .hold => polling
  | transition => assigning transition

end LoopStage

/-- A run of a consumer. -/
structure ConsumerRun (I : Interface) (ω : Type) where
  loop : LoopStage
  workers : List (Worker I)
  shared : Shared ω

namespace ConsumerRun

variable {I : Interface} {ω : Type}

/-- The loop goes on to another stage. -/
def goTo (r : ConsumerRun I ω) (stage : LoopStage) : ConsumerRun I ω := { r with loop := stage }

/-- The loop goes on to another stage and changes what is shared. -/
def goWith (r : ConsumerRun I ω) (stage : LoopStage) (shared : Shared ω) : ConsumerRun I ω :=
  { r with loop := stage, shared := shared }

/-- The state outside, changed. -/
def withOutside (r : ConsumerRun I ω) (outside : ω) : Shared ω :=
  { r.shared with outside := outside }

/-- Whether every worker has exited or crashed. -/
def workersEnded (r : ConsumerRun I ω) : Bool := r.workers.all Worker.hasEnded

/-- Asks the source for a record. The bell is noted first, so that a call after that is not missed.
-/
def fetch (c : Consumer I ω) (r : ConsumerRun I ω) : ConsumerRun I ω :=
  let rings := c.source.rings r.shared.outside
  let (fetched, outside) := c.source.fetch r.shared.outside
  r.goWith (.ofFetched rings fetched) (r.withOutside outside)

/-- Pauses or resumes partitions. -/
def turn (c : Consumer I ω) (transition : GateTransition) (partitions : List TopicPartition)
    (outside : ω) : ω :=
  match transition with
  | .pause => (c.source.pause partitions outside).2
  | .resume => (c.source.resume partitions outside).2
  | .hold => outside

/-- Takes in how far a partition reaches, if that is known. -/
def measure (c : Consumer I ω) (r : ConsumerRun I ω) (d : Delivery) : Shared ω :=
  let tp := d.record.topicPartition
  match c.source.highWatermark tp r.shared.outside with
  | .ok (some high) =>
    { r.shared with traffic := r.shared.traffic.setLag tp high d.record.offset }
  | _ => r.shared

/-- The worker of a delivery. -/
def workerOf (r : ConsumerRun I ω) (d : Delivery) : Nat :=
  d.record.topicPartition.worker r.workers.length

/-- Puts a delivery into the queue of its worker, unless the queue is full. A worker that has ended
has no queue, and the loop stops. -/
def send? (c : Consumer I ω) (r : ConsumerRun I ω) (d : Delivery) : Option (ConsumerRun I ω) :=
  let refused := r.goWith .leaving { r.shared with gate := r.shared.gate.completed }
  match r.workers[r.workerOf d]? with
  | none => some refused
  | some k =>
    if k.hasEnded then some refused
    else if k.queue.length < c.config.queueCapacity then
      some { r with
        loop := .checking
        workers := r.workers.set (r.workerOf d) { k with queue := k.queue ++ [d] } }
    else none

/-- The result of a run: its first fatal error, if there is one. -/
def result (r : ConsumerRun I ω) : Except RelayError Unit :=
  match r.shared.fatal with
  | some cause => .error cause
  | none => .ok ()

/-- One step of the loop, unless it has to wait. -/
def loopStep? (c : Consumer I ω) (r : ConsumerRun I ω) : Option (ConsumerRun I ω) :=
  let s := r.shared
  match r.loop with
  | .checking => some (r.goTo (if s.shutdown.begun then .leaving else .evaluating))
  | .evaluating =>
    let (transition, gate) := s.gate.evaluate
    some (r.goWith (.ofTransition transition) { s with gate := gate })
  | .assigning transition =>
    match c.source.assignment s.outside with
    | .ok partitions => some (r.goTo (.turning transition partitions))
    | .error _ => some (r.goTo .showingPause)
  | .turning transition partitions =>
    some (r.goWith .showingPause (r.withOutside (turn c transition partitions s.outside)))
  | .showingPause =>
    some (r.goWith .polling { s with traffic := s.traffic.setPaused s.gate.paused })
  | .polling => some (r.fetch c)
  | .waiting rings => if rings = c.source.rings s.outside then none else some (r.fetch c)
  | .tagging record =>
    some (r.goWith (.measuring ⟨record, c.source.generation s.outside⟩)
      { s with traffic := s.traffic.countPulled })
  | .measuring d => some (r.goWith (.enqueuing d) (r.measure c d))
  | .enqueuing d =>
    let gate := s.gate.enqueued
    some (r.goWith (.showing d gate.inFlight) { s with gate := gate })
  | .showing d count => some (r.goWith (.sending d) (s.showInFlight count))
  | .sending d => r.send? c d
  | .blaming cause => some (r.goWith .leaving (s.blame cause))
  | .leaving => some (r.goWith .draining s.beginShutdown)
  | .draining => if r.workersEnded then some (r.goTo .closing) else none
  | .abandoning => some (r.goWith (.idling .fresh) { s with shutdown := s.shutdown.abandon })
  | .idling .finished => some (r.goTo .joining)
  | .idling wait =>
    if wait.step s.shutdown = wait then none else some (r.goTo (.idling (wait.step s.shutdown)))
  | .joining => if r.workersEnded then some (r.goTo .closing) else none
  | .closing => some (r.goWith .settling (r.withOutside (c.source.close s.outside).2))
  | .settling => some (r.goWith (.returned r.result) (s.showInFlight s.gate.inFlight))
  | .returned _ => none

/-- The loop notices inside a poll that the shutdown has begun. -/
def cancel? (r : ConsumerRun I ω) : Option (ConsumerRun I ω) :=
  if r.loop.isPolling && r.shared.shutdown.begun then some (r.goTo .leaving) else none

/-- A wait of the loop has lasted as long as it may: a poll ends without a record, and the workers
are no longer waited for. -/
def timeout? (r : ConsumerRun I ω) : Option (ConsumerRun I ω) :=
  match r.loop with
  | .waiting _ => some (r.goTo .checking)
  | .draining => some (r.goTo .abandoning)
  | _ => none

end ConsumerRun

end AlertRelay
