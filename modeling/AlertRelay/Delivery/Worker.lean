import AlertRelay.Config.Consumer
import AlertRelay.Delivery.Redelivery
import AlertRelay.Gate
import AlertRelay.Metrics.Traffic
import AlertRelay.Shutdown

/-!
# Workers

A worker takes the deliveries of its queue one after the other. Each of its steps reads or changes
what it shares with the loop and with other workers at most once. A record that fails is fetched
again until its redeliveries are used up, and is set aside then; any other error ends the work of
the worker, which still empties its queue.
-/

namespace AlertRelay

/-- A consumer: its settings, where it takes records from and who works on them. The workers are
numbered as their handlers are, and each has its own view of the state outside. -/
structure Consumer (I : Interface) (ω : Type) where
  config : ConsumerConfig
  source : RecordSource ω
  handlers : List (RecordHandler I)
  reply : Nat → (request : I.Call) → ω → I.Reply request × ω

/-- What the loop and the workers of a run share. -/
structure Shared (ω : Type) where
  gate : Gate
  traffic : Traffic
  shutdown : Shutdown
  /-- The first fatal error. -/
  fatal : Option RelayError
  /-- The state of everything else. -/
  outside : ω

/-- What a worker is about to do. -/
inductive WorkerStage (I : Interface) where
  /-- To take the next delivery. -/
  | idle
  /-- To see whether a delivery is still to be worked on. -/
  | taken (d : Delivery)
  /-- To enter a unit of work. -/
  | admitted (d : Delivery)
  | handling (d : Delivery) (work : Program I (Except RelayError Outcome))
  /-- To have a record that failed delivered again. -/
  | rewinding (d : Delivery)
  /-- To set a record aside for a reason. -/
  | settingAside (d : Delivery) (reason : DeadLetterReason)
    (work : Program I (Except RelayError Unit))
  /-- To rewind the partition of a record that met a fatal error, for whoever is assigned it next.
  -/
  | failing (d : Delivery) (cause : RelayError)
  /-- To store a fatal error. -/
  | blaming (d : Delivery) (cause : RelayError)
  /-- To begin the shutdown after a fatal error. -/
  | stopping (d : Delivery)
  /-- To end the unit of work. -/
  | leaving (d : Delivery)
  /-- To tell the gate that a delivery is done with. -/
  | finishing
  /-- To show a number of records in flight. -/
  | showing (inFlight : Nat)
  | exited
  | crashed

/-- A worker, its queue and its memory. -/
structure Worker (I : Interface) where
  stage : WorkerStage I
  queue : List Delivery
  redeliveries : Redeliveries
  /-- Whether it has met a fatal error. -/
  failed : Bool

namespace Shared

variable {ω : Type}

/-- Stores a fatal error unless there is one. -/
def blame (s : Shared ω) (cause : RelayError) : Shared ω :=
  { s with fatal := some (s.fatal.getD cause) }

/-- Shows a number of records in flight. -/
def showInFlight (s : Shared ω) (count : Nat) : Shared ω :=
  { s with traffic := s.traffic.setInFlight count }

/-- Begins the shutdown. -/
def beginShutdown (s : Shared ω) : Shared ω := { s with shutdown := s.shutdown.begin }

end Shared

namespace Program

/-- One step of a program: its call is made, or its pause is over. -/
def advance {I : Interface} {α ω : Type}
    (reply : (request : I.Call) → ω → I.Reply request × ω) :
    Program I α → ω → Program I α × ω
  | call request next, w =>
    let (answer, w) := reply request w
    (next answer, w)
  | pause _ next, w => (next, w)
  | p, w => (p, w)

end Program

namespace WorkerStage

/-- The handler is called to set a record aside. -/
def setAside {I : Interface} (h : RecordHandler I) (d : Delivery) (reason : DeadLetterReason) :
    WorkerStage I :=
  settingAside d reason (h.deadLetter d.record reason)

end WorkerStage

namespace Worker

variable {I : Interface} {ω : Type}

/-- A worker that has not begun. -/
def new : Worker I := ⟨.idle, [], .none, false⟩

/-- Whether a worker takes no more deliveries from anybody. -/
def hasEnded (k : Worker I) : Bool :=
  match k.stage with
  | .exited | .crashed => true
  | _ => false

/-- How long the pause is that a worker makes, in nanoseconds. -/
def pause? (k : Worker I) : Option Nat :=
  match k.stage with
  | .handling _ (.pause nanos _) | .settingAside _ _ (.pause nanos _) => some nanos
  | _ => none

/-- Goes on to another stage. -/
def goTo (k : Worker I) (stage : WorkerStage I) : Worker I := { k with stage := stage }

/-- Whether a delivery is to be worked on, and the worker after it has found out. -/
def consider (k : Worker I) (d : Delivery) (abandoning : Bool) : Worker I :=
  if k.failed || abandoning then k.goTo .finishing
  else
    let (admitted, redeliveries) := k.redeliveries.accept d
    { k with
      stage := if admitted then .admitted d else .finishing
      redeliveries := redeliveries }

/-- Goes on after the work on a record has come to an outcome. -/
def concluded (c : Consumer I ω) (h : RecordHandler I) (k : Worker I) (d : Delivery) :
    Except RelayError Outcome → Worker I
  | .ok .failed =>
    let (count, redeliveries) := k.redeliveries.countFailure d.record
    { k with
      stage := if c.config.maxRedeliveries < count
        then .setAside h d .processingFailure else .rewinding d
      redeliveries := redeliveries }
  | .ok _ => { k with stage := .leaving d, redeliveries := k.redeliveries.settle d.record }
  | .error (.offset _) => k.goTo (.leaving d)
  | .error cause => k.goTo (.failing d cause)

/-- Goes on after a record was set aside or could not be. -/
def wasSetAside (k : Worker I) (d : Delivery) : Except RelayError Unit → Worker I
  | .ok () => { k with stage := .leaving d, redeliveries := k.redeliveries.settle d.record }
  | .error cause => k.goTo (.failing d cause)

/-- Goes on after the partition of a failed record was rewound or could not be. -/
def wasRewound (k : Worker I) (d : Delivery) : Except BrokerError Unit → Worker I
  | .ok () => { k with stage := .leaving d, redeliveries := k.redeliveries.await d }
  | .error cause => k.goTo (.failing d (.broker cause))

/-- A worker whose handler has crashed leaves its unit and its queue as it is. -/
def crash (k : Worker I) (s : Shared ω) : Worker I × Shared ω :=
  (k.goTo .crashed, { s with shutdown := s.shutdown.endUnit })

/-- One step of a worker with its number and its handler, unless it has to wait. Once the queues are
closed, a worker with an empty queue exits. -/
def step? (c : Consumer I ω) (id : Nat) (h : RecordHandler I) (queuesClosed : Bool)
    (k : Worker I) (s : Shared ω) : Option (Worker I × Shared ω) :=
  match k.stage with
  | .idle =>
    match k.queue with
    | d :: rest => some ({ k with stage := .taken d, queue := rest }, s)
    | [] => if queuesClosed then some (k.goTo .exited, s) else none
  | .taken d => some (k.consider d s.shutdown.abandoning, s)
  | .admitted d =>
    some (k.goTo (.handling d (h.handle d.record)), { s with shutdown := s.shutdown.enterUnit })
  | .handling d (.done outcome) => some (k.concluded c h d outcome, s)
  | .handling _ .crash => some (k.crash s)
  | .handling d work =>
    let (work, outside) := work.advance (c.reply id) s.outside
    some (k.goTo (.handling d work), { s with outside := outside })
  | .rewinding d =>
    let (sought, outside) := c.source.seek d.record.topicPartition d.record.offset s.outside
    some (k.wasRewound d sought, { s with outside := outside })
  | .settingAside d _ (.done result) => some (k.wasSetAside d result, s)
  | .settingAside _ _ .crash => some (k.crash s)
  | .settingAside d reason work =>
    let (work, outside) := work.advance (c.reply id) s.outside
    some (k.goTo (.settingAside d reason work), { s with outside := outside })
  | .failing d cause =>
    let (_, outside) := c.source.seek d.record.topicPartition d.record.offset s.outside
    some (k.goTo (.blaming d cause), { s with outside := outside })
  | .blaming d cause => some (k.goTo (.stopping d), s.blame cause)
  | .stopping d => some ({ k with stage := .leaving d, failed := true }, s.beginShutdown)
  | .leaving _ => some (k.goTo .finishing, { s with shutdown := s.shutdown.endUnit })
  | .finishing =>
    let gate := s.gate.completed
    some (k.goTo (.showing gate.inFlight), { s with gate := gate })
  | .showing count => some (k.goTo .idle, s.showInFlight count)
  | .exited | .crashed => none

end Worker

end AlertRelay
