import AlertRelay.Broker.Transaction
import AlertRelay.Ledger
import AlertRelay.Relay.Effect
import AlertRelay.Store.Memory

/-!
# The world of relay work

What workers share and what each has of its own: the log, the alert store, the dead-letter producer,
the ledger and the counters are shared; each worker has two producers and a model that labels. Every
call is one step of the world.
-/

namespace AlertRelay

/-- What a worker has of its own. -/
structure WorkerClients where
  results : TransactionalProducer
  alerts : TransactionalProducer
  /-- The scores that the model of the worker gives. -/
  score : Event → Except EnrichmentError Score
  /-- The label that the model gives, where the first argument counts the labels asked for before.
  -/
  label : Nat → Event → Score → Except EnrichmentError Label
  /-- How many labels were asked for. -/
  labelCalls : Nat

/-- The state that relay work changes. -/
structure World where
  log : Log
  workers : List WorkerClients
  deadLetters : PlainProducer
  store : AlertStore
  ledger : Ledger
  counters : Counters
  /-- The producer that loses its identifier to another one when the next alert is to be stored. -/
  fenceAtInsert : Option (Nat × Lane)
  /-- How many identifiers were given out. -/
  issued : Nat
  /-- The identifier that is given out after so many others. -/
  identifier : Nat → Uuid
  /-- Milliseconds that have passed. -/
  clock : Nat

namespace WorkerClients

/-- The clients of a worker, without transactions and without faults. -/
def new (resultsId alertsId : String) (score : Event → Except EnrichmentError Score)
    (label : Nat → Event → Score → Except EnrichmentError Label) : WorkerClients :=
  ⟨.new resultsId, .new alertsId, score, label, 0⟩

/-- A producer of a worker. -/
def producer (c : WorkerClients) : Lane → TransactionalProducer
  | .results => c.results
  | .alerts => c.alerts

/-- Puts a producer of a worker. -/
def setProducer (c : WorkerClients) (p : TransactionalProducer) : Lane → WorkerClients
  | .results => { c with results := p }
  | .alerts => { c with alerts := p }

end WorkerClients

namespace World

/-- Makes a change to a producer, if there is such a worker. -/
def modifyProducer (w : World) (worker : Nat) (lane : Lane)
    (change : TransactionalProducer → TransactionalProducer) : World :=
  { w with workers := w.workers.modify worker fun c =>
      c.setProducer (change (c.producer lane)) lane }

/-- Makes a step of a producer. -/
def transact (w : World) (worker : Nat) (lane : Lane)
    (step : TransactionalProducer → Log → TransactionalProducer.Step) :
    Except BrokerError Unit × World :=
  match w.workers[worker]? with
  | none => (.error .closed, w)
  | some c =>
    let (reply, p, log) := step (c.producer lane) w.log
    (reply, { w.modifyProducer worker lane fun _ => p with log := log })

/-- Lets the producer that waits for it lose its identifier. -/
def fenceDue (w : World) : World :=
  match w.fenceAtInsert with
  | none => w
  | some (worker, lane) =>
    { w.modifyProducer worker lane (fun p => { p with fenced := true }) with
      fenceAtInsert := none }

/-- Makes a change to the counters. -/
def count (w : World) (change : Counters → Counters) : World :=
  { w with counters := change w.counters }

/-- Asks the model of a worker for a label. -/
def askLabel (w : World) (worker : Nat) (event : Event) (score : Score) :
    Except EnrichmentError Label × World :=
  match w.workers[worker]? with
  | none => (.error (.labeling "no labeler" false), w)
  | some c =>
    (c.label c.labelCalls event score,
      { w with workers := w.workers.modify worker fun c =>
          { c with labelCalls := c.labelCalls + 1 } })

/-- Asks the model of a worker for scores. -/
def askScore (w : World) (worker : Nat) (event : Event) : Except EnrichmentError Score :=
  match w.workers[worker]? with
  | none => .error (.scoring "no scorer")
  | some c => c.score event

/-- A world with an empty log and an empty store. -/
def start (workers : List WorkerClients) (identifier : Nat → Uuid) : World where
  log := .empty
  workers := workers
  deadLetters := .new
  store := .empty
  ledger := .empty
  counters := .zero
  fenceAtInsert := none
  issued := 0
  identifier := identifier
  clock := 0

/-- One call of a worker. -/
def reply (worker : Nat) : (request : RelayCall) → World → request.Reply × World
  | .begin lane, w => w.transact worker lane fun p l => p.begin l
  | .produce lane m, w => w.transact worker lane fun p l => p.produce l m
  | .sendOffsets lane offsets, w => w.transact worker lane fun p l => p.sendOffsets l offsets
  | .commit lane, w => w.transact worker lane fun p l => p.commit l
  | .abort lane, w => w.transact worker lane fun p l => p.abort l
  | .insertAlert a, w =>
    let w := w.fenceDue
    let (stored, store) := w.store.insertIfAbsent a
    (stored, { w with store := store })
  | .deleteAlert eventId, w =>
    let (deleted, store) := w.store.deleteByEventId eventId
    (deleted, { w with store := store })
  | .sendDeadLetter m, w =>
    let (sent, log) := w.deadLetters.send w.log m
    (sent, { w with log := log })
  | .flushDeadLetters, w => (w.deadLetters.flush, w)
  | .score event, w => (w.askScore worker event, w)
  | .label event score, w => w.askLabel worker event score
  | .checkOffset c, w => (w.ledger.check c, w)
  | .recordOffset c, w => ((), { w with ledger := w.ledger.record c })
  | .countProcessed, w => ((), w.count Counters.countProcessed)
  | .countDeadLettered, w => ((), w.count Counters.countDeadLettered)
  | .countDeadLetterFailure, w => ((), w.count Counters.countDeadLetterFailure)
  | .countFailure stage, w => ((), w.count fun c => c.countFailure stage)
  | .observe step success, w => ((), w.count fun c => c.observe step success 0)
  | .freshId, w => (w.identifier w.issued, { w with issued := w.issued + 1 })
  | .now, w => ((w.clock : Int), w)
  | .share, w => ((0.0 : Float), w)

/-- Lets time pass. -/
def wait (nanos : Nat) (w : World) : World :=
  { w with clock := w.clock + Program.wholeMillis nanos }

/-- The world as a worker sees it. -/
def surroundings (worker : Nat) : Surroundings Interface.relay World :=
  ⟨reply worker, wait⟩

/-- Runs the work of a worker while nobody else is at work. -/
def perform {α : Type} (worker : Nat) (p : RelayProgram α) (w : World) : Option α × World :=
  p.run (surroundings worker) w

end World

end AlertRelay
