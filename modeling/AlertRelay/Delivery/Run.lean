import AlertRelay.Delivery.Loop

/-!
# Runs of a consumer

The loop and the workers make their steps in any order, and whoever holds the shutdown may begin it
at any time. `ConsumerRun.step?` says what each move does; which move comes next is left open.
-/

namespace AlertRelay

/-- A move in a run. -/
inductive Move where
  /-- The loop makes a step. -/
  | loop
  /-- The loop gives up its poll because the shutdown has begun. -/
  | cancel
  /-- A wait of the loop has lasted as long as it may. -/
  | timeout
  /-- A worker makes a step. -/
  | worker (id : Nat)
  /-- Somebody begins the shutdown. -/
  | stop
  deriving DecidableEq, Inhabited

namespace Consumer

variable {I : Interface} {ω : Type}

/-- Refuses settings that contradict each other, and a consumer without handlers. -/
def check (c : Consumer I ω) : Except RelayError Unit :=
  match c.config.validate with
  | .error complaint => .error (.config complaint)
  | .ok () =>
    if c.handlers.isEmpty then .error (.config "at least one record handler is required")
    else .ok ()

/-- A run before its first step, with a queue for each worker. -/
def start (c : Consumer I ω) (outside : ω) : ConsumerRun I ω where
  loop := .checking
  workers := c.handlers.map fun _ => .new
  shared := ⟨.new c.config.highWatermark c.config.lowWatermark, .zero, .initial, none, outside⟩

/-- The greatest capacity of a queue. -/
def maxQueueCapacity : Nat := 0x1fffffffffffffff

/-- Makes the queues and begins a run. The consumer crashes if there can be no queues of the
capacity that is asked for. -/
def launch (c : Consumer I ω) (outside : ω) : Option (ConsumerRun I ω) :=
  if c.handlers.isEmpty || 0 < c.config.queueCapacity && c.config.queueCapacity ≤ maxQueueCapacity
  then some (c.start outside)
  else none

end Consumer

namespace ConsumerRun

variable {I : Interface} {ω : Type}

/-- One step of a worker, unless it has to wait. -/
def workerStep? (c : Consumer I ω) (id : Nat) (r : ConsumerRun I ω) : Option (ConsumerRun I ω) :=
  match r.workers[id]?, c.handlers[id]? with
  | some k, some h =>
    (k.step? c id h r.loop.queuesClosed r.shared).map fun (k, shared) =>
      { r with workers := r.workers.set id k, shared := shared }
  | _, _ => none

/-- One move, if it is possible. -/
def step? (c : Consumer I ω) : Move → ConsumerRun I ω → Option (ConsumerRun I ω)
  | .loop, r => r.loopStep? c
  | .cancel, r => r.cancel?
  | .timeout, r => r.timeout?
  | .worker id, r => r.workerStep? c id
  | .stop, r => some { r with shared := r.shared.beginShutdown }

end ConsumerRun

end AlertRelay
