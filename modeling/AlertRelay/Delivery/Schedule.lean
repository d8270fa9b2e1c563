import AlertRelay.Delivery.Run

/-!
# Timed runs

A run in which everybody goes on for as long as possible and time passes only while nobody can go
on. The loop goes first; a worker gets its turn in the order in which workers were called, and keeps
it until its queue is empty or it pauses. Apart from the passing of time, whatever happens to the
run is a move of `ConsumerRun.step?`.
-/

namespace AlertRelay

/-- How the state outside takes part in the timing of a run. -/
structure Timing (ω : Type) where
  /-- Whether somebody begins the shutdown at once. -/
  stopsAtOnce : ω → Bool
  /-- Whether somebody begins the shutdown as soon as nobody can go on. -/
  stopsAtRest : ω → Bool
  /-- The state after a number of milliseconds. -/
  later : Nat → ω → ω

/-- Who goes on. -/
inductive Turn where
  | loop
  | worker (id : Nat)
  deriving DecidableEq, Inhabited

/-- A run with a clock in milliseconds. -/
structure TimedRun (I : Interface) (ω : Type) where
  run : ConsumerRun I ω
  clock : Nat
  turn : Turn
  /-- The workers that can go on, in the order in which they were called. -/
  ready : List Nat
  /-- When the wait of the loop is over. -/
  loopDue : Option Nat
  /-- When the pauses of workers are over, in the order in which they began. -/
  pauses : Table Nat Nat

namespace TimedRun

variable {I : Interface} {ω : Type}

/-- A run that begins at time zero, unless the consumer crashes before. -/
def launch (c : Consumer I ω) (outside : ω) : Option (TimedRun I ω) :=
  (c.launch outside).map fun run =>
    ⟨run, 0, .loop, List.range c.handlers.length, none, .empty⟩

/-- When the wait is over that the loop is in after a step. -/
def dueAfter (c : Consumer I ω) (t : TimedRun I ω) (next : ConsumerRun I ω) : Option Nat :=
  match t.run.loop, next.loop with
  | .waiting _, .waiting _ => t.loopDue
  | _, .waiting _ => some (t.clock + c.config.pollTimeoutMillis)
  | .draining, .draining => t.loopDue
  | _, .draining => some (t.clock + c.config.shutdownTimeoutMillis)
  | _, _ => none

/-- Begins the shutdown. -/
def stop (c : Consumer I ω) (r : ConsumerRun I ω) : ConsumerRun I ω := (r.step? c .stop).getD r

/-- Whether a worker that nobody has called can go on. -/
def isCalled (c : Consumer I ω) (t : TimedRun I ω) (r : ConsumerRun I ω) (id : Nat) : Bool :=
  !t.ready.contains id && !t.pauses.contains id && (r.step? c (.worker id)).isSome

/-- What a step of the loop leads to: somebody may begin the shutdown, and workers may be called. -/
def afterLoop (c : Consumer I ω) (e : Timing ω) (t : TimedRun I ω) (next : ConsumerRun I ω) :
    TimedRun I ω :=
  let next := if e.stopsAtOnce next.shared.outside then stop c next else next
  { t with
    run := next
    loopDue := t.dueAfter c next
    ready := t.ready ++ (List.range next.workers.length).filter (t.isCalled c next) }

/-- The earliest time at which something is due. -/
def due? (t : TimedRun I ω) : Option Nat :=
  (t.loopDue.toList ++ t.pauses.entries.map Prod.snd).min?

/-- Ends the pauses that are over at a time. -/
def endPauses (c : Consumer I ω) (now : Nat) (t : TimedRun I ω) : TimedRun I ω :=
  (t.pauses.entries.filter fun entry => entry.2 == now).foldl (fun t entry =>
    { t with
      run := (t.run.step? c (.worker entry.1)).getD t.run
      ready := t.ready ++ [entry.1]
      pauses := t.pauses.erase entry.1 }) t

/-- Ends the wait of the loop if it is over at a time. -/
def endWait (c : Consumer I ω) (now : Nat) (t : TimedRun I ω) : TimedRun I ω :=
  if t.loopDue = some now then
    { t with run := (t.run.step? c .timeout).getD t.run, loopDue := none }
  else t

/-- Lets time pass until something is due. -/
def pass (c : Consumer I ω) (e : Timing ω) (now : Nat) (t : TimedRun I ω) : TimedRun I ω :=
  let outside := e.later (now - t.clock) t.run.shared.outside
  (({ t with
    clock := now
    run := { t.run with shared := t.run.withOutside outside } }.endWait c now).endPauses c now)

/-- Goes on while nobody can: somebody begins the shutdown, or time passes. -/
def rest? (c : Consumer I ω) (e : Timing ω) (t : TimedRun I ω) : Option (TimedRun I ω) :=
  if !t.run.shared.shutdown.begun && e.stopsAtRest t.run.shared.outside then
    some { t with run := stop c t.run }
  else t.due?.map fun now => t.pass c e now

/-- Gives the turn to the next worker that was called, or to the loop. -/
def yield (t : TimedRun I ω) : TimedRun I ω :=
  match t.ready with
  | id :: rest => { t with turn := .worker id, ready := rest }
  | [] => { t with turn := .loop }

/-- How many milliseconds a worker is about to pause. -/
def pauseOf (t : TimedRun I ω) (id : Nat) : Nat :=
  Program.wholeMillis ((t.run.workers[id]?.bind Worker.pause?).getD 0)

/-- What happens next, unless nothing can happen any more. -/
def next? (c : Consumer I ω) (e : Timing ω) (t : TimedRun I ω) : Option (TimedRun I ω) :=
  match t.turn with
  | .loop =>
    match (t.run.step? c .cancel).orElse fun _ => t.run.step? c .loop with
    | some run => some (t.afterLoop c e run)
    | none => if t.ready.isEmpty then t.rest? c e else some t.yield
  | .worker id =>
    if t.pauseOf id = 0 then
      match t.run.step? c (.worker id) with
      | some run => some { t with run := run }
      | none => some t.yield
    else some { t with pauses := t.pauses.put id (t.clock + t.pauseOf id) }.yield

/-- As many steps as there are, up to a limit. -/
def play (c : Consumer I ω) (e : Timing ω) : Nat → TimedRun I ω → TimedRun I ω
  | 0, t => t
  | limit + 1, t =>
    match t.next? c e with
    | some t => play c e limit t
    | none => t

end TimedRun

end AlertRelay
