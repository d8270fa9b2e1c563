/-!
# Shutdown

The state that everyone who takes part in a shutdown shares: whether it has begun, whether queued
records are to be dropped, and how many units of work are running. Whoever waits until no unit is
running takes note of the calls made so far before it reads the count, so that the call of the unit
that ends last is not missed.
-/

namespace AlertRelay

/-- The shared state of a shutdown. -/
structure Shutdown where
  begun : Bool
  /-- Whether queued records are dropped instead of being processed. -/
  abandoning : Bool
  /-- The units of work that are running. -/
  units : Nat
  /-- How often those who wait for idleness have been called. -/
  calls : Nat
  deriving DecidableEq, Inhabited

namespace Shutdown

/-- No shutdown, and no unit running. -/
def initial : Shutdown := ⟨false, false, 0, 0⟩

/-- Begins the shutdown. A second beginning changes nothing. -/
def begin (s : Shutdown) : Shutdown := { s with begun := true }

/-- Has queued records dropped from now on. -/
def abandon (s : Shutdown) : Shutdown := { s with abandoning := true }

/-- Starts a unit of work. -/
def enterUnit (s : Shutdown) : Shutdown := { s with units := s.units + 1 }

/-- Takes a unit out of the count. Says whether those who wait are to be called. -/
def leaveUnit (s : Shutdown) : Bool × Shutdown :=
  (decide (s.units ≤ 1), { s with units := s.units - 1 })

/-- Calls those who wait for idleness. -/
def callIdle (s : Shutdown) : Shutdown := { s with calls := s.calls + 1 }

/-- Ends a unit of work. -/
def endUnit (s : Shutdown) : Shutdown :=
  let (last, s) := s.leaveUnit
  if last then s.callIdle else s

end Shutdown

/-- A wait until no unit of work is running. -/
inductive IdleWait where
  | fresh
  /-- The number of calls so far has been noted, and the count is read next. -/
  | listening (calls : Nat)
  /-- Units were running; a call after the noted ones ends the pause. -/
  | parked (calls : Nat)
  | finished
  deriving DecidableEq, Inhabited

namespace IdleWait

/-- One step of a wait. -/
def step (s : Shutdown) : IdleWait → IdleWait
  | fresh => listening s.calls
  | listening calls => if s.units = 0 then finished else parked calls
  | parked calls => if calls < s.calls then fresh else parked calls
  | finished => finished

/-- As many steps as a wait can take while the state stays the same. -/
def settle (s : Shutdown) (w : IdleWait) : IdleWait := step s (step s (step s w))

end IdleWait

/-- A wait until a signal arrives or the shutdown has begun. -/
inductive SignalWait where
  | waiting
  | finished
  deriving DecidableEq, Inhabited

namespace SignalWait

/-- A wait ends once the shutdown has begun. -/
def settle (s : Shutdown) : SignalWait → SignalWait
  | waiting => if s.begun then finished else waiting
  | finished => finished

/-- A signal ends a wait and begins the shutdown; if nobody waits, it does nothing here. -/
def signal (s : Shutdown) : SignalWait → SignalWait × Shutdown
  | waiting => (finished, s.begin)
  | finished => (finished, s)

end SignalWait

/-- A wait of either kind. -/
inductive ShutdownWait where
  | idle (wait : IdleWait)
  | signal (wait : SignalWait)
  deriving DecidableEq, Inhabited

namespace ShutdownWait

/-- As far as a wait can go while the state stays the same. -/
def settle (s : Shutdown) : ShutdownWait → ShutdownWait
  | idle wait => idle (wait.settle s)
  | signal wait => signal (wait.settle s)

/-- Whether a wait is over. -/
def isFinished : ShutdownWait → Bool
  | idle wait => wait == .finished
  | signal wait => wait == .finished

end ShutdownWait

end AlertRelay
