/-!
# Backpressure

The gate counts the records in flight. Above its high mark it pauses the assignment, below its low
mark it resumes it, and between the marks it stays as it is.
-/

namespace AlertRelay

/-- What the gate asks of the consumer loop. -/
inductive GateTransition where
  | pause
  | resume
  | hold
  deriving DecidableEq, Inhabited

/-- The count of records in flight, with the marks at which the gate turns. -/
structure Gate where
  high : Nat
  low : Nat
  inFlight : Nat
  paused : Bool
  deriving DecidableEq, Inhabited

/-- The transition for a state and a count. -/
def GateTransition.decide (paused : Bool) (inFlight high low : Nat) : GateTransition :=
  match paused with
  | false => if high < inFlight then pause else hold
  | true => if inFlight < low then resume else hold

/-- The name of a transition. -/
def GateTransition.name : GateTransition → String
  | pause => "Pause"
  | resume => "Resume"
  | hold => "Hold"

namespace Gate

/-- A gate that is open and counts nothing. -/
def new (high low : Nat) : Gate := ⟨high, low, 0, false⟩

/-- Counts a record that is handed to a worker. -/
def enqueued (g : Gate) : Gate := { g with inFlight := g.inFlight + 1 }

/-- Counts a record that a worker is done with. The count does not go below zero. -/
def completed (g : Gate) : Gate := { g with inFlight := g.inFlight - 1 }

/-- Turns the gate if its count asks for it. -/
def evaluate (g : Gate) : GateTransition × Gate :=
  match GateTransition.decide g.paused g.inFlight g.high g.low with
  | .pause => (.pause, { g with paused := true })
  | .resume => (.resume, { g with paused := false })
  | .hold => (.hold, g)

end Gate

end AlertRelay
