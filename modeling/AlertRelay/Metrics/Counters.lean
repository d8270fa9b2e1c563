import AlertRelay.Metrics.Histogram
import AlertRelay.Table

/-!
# Counters of finished work

How many records ended in which way, how many failures there were at each stage, and how long
inserts and publications took.
-/

namespace AlertRelay

/-- The stage at which something failed. -/
inductive FailureStage where
  /-- Storing an alert. -/
  | insert
  /-- Publishing an alert. -/
  | publish
  /-- Taking an alert out again after its publication had failed. -/
  | compensation
  /-- Enriching an event. -/
  | enrichment
  /-- Writing a result or committing an offset. -/
  | commit
  /-- A record whose offset had been committed before. -/
  | offset
  deriving DecidableEq, Inhabited

/-- What is timed. -/
inductive TimedStep where
  | insert
  | publish
  deriving DecidableEq, Inhabited

/-- The counts of finished work. -/
structure Counters where
  processed : Nat
  deadLettered : Nat
  /-- Dead letters that could not be delivered. -/
  deadLetterFailures : Nat
  failures : Table FailureStage Nat
  /-- How long each timed step took, apart for those that succeeded and those that failed. -/
  latencies : Table (TimedStep × Bool) Histogram
  deriving Inhabited

namespace FailureStage

/-- The label of a stage. -/
def label : FailureStage → String
  | insert => "db"
  | publish => "kafka"
  | compensation => "compensation"
  | enrichment => "enrich"
  | commit => "broker"
  | offset => "offset"

/-- The stage of a label. -/
def ofLabel? (s : String) : Option FailureStage :=
  [insert, publish, compensation, enrichment, commit, offset].find? fun stage => stage.label = s

end FailureStage

namespace TimedStep

/-- The bounds of a histogram, in seconds. -/
def bounds : TimedStep → List Float
  | insert => [0.005, 0.01, 0.05, 0.1, 0.5]
  | publish => [0.005, 0.01, 0.05, 0.1]

end TimedStep

namespace Counters

/-- Counters at zero. -/
def zero : Counters := ⟨0, 0, 0, Table.empty, Table.empty⟩

/-- Counts a record that ended with a result. -/
def countProcessed (c : Counters) : Counters := { c with processed := c.processed + 1 }

/-- Counts a record that ended as a dead letter. -/
def countDeadLettered (c : Counters) : Counters := { c with deadLettered := c.deadLettered + 1 }

/-- Counts a dead letter that could not be delivered. -/
def countDeadLetterFailure (c : Counters) : Counters :=
  { c with deadLetterFailures := c.deadLetterFailures + 1 }

/-- The failures at a stage. -/
def failuresAt (c : Counters) (stage : FailureStage) : Nat := (c.failures.get? stage).getD 0

/-- Counts a failure at a stage. -/
def countFailure (c : Counters) (stage : FailureStage) : Counters :=
  { c with failures := c.failures.put stage (c.failuresAt stage + 1) }

/-- The latencies of a timed step. -/
def latency (c : Counters) (step : TimedStep) (success : Bool) : Histogram :=
  (c.latencies.get? (step, success)).getD (.new step.bounds)

/-- Takes in how long a timed step took. -/
def observe (c : Counters) (step : TimedStep) (success : Bool) (nanos : Nat) : Counters :=
  let sampled := (c.latency step success).observe (Histogram.secondsOfNanos nanos)
  { c with latencies := c.latencies.put (step, success) sampled }

/-- Makes the series of a stage appear, at zero if it has counted nothing. -/
def touchFailures (c : Counters) (stage : FailureStage) : Counters :=
  { c with failures := c.failures.put stage (c.failuresAt stage) }

/-- Makes the series of a timed step appear, empty if it has no samples. -/
def touchLatency (c : Counters) (step : TimedStep) (success : Bool) : Counters :=
  { c with latencies := c.latencies.put (step, success) (c.latency step success) }

end Counters

end AlertRelay
