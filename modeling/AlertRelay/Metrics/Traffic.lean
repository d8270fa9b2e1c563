import AlertRelay.Record
import AlertRelay.Table

/-!
# Gauges of the consumer loop

How many records were pulled, how far each partition lags behind, how many records are in flight and
whether the assignment is paused.
-/

namespace AlertRelay

/-- What the consumer loop shows of its state. -/
structure Traffic where
  pulled : Nat
  lags : Table TopicPartition Int
  inFlight : Int
  paused : Bool
  deriving Inhabited

namespace Traffic

/-- Nothing pulled yet. -/
def zero : Traffic := ⟨0, Table.empty, 0, false⟩

/-- Keeps an integer within 64 bits. -/
def clampWord (i : Int) : Int := max (-0x8000000000000000) (min 0x7fffffffffffffff i)

/-- How many records lie behind an offset; below zero it is zero. -/
def lagOf (high offset : Int) : Int := max 0 (clampWord (clampWord (high - offset) - 1))

/-- Counts a record that was pulled. -/
def countPulled (t : Traffic) : Traffic := { t with pulled := t.pulled + 1 }

/-- The lag of a partition. -/
def lag (t : Traffic) (tp : TopicPartition) : Int := (t.lags.get? tp).getD 0

/-- Sets the lag of a partition after a record was pulled from it. -/
def setLag (t : Traffic) (tp : TopicPartition) (high offset : Int) : Traffic :=
  { t with lags := t.lags.put tp (lagOf high offset) }

/-- Makes the series of a partition appear, at zero if it was never set. -/
def touchLag (t : Traffic) (tp : TopicPartition) : Traffic :=
  { t with lags := t.lags.put tp (t.lag tp) }

/-- Sets the number of records in flight, a 64-bit word that is shown with a sign. -/
def setInFlight (t : Traffic) (count : Nat) : Traffic :=
  { t with
    inFlight := ((count : Int) + 0x8000000000000000) % 0x10000000000000000 - 0x8000000000000000 }

/-- Sets whether the assignment is paused. -/
def setPaused (t : Traffic) (paused : Bool) : Traffic := { t with paused := paused }

end Traffic

end AlertRelay
