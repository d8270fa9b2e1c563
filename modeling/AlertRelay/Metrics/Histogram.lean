import AlertRelay.Number.Literal

/-!
# Histograms

A histogram counts samples by the first of its bounds that they do not exceed, and keeps their
number and their sum.
-/

namespace AlertRelay

/-- Samples counted by bounds. -/
structure Histogram where
  /-- Each bound with the samples that fall under it and under no earlier one. -/
  buckets : List (Float × Nat)
  count : Nat
  sum : Float
  deriving Inhabited

namespace Histogram

/-- A histogram without samples. -/
def new (bounds : List Float) : Histogram := ⟨bounds.map fun bound => (bound, 0), 0, 0.0⟩

/-- Counts a sample under its bound, if there is one. -/
def countUnder (sample : Float) : List (Float × Nat) → List (Float × Nat)
  | [] => []
  | (bound, n) :: rest =>
    if sample ≤ bound then (bound, n + 1) :: rest else (bound, n) :: countUnder sample rest

/-- Takes in a sample. -/
def observe (h : Histogram) (sample : Float) : Histogram :=
  ⟨countUnder sample h.buckets, h.count + 1, h.sum + sample⟩

/-- Adds up the counts of buckets. -/
def accumulate (total : Nat) : List (Float × Nat) → List (Float × Nat)
  | [] => []
  | (bound, n) :: rest => (bound, total + n) :: accumulate (total + n) rest

/-- Each bound with the samples that do not exceed it. -/
def cumulative (h : Histogram) : List (Float × Nat) := accumulate 0 h.buckets

/-- A span of time in seconds. -/
def secondsOfNanos (nanos : Nat) : Float :=
  nearestDouble (nanos / 1000000000) + nearestDouble (nanos % 1000000000) / 1000000000.0

end Histogram

end AlertRelay
