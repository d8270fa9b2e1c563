/-!
# Scores and severities

Anomaly scores between zero and one, and the four bands of severity that an aggregate score falls
into.
-/

namespace AlertRelay

/-- The scores of an event. -/
structure Score where
  isolation : Float
  sequence : Float
  aggregate : Float
  deriving Inhabited

/-- How severe an alert is, from the least to the most. -/
inductive Severity where
  | low
  | medium
  | high
  | critical
  deriving DecidableEq, Inhabited

namespace Score

/-- Keeps a score between zero and one; what is no number becomes zero. -/
def clampUnit (x : Float) : Float :=
  if x.isNaN then 0.0
  else if x < 0.0 then 0.0
  else if 1.0 < x then 1.0
  else x

/-- A score whose components are kept between zero and one. -/
def clamped (isolation sequence aggregate : Float) : Score :=
  ⟨clampUnit isolation, clampUnit sequence, clampUnit aggregate⟩

/-- A score whose aggregate is the larger of its components. -/
def ofComponents (isolation sequence : Float) : Score :=
  let isolation := clampUnit isolation
  let sequence := clampUnit sequence
  clamped isolation sequence (if isolation < sequence then sequence else isolation)

end Score

namespace Severity

/-- The band of an aggregate score. -/
def ofScore (aggregate : Float) : Severity :=
  if 0.90 ≤ aggregate then critical
  else if 0.75 ≤ aggregate then high
  else if 0.50 ≤ aggregate then medium
  else low

/-- The name of a severity. -/
def name : Severity → String
  | low => "Low"
  | medium => "Medium"
  | high => "High"
  | critical => "Critical"

/-- The severity of a name. -/
def ofName? (s : String) : Option Severity :=
  if s = "Low" then some low
  else if s = "Medium" then some medium
  else if s = "High" then some high
  else if s = "Critical" then some critical
  else none

/-- The place of a severity in their order. -/
def rank : Severity → Nat
  | low => 0
  | medium => 1
  | high => 2
  | critical => 3

/-- Severities in their order. -/
def sort (list : List Severity) : List Severity :=
  list.mergeSort fun a b => a.rank ≤ b.rank

/-- The most severe of a list. -/
def greatest? (list : List Severity) : Option Severity :=
  (sort list).getLast?

end Severity

end AlertRelay
