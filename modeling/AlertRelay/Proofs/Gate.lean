import AlertRelay.Config.Consumer
import AlertRelay.Gate

/-!
# The gate

What a gate asks for when it turns, and how calls change it. A gate that is paused and counts
nothing opens when it is evaluated, unless its low mark is zero: no count is below that
(`Gate.evaluate_drained`, `Gate.evaluate_shut`).
-/

namespace AlertRelay

/-- A call on the gate. -/
inductive GateCall where
  | enqueued
  | completed
  | evaluate
  deriving DecidableEq

namespace Gate

/-- What the loop has to do for a gate that has turned. -/
def Asks (g : Gate) : GateTransition → Prop
  | .pause => g.paused = true
  | .resume => g.paused = false
  | .hold => False

/-- Whether a gate that is open has room for one more record. -/
def Eased (g : Gate) : Prop := g.paused = false → g.inFlight ≤ g.high

/-- Whether a gate has become another one by nothing but records that are done with. -/
structure Relieved (before after : Gate) : Prop where
  high : after.high = before.high
  low : after.low = before.low
  paused : after.paused = before.paused
  inFlight : after.inFlight ≤ before.inFlight

variable {g later : Gate}

theorem Relieved.refl (g : Gate) : g.Relieved g := ⟨rfl, rfl, rfl, Nat.le_refl _⟩

/-- A record that is done with relieves the gate. -/
theorem relieved_completed (g : Gate) : g.Relieved g.completed :=
  ⟨rfl, rfl, rfl, Nat.sub_le g.inFlight 1⟩

/-- A gate that was relieved keeps its room. -/
theorem Relieved.eased (relieved : g.Relieved later) (eased : g.Eased) : later.Eased := by
  intro opened
  rw [relieved.paused] at opened
  rw [relieved.high]
  exact Nat.le_trans relieved.inFlight (eased opened)

/-- The gate turns when the count has passed a mark, and stays as it is otherwise. -/
theorem evaluate_cases (g : Gate) :
    (g.evaluate = (.pause, { g with paused := true }) ∧ g.paused = false) ∨
      (g.evaluate = (.resume, { g with paused := false }) ∧ g.paused = true ∧
        g.inFlight < g.low) ∨
      (g.evaluate = (.hold, g) ∧ g.Eased) := by
  obtain ⟨high, low, inFlight, paused⟩ := g
  cases paused with
  | false =>
      by_cases above : high < inFlight
      · refine .inl ⟨?_, rfl⟩
        simp only [Gate.evaluate, GateTransition.decide, if_pos above]
      · refine .inr (.inr ⟨?_, fun _ => Nat.le_of_not_lt above⟩)
        simp only [Gate.evaluate, GateTransition.decide, if_neg above]
  | true =>
      by_cases below : inFlight < low
      · refine .inr (.inl ⟨?_, rfl, below⟩)
        simp only [Gate.evaluate, GateTransition.decide, if_pos below]
      · refine .inr (.inr ⟨?_, fun opened => by cases opened⟩)
        simp only [Gate.evaluate, GateTransition.decide, if_neg below]

/-- A look at the gate changes neither its marks nor its count. -/
theorem evaluate_counts (g : Gate) : g.evaluate.2.high = g.high ∧ g.evaluate.2.low = g.low ∧
    g.evaluate.2.inFlight = g.inFlight := by
  rcases g.evaluate_cases with ⟨same, _⟩ | ⟨same, _⟩ | ⟨same, _⟩
  all_goals
    rw [same]
    exact ⟨rfl, rfl, rfl⟩

/-- The gate after a call. -/
def call (g : Gate) : GateCall → Gate
  | .enqueued => g.enqueued
  | .completed => g.completed
  | .evaluate => g.evaluate.2

/-- The gate after several calls. -/
def after (g : Gate) (calls : List GateCall) : Gate := calls.foldl call g

theorem call_low (g : Gate) (call : GateCall) : (g.call call).low = g.low := by
  cases call with
  | enqueued | completed => rfl
  | evaluate => exact g.evaluate_counts.2.1

/-- No call changes the low mark. -/
theorem after_low (g : Gate) (calls : List GateCall) : (g.after calls).low = g.low := by
  induction calls generalizing g with
  | nil => rfl
  | cons call rest ih =>
      change ((g.call call).after rest).low = g.low
      rw [ih, call_low]

/-- A paused gate that counts nothing opens when it is evaluated, if there is a count below its low
mark. -/
theorem evaluate_drained (paused : g.paused = true) (drained : g.inFlight = 0) :
    g.evaluate = if g.low = 0 then (.hold, g) else (.resume, { g with paused := false }) := by
  unfold Gate.evaluate GateTransition.decide
  rw [paused, drained]
  by_cases least : g.low = 0
  · simp [least]
  · simp [least, Nat.pos_of_ne_zero least]

/-- A paused gate whose low mark is zero stays as it is when it is evaluated. -/
theorem evaluate_shut (paused : g.paused = true) (least : g.low = 0) :
    g.evaluate = (.hold, g) := by
  unfold Gate.evaluate GateTransition.decide
  simp [paused, least]

end Gate

/-- Settings that are accepted have a low mark below the high one, and queues that hold more. -/
theorem ConsumerConfig.marks_of_complaint {c : ConsumerConfig} (none : c.complaint? = none) :
    c.lowWatermark < c.highWatermark ∧ c.highWatermark < c.queueCapacity := by
  unfold ConsumerConfig.complaint? at none
  refine ⟨Nat.lt_of_not_le fun reversed => ?_, Nat.lt_of_not_le fun reversed => ?_⟩
  all_goals
    simp only [if_pos reversed] at none
    repeat' split at none
    all_goals cases none

/-- There is nothing to complain about in settings that are valid. -/
theorem ConsumerConfig.complaint_of_validate {c : ConsumerConfig} (valid : c.validate = .ok ()) :
    c.complaint? = none := by
  unfold ConsumerConfig.validate at valid
  split at valid
  · cases valid
  · next none => exact none

/-- In valid settings, the low mark is below the high one. -/
theorem ConsumerConfig.marks_of_validate {c : ConsumerConfig} (valid : c.validate = .ok ()) :
    c.lowWatermark < c.highWatermark :=
  (marks_of_complaint (complaint_of_validate valid)).1

/-- In valid settings, a queue holds more records than the high mark counts. -/
theorem ConsumerConfig.room_of_validate {c : ConsumerConfig} (valid : c.validate = .ok ()) :
    c.highWatermark < c.queueCapacity :=
  (marks_of_complaint (complaint_of_validate valid)).2

end AlertRelay
