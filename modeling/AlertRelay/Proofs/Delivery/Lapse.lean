import AlertRelay.Proofs.Delivery.Soundness
import AlertRelay.Proofs.Delivery.Throttle

/-!
# Lapses of the gate

A new assignment drops all pauses and leaves the gate as it is. While the gate is paused, this
begins a lapse: the loop polls as if the gate were open, until the gate has opened.

Whenever the loop polls, the partitions are paused just when the gate is and there is no lapse. At
most one record more than the high mark is in flight, and in a lapse those besides that were polled
in it (`Deployment.pauses_until_lapse`).
-/

namespace AlertRelay

/-- Whether the loop is between two of its turns. -/
def LoopStage.isChecking : LoopStage → Bool
  | checking => true
  | _ => false

/-- Whether all pauses are dropped by what happens. -/
def Happening.dropsPauses : Happening → Bool
  | rebalance | resetPositions => true
  | _ => false

/-- Whether a consumer is started with settings that it accepts, if one is started. -/
def Happening.Accepted : Happening → Prop
  | restart config _ _ => config.validate = .ok ()
  | _ => True

namespace Deployment

/-- The gate of the consumer. -/
def gate (d : Deployment) : Gate := d.run.shared.gate

/-- What something that happens makes of a lapse. A new assignment begins one if the gate is paused,
unless the loop has yet to tell the subscription so. -/
def lapseBy (d : Deployment) (lapse : Option Nat) (happening : Happening) : Option Nat :=
  if happening.dropsPauses && d.gate.paused && !d.run.loop.isTurning then some (lapse.getD 0)
  else d.run.lapseTo (d.step happening).run lapse

/-- What several things that happen, one after the other, make of a lapse. -/
def lapse : Deployment → Option Nat → List Happening → Option Nat
  | _, before, [] => before
  | d, before, happening :: rest => (d.step happening).lapse (d.lapseBy before happening) rest

/-- Whether a deployment keeps to what its settings and its gate say but for a lapse. -/
def Throttled (d : Deployment) (lapse : Option Nat) : Prop :=
  d.run.Throttled d.config.highWatermark lapse

variable {d : Deployment} {lapse : Option Nat}

/-- What drops no pauses begins no lapse; it ends one, or it goes on. -/
theorem lapseBy_eq {happening : Happening} (keeps : happening.dropsPauses = false) :
    d.lapseBy lapse happening = d.run.lapseTo (d.step happening).run lapse := by
  unfold Deployment.lapseBy
  rw [keeps]
  rfl

/-- There is no lapse when all new assignments have come while the gate was open. -/
theorem lapse_none (happenings : List Happening)
    (opened : ∀ before happening rest, happenings = before ++ happening :: rest →
      happening.dropsPauses = true → (d.after before).gate.paused = false) :
    d.lapse none happenings = none := by
  induction happenings generalizing d with
  | nil => rfl
  | cons happening rest ih =>
      have begins : (happening.dropsPauses && d.gate.paused && !d.run.loop.isTurning) = false := by
        cases drops : happening.dropsPauses with
        | false => rfl
        | true =>
            rw [show d.gate.paused = false from opened [] happening rest rfl drops]
            rfl
      have here : d.lapseBy none happening = none := by
        unfold Deployment.lapseBy
        rw [begins]
        exact ConsumerRun.lapseTo_none _ _
      rw [Deployment.lapse, here]
      refine ih fun before other later same drops => ?_
      exact opened (happening :: before) other later (congrArg _ same) drops

/-- A consumer that begins with accepted settings has no lapse. -/
theorem throttled_start {config : ConsumerConfig} (valid : config.validate = .ok ())
    (workers : Nat) (w : World) (chronicle : List Entry) :
    (start config workers w chronicle).Throttled none := by
  have marks := config.marks_of_validate valid
  exact ⟨rfl, Nat.le_of_lt marks, fun _ => rfl, Nat.zero_le _, Subscription.stands_of_unpaused rfl⟩

/-- What leaves the pauses of the subscription alone keeps a deployment throttled. -/
theorem Throttled.around {site : Site} (throttled : d.Throttled lapse)
    (steady : d.site.subscription.Steady site.subscription) :
    (d.atSite site).Throttled (d.run.lapseTo (d.atSite site).run lapse) :=
  ConsumerRun.Throttled.around throttled rfl (.refl _) steady

/-- What comes into the log keeps a deployment throttled. -/
theorem Throttled.enter (throttled : d.Throttled lapse) (e : Entry) :
    (d.enter e).Throttled (d.run.lapseTo (d.enter e).run lapse) :=
  ConsumerRun.Throttled.around throttled rfl (.refl _) (.refl _)

/-- A new assignment. While the gate is paused it begins a lapse, unless one has begun. -/
theorem Throttled.drop {happening : Happening} {site : Site} (throttled : d.Throttled lapse)
    (drops : happening.dropsPauses = true) (run : (d.step happening).run = (d.atSite site).run)
    (config : (d.step happening).config = d.config)
    (assignment : site.subscription.assignment = d.site.subscription.assignment)
    (none : site.subscription.paused = []) :
    (d.step happening).Throttled (d.lapseBy lapse happening) := by
  have dropped : site.subscription.Stands false := Subscription.stands_of_unpaused none
  have still : d.run.lapseTo (d.atSite site).run lapse = lapse :=
    ConsumerRun.Throttled.lapseTo_eq throttled rfl d.run.loop.not_polling_and_tagging
  obtain ⟨high, marks, lapses, bounded, accords⟩ := throttled
  unfold Deployment.Throttled Deployment.lapseBy
  rw [run, config, drops, Bool.true_and]
  by_cases begins : (d.gate.paused && !d.run.loop.isTurning) = true
  · rw [if_pos begins]
    obtain ⟨paused, apart⟩ := Bool.and_eq_true_iff.mp begins
    refine ⟨high, marks, fun opened => ?_, bounded, ?_⟩
    · rw [show d.gate.paused = false from opened] at paused
      cases paused
    · refine accords.drop assignment dropped rfl (fun _ => Bool.and_false _) fun turning => ?_
      rw [turning] at apart
      cases apart
  · -- The gate is open, or the loop has yet to tell the subscription: no pause is missed.
    rw [if_neg begins, still]
    refine ⟨high, marks, lapses, bounded, accords.drop assignment dropped rfl ?_ fun _ => rfl⟩
    intro apart
    have opened : d.gate.paused = false := by
      rw [apart] at begins
      simpa using begins
    rw [show d.run.shared.gate.paused = false from opened]
    rfl

/-- Whatever happens, the deployment keeps to its settings and its gate but for a lapse. -/
theorem Throttled.step (throttled : d.Throttled lapse) (happening : Happening)
    (accepted : happening.Accepted) :
    (d.step happening).Throttled (d.lapseBy lapse happening) := by
  cases happening with
  | move m =>
      rw [lapseBy_eq rfl]
      cases m with
      | worker id =>
          change (d.stepWorker id).Throttled (d.run.lapseTo (d.stepWorker id).run lapse)
          rcases d.stepWorker_cases id with same | ⟨k, later, after, present, step, same⟩
          · rw [same]
            exact throttled.around (.refl _)
          · rw [same]
            obtain ⟨relieved, steady⟩ := Worker.step_relieves step
            exact ConsumerRun.Throttled.around throttled rfl relieved steady
      | loop | cancel | timeout | stop =>
          simp only [Deployment.step, Deployment.move]
          split
          · next later step =>
            exact ConsumerRun.Throttled.step throttled (fun id same => by cases same) step
          · exact throttled.around (.refl _)
  | disturb x => exact throttled.around (.refl _)
  | publish m partition => exact throttled.enter (.published m partition)
  | createTopic topic count => exact throttled.enter (.created topic count)
  | rebalance =>
      exact throttled.drop rfl rfl rfl (d.site.subscription.assignment_resetPositions d.log) rfl
  | resetPositions =>
      exact throttled.drop rfl rfl rfl (d.site.subscription.assignment_resetPositions d.log) rfl
  | bumpGeneration => exact ConsumerRun.Throttled.around throttled rfl (.refl _) ⟨rfl, rfl⟩
  | restart config workers w =>
      exact throttled_start accepted workers { w with log := d.log } d.chronicle

/-- However much happens, a deployment is throttled but for its lapse. -/
theorem Throttled.after (throttled : d.Throttled lapse) (happenings : List Happening)
    (accepted : ∀ happening ∈ happenings, happening.Accepted) :
    (d.after happenings).Throttled (d.lapse lapse happenings) := by
  -- Each step leaves another deployment and another lapse behind.
  induction happenings generalizing d lapse with
  | nil => exact throttled
  | cons happening rest ih =>
      obtain ⟨here, later⟩ := List.forall_mem_cons.mp accepted
      exact ih (throttled.step happening here) later

/-- A consumer begins with settings that it accepts, from whatever log, and whatever happens to it.
When its loop polls, all assigned partitions are paused if the gate is and there is no lapse, and
none is otherwise; so a paused gate lets no record through but in a lapse. At most one record more
than the high mark is in flight, and in a lapse those besides that were polled in it. -/
theorem pauses_until_lapse (w : World) (history : List Entry) (config : ConsumerConfig)
    (workers : Nat) (happenings : List Happening) (valid : config.validate = .ok ())
    (accepted : ∀ happening ∈ happenings, happening.Accepted) :
    let d := (start config workers w history).after happenings
    let lapse := (start config workers w history).lapse none happenings
    (d.run.loop.isPolling = true → d.site.subscription.Stands (d.gate.paused && lapse.isNone)) ∧
      (d.run.loop.isPolling = true → d.gate.paused = true → lapse = none →
        ∀ r, (Site.source.fetch d.site).1 ≠ .record r) ∧
      d.gate.inFlight ≤ d.config.highWatermark + 1 + lapse.getD 0 := by
  intro d lapse
  have throttled : d.Throttled lapse :=
    (throttled_start valid workers w history).after happenings accepted
  have stands : d.run.loop.isPolling = true →
      d.site.subscription.Stands (d.gate.paused && lapse.isNone) := fun polls =>
    (throttled.accords.polling polls).1
  refine ⟨stands, fun polls paused none => ?_, ?_⟩
  · have all := stands polls
    rw [paused, none] at all
    exact fun r => ConsumerRun.fetch_brings_nothing all r
  · rw [← throttled.high]
    exact throttled.bounded

/-- Partitions are assigned anew while the gate is open. When it is paused, with three records in
flight and a high mark of two, the only partition is paused. -/
theorem pauses_until_lapse_open :
    let config := { ConsumerConfig.standard with
      groupId := "group", topics := ["events"], highWatermark := 2, lowWatermark := 1 }
    let d := start config 1 (World.start [] fun _ => default) []
    let happenings := List.replicate 4 (.publish (.plain "events" none []) 0) ++
      List.replicate 8 (.move .loop) ++ [.rebalance] ++ List.replicate 21 (.move .loop)
    config.validate = .ok () ∧ (∀ happening ∈ happenings, happening.Accepted) ∧
      (d.after happenings).run.loop.isPolling = true ∧ (d.after happenings).gate.paused = true ∧
      (d.after happenings).gate.inFlight = 3 ∧ d.lapse none happenings = none ∧
      (d.after happenings).site.subscription.isPaused ⟨"events", 0⟩ = true := by
  intro config d happenings
  have valid : config.validate = .ok () := rfl
  have accepted : ∀ happening ∈ happenings, happening.Accepted := by
    simp only [happenings, List.mem_append, List.mem_replicate, List.mem_singleton]
    rintro happening (((⟨_, rfl⟩ | ⟨_, rfl⟩) | rfl) | ⟨_, rfl⟩) <;> trivial
  have polls : (d.after happenings).run.loop.isPolling = true := by decide +kernel
  have paused : (d.after happenings).gate.paused = true := by decide +kernel
  have none : d.lapse none happenings = none := by decide +kernel
  have assigned : ⟨"events", 0⟩ ∈ (d.after happenings).site.subscription.assignment := by
    decide +kernel
  have stands := (pauses_until_lapse (World.start [] fun _ => default) [] config 1 happenings valid
    accepted).1 polls _ assigned
  refine ⟨valid, accepted, polls, paused, by decide +kernel, none, stands.trans ?_⟩
  exact Bool.and_eq_true_iff.mpr ⟨paused, congrArg Option.isNone none⟩

/-- Partitions are assigned anew between two turns of the loop, while the gate is paused. The loop
polls with the gate paused and the only partition not paused, pulls a record, and has four records
in flight with a high mark of two. -/
theorem pauses_lapse :
    let config := { ConsumerConfig.standard with
      groupId := "group", topics := ["events"], highWatermark := 2, lowWatermark := 1 }
    let d := (start config 1 (World.start [] fun _ => default) []).after
      (List.replicate 4 (.publish (.plain "events" none []) 0) ++
        List.replicate 30 (.move .loop) ++ [.move .timeout])
    let polls := d.after (.rebalance :: List.replicate 2 (.move .loop))
    let sends := polls.after (List.replicate 6 (.move .loop))
    config.validate = .ok () ∧ d.run.loop.isChecking = true ∧ d.gate.paused = true ∧
      polls.run.loop.isPolling = true ∧ polls.gate.paused = true ∧
      polls.site.subscription.assignment = [⟨"events", 0⟩] ∧
      polls.site.subscription.isPaused ⟨"events", 0⟩ = false ∧
      (polls.step (.move .loop)).run.loop.isTagging = true ∧
      sends.gate.paused = true ∧ sends.gate.inFlight = 4 := by
  refine ⟨rfl, ?_⟩
  decide +kernel

end Deployment

end AlertRelay
