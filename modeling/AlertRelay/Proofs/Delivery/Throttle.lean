import AlertRelay.Proofs.Broker.Pauses
import AlertRelay.Proofs.Delivery.Deployment
import AlertRelay.Proofs.Delivery.Turns
import AlertRelay.Proofs.Gate

/-!
# The gate and the loop

The gate says whether the assigned partitions are to be paused; the subscription says whether they
are. The loop tells the subscription only when the gate turns. When all pauses are dropped while the
gate is paused, they are not set again until it has opened: this is a lapse.

What the loop and the workers do keeps to the gate but for lapses, and to a number of records in
flight (`ConsumerRun.Throttled`).
-/

namespace AlertRelay

namespace LoopStage

/-- Whether the loop is about to tell the subscription that the gate has turned. -/
def isTurning : LoopStage → Bool
  | assigning _ | turning _ _ => true
  | _ => false

theorem not_polling_and_tagging (stage : LoopStage) :
    (stage.isPolling && stage.isTagging) = false := by
  cases stage <;> rfl

/-- What holds of the gate and of the subscription at a stage of the loop. -/
def Accords (g : Gate) (s : Subscription) (lapse : Option Nat) : LoopStage → Prop
  | assigning transition => lapse = none ∧ g.Asks transition ∧ g.Eased
  | turning transition partitions =>
    lapse = none ∧ g.Asks transition ∧ g.Eased ∧ partitions = s.assignment
  | showingPause | polling | waiting _ => s.Stands (g.paused && lapse.isNone) ∧ g.Eased
  | tagging _ | measuring _ | enqueuing _ =>
    s.Stands (g.paused && lapse.isNone) ∧ g.inFlight ≤ g.high + lapse.getD 0
  | _ => s.Stands (g.paused && lapse.isNone)

variable {stage : LoopStage} {g later : Gate} {s after : Subscription} {lapse : Option Nat}

/-- Unless the loop is about to tell it, the subscription stands as the gate says. -/
theorem Accords.stands (accords : stage.Accords g s lapse) (apart : stage.isTurning = false) :
    s.Stands (g.paused && lapse.isNone) := by
  cases stage with
  | assigning transition | turning transition partitions => cases apart
  | showingPause | polling | waiting rings | tagging r | measuring d | enqueuing d =>
      exact accords.1
  | _ => exact accords

/-- Where the loop polls, the subscription stands as the gate says, and an open gate has room. -/
theorem Accords.polling (accords : stage.Accords g s lapse) (polls : stage.isPolling = true) :
    s.Stands (g.paused && lapse.isNone) ∧ g.Eased := by
  cases stage with
  | polling | waiting rings => exact accords
  | _ => cases polls

/-- A stage accords with a gate that was relieved and a subscription that was left alone. -/
theorem Accords.around (accords : stage.Accords g s lapse) (relieved : g.Relieved later)
    (steady : s.Steady after) : stage.Accords later after lapse := by
  have asks : ∀ transition, g.Asks transition → later.Asks transition := by
    intro transition asked
    cases transition with
    | pause | resume => exact relieved.paused.trans asked
    | hold => exact asked
  cases stage with
  | assigning transition => exact ⟨accords.1, asks _ accords.2.1, relieved.eased accords.2.2⟩
  | turning transition partitions =>
      obtain ⟨none, asked, eased, whole⟩ := accords
      exact ⟨none, asks _ asked, relieved.eased eased, whole.trans steady.assignment.symm⟩
  | showingPause | polling | waiting rings =>
      refine ⟨?_, relieved.eased accords.2⟩
      rw [relieved.paused]
      exact steady.stands accords.1
  | tagging r | measuring d | enqueuing d =>
      refine ⟨?_, ?_⟩
      · rw [relieved.paused]
        exact steady.stands accords.1
      · rw [relieved.high]
        exact Nat.le_trans relieved.inFlight accords.2
  | _ =>
      have stands := steady.stands accords
      rw [← relieved.paused] at stands
      exact stands

/-- No pause is left. What the gate says holds still if it is open, or if there is a lapse now, or
if the loop has yet to tell the subscription. -/
theorem Accords.drop {begun : Option Nat} (accords : stage.Accords g s lapse)
    (assignment : after.assignment = s.assignment) (dropped : after.Stands false)
    (count : begun.getD 0 = lapse.getD 0)
    (apart : stage.isTurning = false → (g.paused && begun.isNone) = false)
    (turning : stage.isTurning = true → begun = lapse) : stage.Accords g after begun := by
  cases stage with
  | assigning transition =>
      rw [turning rfl]
      exact accords
  | turning transition partitions =>
      rw [turning rfl]
      exact ⟨accords.1, accords.2.1, accords.2.2.1, accords.2.2.2.trans assignment.symm⟩
  | showingPause | polling | waiting rings =>
      refine ⟨?_, accords.2⟩
      rw [apart rfl]
      exact dropped
  | tagging r | measuring d | enqueuing d =>
      refine ⟨?_, ?_⟩
      · rw [apart rfl]
        exact dropped
      · rw [count]
        exact accords.2
  | _ =>
      have stands : after.Stands (g.paused && begun.isNone) := by
        rw [apart rfl]
        exact dropped
      exact stands

/-- A poll that brings no record leads to another look, to leaving, to an error or to a wait. -/
theorem ofFetched_cases (rings : Nat) {fetched : Fetched} (nothing : ∀ r, fetched ≠ .record r) :
    ofFetched rings fetched = checking ∨ ofFetched rings fetched = leaving ∨
      (∃ cause, ofFetched rings fetched = blaming cause) ∨
      ofFetched rings fetched = waiting rings := by
  cases fetched with
  | record r => exact (nothing r rfl).elim
  | failed cause =>
      cases cause with
      | closed => exact .inr (.inl rfl)
      | _ =>
          unfold LoopStage.ofFetched
          dsimp only
          split
          · exact .inl rfl
          · exact .inr (.inr (.inl ⟨_, rfl⟩))
  | nothing => exact .inl rfl
  | notYet => exact .inr (.inr (.inr rfl))

end LoopStage

namespace ConsumerRun

/-- What a move makes of a lapse: the gate ends it when it opens, and a record that is polled in it
is counted. -/
def lapseTo (r later : ConsumerRun Interface.relay Site) (lapse : Option Nat) : Option Nat :=
  if later.shared.gate.paused then
    if r.loop.isPolling && later.loop.isTagging then lapse.map (· + 1) else lapse
  else none

theorem lapseTo_none (r later : ConsumerRun Interface.relay Site) :
    r.lapseTo later none = none := by
  unfold ConsumerRun.lapseTo
  split
  · split <;> rfl
  · rfl

/-- Whether a run keeps to what its gate and the high mark say but for a lapse. -/
structure Throttled (r : ConsumerRun Interface.relay Site) (high : Nat) (lapse : Option Nat) :
    Prop where
  high : r.shared.gate.high = high
  marks : r.shared.gate.low ≤ r.shared.gate.high
  lapses : r.shared.gate.paused = false → lapse = none
  bounded : r.shared.gate.inFlight ≤ r.shared.gate.high + 1 + lapse.getD 0
  accords : r.loop.Accords r.shared.gate r.site.subscription lapse

variable {r later : ConsumerRun Interface.relay Site} {high : Nat} {lapse : Option Nat}

/-- A move that leaves the gate alone and polls nothing leaves the lapse as it is. -/
theorem Throttled.lapseTo_eq (throttled : r.Throttled high lapse)
    (paused : later.shared.gate.paused = r.shared.gate.paused)
    (quiet : (r.loop.isPolling && later.loop.isTagging) = false) :
    r.lapseTo later lapse = lapse := by
  unfold ConsumerRun.lapseTo
  rw [paused, quiet]
  split
  · rfl
  · next opened => exact (throttled.lapses (Bool.eq_false_iff.mpr opened)).symm

/-- A step that polls no record and turns no gate. -/
theorem Throttled.still (throttled : r.Throttled high lapse)
    (relieved : r.shared.gate.Relieved later.shared.gate)
    (quiet : (r.loop.isPolling && later.loop.isTagging) = false)
    (accords : later.loop.Accords later.shared.gate later.site.subscription lapse) :
    later.Throttled high (r.lapseTo later lapse) := by
  rw [throttled.lapseTo_eq relieved.paused quiet]
  refine ⟨relieved.high.trans throttled.high, ?_, ?_, ?_, accords⟩
  · rw [relieved.high, relieved.low]
    exact throttled.marks
  · rw [relieved.paused]
    exact throttled.lapses
  · rw [relieved.high]
    exact Nat.le_trans relieved.inFlight throttled.bounded

/-- A step around a loop that stays where it is. -/
theorem Throttled.around (throttled : r.Throttled high lapse) (loop : later.loop = r.loop)
    (relieved : r.shared.gate.Relieved later.shared.gate)
    (steady : r.site.subscription.Steady later.site.subscription) :
    later.Throttled high (r.lapseTo later lapse) := by
  refine throttled.still relieved ?_ ?_
  · rw [loop]
    exact r.loop.not_polling_and_tagging
  · rw [loop]
    exact throttled.accords.around relieved steady

/-- A subscription that is paused as a whole hands out nothing. -/
theorem fetch_brings_nothing {s : Site} (stands : s.subscription.Stands true) (found : Record) :
    (Site.source.fetch s).1 ≠ .record found := by
  intro same
  change Site.fetched (s.subscription.poll s.world.log).1 = .record found at same
  unfold Site.fetched at same
  split at same
  · next r answer => exact Subscription.poll_of_paused stands r answer
  · cases same
  · cases same

/-- An open gate has room for a record that is polled; a paused one is in a lapse, which counts it.
-/
theorem Throttled.room (throttled : r.Throttled high lapse) (polls : r.loop.isPolling = true)
    {found : Record} (brings : (Site.source.fetch r.site).1 = .record found) :
    r.shared.gate.inFlight ≤ r.shared.gate.high + (lapse.map (· + 1)).getD 0 := by
  obtain ⟨stands, eased⟩ := throttled.accords.polling polls
  cases paused : r.shared.gate.paused with
  | false => exact Nat.le_trans (eased paused) (Nat.le_add_right _ _)
  | true =>
      cases lapse with
      | none =>
          rw [paused] at stands
          exact (fetch_brings_nothing stands found brings).elim
      | some count =>
          have bounded := throttled.bounded
          simp only [Option.getD_some, Option.map_some] at bounded ⊢
          omega

/-- A poll keeps a run throttled, and a record that it brings in a lapse is counted. -/
theorem Throttled.fetch (throttled : r.Throttled high lapse) (rings : Nat)
    (polls : r.loop.isPolling = true) :
    let later := r.goWith (.ofFetched rings (Site.source.fetch r.site).1)
      (r.withOutside (Site.source.fetch r.site).2)
    later.Throttled high (r.lapseTo later lapse) := by
  intro later
  obtain ⟨stands, eased⟩ := throttled.accords.polling polls
  have steady : r.site.subscription.Steady later.site.subscription :=
    r.site.subscription.steady_poll r.site.world.log
  have gate : later.shared.gate = r.shared.gate := rfl
  have onward : later.loop = .ofFetched rings (Site.source.fetch r.site).1 := rfl
  by_cases brings : ∃ found, (Site.source.fetch r.site).1 = .record found
  · obtain ⟨found, brings⟩ := brings
    have room := throttled.room polls brings
    rw [brings] at onward
    have tagging : later.loop = .tagging found := onward
    have counted : r.lapseTo later lapse = lapse.map (· + 1) := by
      unfold ConsumerRun.lapseTo
      rw [polls, tagging, gate]
      by_cases paused : r.shared.gate.paused = true
      · rw [if_pos paused]
        rfl
      · rw [if_neg paused, throttled.lapses (Bool.eq_false_iff.mpr paused)]
        rfl
    rw [counted]
    -- The record is not in flight yet, so that `still` does not say what is known of it.
    refine ⟨throttled.high, throttled.marks, fun opened => ?_, ?_, ?_⟩
    · rw [throttled.lapses opened]
      rfl
    · rw [gate]
      omega
    · rw [tagging]
      refine ⟨?_, room⟩
      rw [Option.isNone_map]
      exact steady.stands stands
  · have nothing : ∀ found, (Site.source.fetch r.site).1 ≠ .record found := by
      intro found same
      exact brings ⟨found, same⟩
    have after := steady.stands stands
    have onto := LoopStage.ofFetched_cases rings nothing
    rw [← onward] at onto
    refine throttled.still (.refl _) ?_ ?_
    · rcases onto with same | same | ⟨_, same⟩ | same <;> rw [same] <;> exact Bool.and_false _
    · rcases onto with same | same | ⟨_, same⟩ | same
      · rw [same]
        exact after
      · rw [same]
        exact after
      · rw [same]
        exact after
      · rw [same]
        exact ⟨after, eased⟩

/-- The gate has turned, and there is no lapse. -/
theorem Throttled.decided {transition : GateTransition} {paused : Bool}
    (throttled : r.Throttled high lapse) (loop : later.loop = .assigning transition)
    (gate : later.shared.gate = { r.shared.gate with paused := paused })
    (asked : later.shared.gate.Asks transition) (eased : later.shared.gate.Eased)
    (bounded : r.shared.gate.inFlight ≤ r.shared.gate.high + 1) : later.Throttled high none := by
  refine ⟨?_, ?_, fun _ => rfl, ?_, ?_⟩
  · rw [gate]
    exact throttled.high
  · rw [gate]
    exact throttled.marks
  · rw [gate]
    exact bounded
  · rw [loop]
    exact ⟨rfl, asked, eased⟩

/-- A look at the gate keeps a run throttled. -/
theorem Throttled.evaluate (throttled : r.Throttled high lapse) (evaluates : r.loop = .evaluating) :
    let later := r.goWith (.ofTransition r.shared.gate.evaluate.1)
      { r.shared with gate := r.shared.gate.evaluate.2 }
    later.Throttled high (r.lapseTo later lapse) := by
  intro later
  have polls : r.loop.isPolling = false := by
    rw [evaluates]
    rfl
  have gate : later.shared.gate = r.shared.gate.evaluate.2 := rfl
  have loop : later.loop = .ofTransition r.shared.gate.evaluate.1 := rfl
  have onward : r.lapseTo later lapse = if later.shared.gate.paused then lapse else none := by
    unfold ConsumerRun.lapseTo
    rw [polls, Bool.false_and]
    rfl
  rcases r.shared.gate.evaluate_cases with
    ⟨same, opened⟩ | ⟨same, paused, below⟩ | ⟨same, eased⟩
  · -- A gate that was open knows no lapse.
    rw [same] at gate loop
    have none := throttled.lapses opened
    have bounded := throttled.bounded
    rw [none] at bounded
    rw [onward, none, ite_self]
    refine throttled.decided loop gate ?_ ?_ bounded
    · rw [gate]
      rfl
    · rw [gate]
      intro opened
      cases opened
  · -- The count is below the low mark, so that a lapse ends with room for a record.
    rw [same] at gate loop
    have room : r.shared.gate.inFlight ≤ r.shared.gate.high :=
      Nat.le_trans (Nat.le_of_lt below) throttled.marks
    have ended : r.lapseTo later lapse = none := by
      rw [onward, gate]
      rfl
    rw [ended]
    refine throttled.decided loop gate ?_ ?_ (Nat.le_trans room (Nat.le_add_right _ _))
    · rw [gate]
      rfl
    · rw [gate]
      exact fun _ => room
  · rw [same] at gate loop
    have stands : r.site.subscription.Stands (r.shared.gate.paused && lapse.isNone) :=
      throttled.accords.stands (by rw [evaluates]; rfl)
    refine throttled.still ?_ ?_ ?_
    · rw [gate]
      exact .refl _
    · rw [polls, Bool.false_and]
    · rw [gate, loop]
      exact ⟨stands, eased⟩

/-- The subscription is told what the gate has turned to. -/
theorem Throttled.turn {config : ConsumerConfig} {workers : Nat} {transition : GateTransition}
    {partitions : List TopicPartition} (throttled : r.Throttled high lapse)
    (turns : r.loop = .turning transition partitions) :
    let later := r.goWith .showingPause (r.withOutside
      (turn (Site.consumer config workers) transition partitions r.site))
    later.Throttled high (r.lapseTo later lapse) := by
  intro later
  have accords := throttled.accords
  rw [turns] at accords
  obtain ⟨rfl, asked, eased, rfl⟩ := accords
  refine throttled.still (.refl _) (by rw [turns]; rfl) ⟨?_, eased⟩
  cases transition with
  | pause =>
      rw [show later.shared.gate.paused = true from asked]
      exact r.site.subscription.stands_pause
  | resume =>
      rw [show later.shared.gate.paused = false from asked]
      exact r.site.subscription.stands_resume r.site.world.log
  | hold => exact asked.elim

/-- To put a delivery into a queue keeps a run throttled. -/
theorem Throttled.enqueue {x : Delivery} (throttled : r.Throttled high lapse)
    (enqueues : r.loop = .enqueuing x) :
    let later := r.goWith (.showing x r.shared.gate.enqueued.inFlight)
      { r.shared with gate := r.shared.gate.enqueued }
    later.Throttled high (r.lapseTo later lapse) := by
  intro later
  have accords := throttled.accords
  rw [enqueues] at accords
  obtain ⟨stands, room⟩ := accords
  have kept : r.lapseTo later lapse = lapse :=
    throttled.lapseTo_eq rfl (by rw [enqueues]; rfl)
  rw [kept]
  have counted : r.shared.gate.inFlight + 1 ≤ r.shared.gate.high + 1 + lapse.getD 0 := by omega
  exact ⟨throttled.high, throttled.marks, throttled.lapses, counted, stands⟩

/-- A step of the loop. -/
theorem Throttled.loopStep {config : ConsumerConfig} {workers : Nat}
    (throttled : r.Throttled high lapse)
    (step : r.loopStep? (Site.consumer config workers) = some later) :
    later.Throttled high (r.lapseTo later lapse) := by
  obtain ⟨loop, crew, shared⟩ := r
  have accords := throttled.accords
  have same : shared.gate.Relieved shared.gate := .refl _
  cases loop with
  | checking =>
      cases step
      refine throttled.still same rfl ?_
      dsimp only [ConsumerRun.goTo]
      split
      · exact accords
      · exact accords
  | evaluating =>
      cases step
      exact throttled.evaluate rfl
  | assigning transition =>
      cases step
      exact throttled.still same rfl ⟨accords.1, accords.2.1, accords.2.2, rfl⟩
  | turning transition partitions =>
      cases step
      exact throttled.turn rfl
  | showingPause =>
      cases step
      exact throttled.still same rfl accords
  | polling =>
      cases step
      exact throttled.fetch _ rfl
  | waiting rings =>
      simp only [ConsumerRun.loopStep?] at step
      split at step
      · cases step
      · cases step
        exact throttled.fetch _ rfl
  | tagging record =>
      cases step
      exact throttled.still same rfl accords
  | measuring d =>
      simp only [ConsumerRun.loopStep?, Option.some.injEq] at step
      subst step
      obtain ⟨traffic, measured⟩ := measure_eq (Site.consumer config workers)
        ⟨.measuring d, crew, shared⟩ d
      rw [measured]
      exact throttled.still same rfl accords
  | enqueuing d =>
      cases step
      exact throttled.enqueue rfl
  | showing d count =>
      simp only [ConsumerRun.loopStep?, Option.some.injEq] at step
      subst step
      obtain ⟨traffic, shown⟩ := shared.showInFlight_eq count
      rw [shown]
      exact throttled.still same rfl accords
  | sending d =>
      have gone := shared.gate.relieved_completed
      have refused : LoopStage.leaving.Accords shared.gate.completed
          shared.outside.subscription lapse := accords
      simp only [ConsumerRun.loopStep?, ConsumerRun.send?] at step
      split at step
      · cases step
        exact throttled.still gone rfl refused
      · split at step
        · cases step
          exact throttled.still gone rfl refused
        · split at step
          · cases step
            exact throttled.still same rfl accords
          · cases step
  | draining | joining =>
      simp only [ConsumerRun.loopStep?] at step
      split at step
      · cases step
        exact throttled.still same rfl accords
      · cases step
  | idling wait =>
      cases wait with
      | finished =>
          cases step
          exact throttled.still same rfl accords
      | fresh | listening calls | parked calls =>
          simp only [ConsumerRun.loopStep?] at step
          split at step
          · cases step
          · cases step
            exact throttled.still same rfl accords
  | blaming cause | leaving | abandoning | closing =>
      cases step
      exact throttled.still same rfl accords
  | settling =>
      simp only [ConsumerRun.loopStep?, Option.some.injEq] at step
      subst step
      obtain ⟨traffic, shown⟩ := shared.showInFlight_eq shared.gate.inFlight
      rw [shown]
      exact throttled.still same rfl accords
  | returned result => cases step

/-- A move that is not a move of a worker. -/
theorem Throttled.step {config : ConsumerConfig} {workers : Nat} {m : Move}
    (throttled : r.Throttled high lapse) (other : ∀ id, m ≠ .worker id)
    (step : r.step? (Site.consumer config workers) m = some later) :
    later.Throttled high (r.lapseTo later lapse) := by
  cases m with
  | loop => exact throttled.loopStep step
  | cancel =>
      simp only [ConsumerRun.step?, ConsumerRun.cancel?] at step
      split at step
      · next may =>
        cases step
        have polls := (Bool.and_eq_true_iff.mp may).1
        exact throttled.still (.refl _) (Bool.and_false _) (throttled.accords.polling polls).1
      · cases step
  | timeout =>
      obtain ⟨loop, crew, shared⟩ := r
      cases loop with
      | waiting rings =>
          cases step
          exact throttled.still (.refl _) rfl throttled.accords.1
      | draining =>
          cases step
          exact throttled.still (.refl _) rfl throttled.accords
      | _ => cases step
  | worker id => exact (other id rfl).elim
  | stop =>
      cases step
      exact throttled.around rfl (.refl _) (.refl _)

end ConsumerRun

namespace Worker

/-- A step of a worker has at most one record done with, and pauses or resumes nothing. -/
theorem step_relieves {config : ConsumerConfig} {s : RelaySettings} {workers : Nat} {closed : Bool}
    {id : Nat} {shared after : Shared Site} {k later : Worker Interface.relay}
    (step : k.step? (Site.consumer config workers) id (Site.handler s) closed shared =
      some (later, after)) :
    shared.gate.Relieved after.gate ∧
      shared.outside.subscription.Steady after.outside.subscription := by
  obtain ⟨stage, queue, redeliveries, failed⟩ := k
  have same : shared.gate.Relieved shared.gate ∧
      shared.outside.subscription.Steady shared.outside.subscription := ⟨.refl _, .refl _⟩
  cases stage with
  | idle =>
      cases queue with
      | cons d rest =>
          cases step
          exact same
      | nil =>
          simp only [Worker.step?] at step
          split at step
          · cases step
            exact same
          · cases step
  | handling d work | settingAside d _ work =>
      cases work with
      | _ =>
          cases step
          exact same
  | rewinding d | failing d cause =>
      cases step
      exact ⟨.refl _, shared.outside.subscription.steady_seek shared.outside.world.log
        d.record.topicPartition d.record.offset⟩
  | finishing =>
      cases step
      exact ⟨shared.gate.relieved_completed, .refl _⟩
  | showing count =>
      simp only [Worker.step?, Option.some.injEq, Prod.mk.injEq] at step
      obtain ⟨_, rfl⟩ := step
      obtain ⟨traffic, shown⟩ := shared.showInFlight_eq count
      rw [shown]
      exact same
  | exited | crashed => cases step
  | _ =>
      cases step
      exact same

end Worker

end AlertRelay
