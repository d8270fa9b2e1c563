import AlertRelay.Proofs.Broker.Positions
import AlertRelay.Proofs.Relay.Clients
import AlertRelay.Relay.Site

/-!
# What the loop can do

A move of the consumer that is not a move of a worker polls, hands a record to its worker, drops a
record that has no worker, has queued records dropped, or changes nothing that matters to the
records on their way (`ConsumerRun.step_turns`).
-/

namespace AlertRelay

/-- Whether a step of a site leaves what is read, committed and held open as it was. -/
structure Site.Calm (before after : Site) : Prop where
  group : after.subscription.group = before.subscription.group
  positions : after.subscription.positions = before.subscription.positions
  generation : after.subscription.generation = before.subscription.generation
  log : after.world.log.Agrees before.world.log
  ledger : after.world.ledger = before.world.ledger
  transaction : ∀ i lane, after.world.transaction? i lane = before.world.transaction? i lane

theorem Site.Calm.refl (s : Site) : s.Calm s :=
  ⟨rfl, rfl, rfl, .refl _, rfl, fun _ _ => rfl⟩

/-- A poll that brings a record goes on behind it; any other poll changes no position. -/
theorem Site.fetch_cases (s : Site) :
    ((∀ r, (source.fetch s).1 ≠ .record r) ∧ s.Calm (source.fetch s).2) ∨
      ∃ tp offset r later, s.subscription.Serves tp offset later ∧
        s.world.log.record? tp offset = some r ∧
        source.fetch s = (.record r, { s with subscription := later }) := by
  have fetched : source.fetch s = (Site.fetched (s.subscription.poll s.world.log).1,
      { s with subscription := (s.subscription.poll s.world.log).2 }) := rfl
  rw [fetched]
  rcases s.subscription.poll_cases s.world.log with ⟨nothing, cursor, same⟩ | served
  · refine .inl ⟨fun r is => ?_, ?_⟩
    · unfold Site.fetched at is
      split at is
      · next found answer => exact nothing found answer
      · cases is
      · cases is
    · rw [same]
      exact ⟨rfl, rfl, rfl, .refl _, rfl, fun _ _ => rfl⟩
  · obtain ⟨tp, offset, r, later, serves, found, same⟩ := served
    refine .inr ⟨tp, offset, r, later, serves, found, ?_⟩
    rw [same]
    rfl

/-- To show a count changes nothing but what is shown. The count itself is better left alone: it is
a word of 64 bits. -/
theorem Shared.showInFlight_eq {ω : Type} (s : Shared ω) (count : Nat) :
    ∃ traffic, s.showInFlight count = { s with traffic := traffic } := ⟨_, rfl⟩

/-- The delivery that the loop has in hand, given the current assignment. -/
def LoopStage.carried (generation : Nat) : LoopStage → Option Delivery
  | tagging r => some ⟨r, generation⟩
  | measuring d | enqueuing d | showing d _ | sending d => some d
  | _ => none

namespace ConsumerRun

/-- The site of a run. -/
def site (r : ConsumerRun Interface.relay Site) : Site := r.shared.outside

/-- The delivery that the loop of a run has in hand. -/
def carried (r : ConsumerRun Interface.relay Site) : Option Delivery :=
  r.loop.carried r.site.subscription.generation

/-- What a move can do that is not a move of a worker. -/
inductive Turns (m : Move) (r later : ConsumerRun Interface.relay Site) : Prop where
  | quiet (workers : later.workers = r.workers) (site : r.site.Calm later.site)
      (carried : later.carried = r.carried)
      (closed : r.loop.queuesClosed = true → later.loop.queuesClosed = true)
      (abandoning : later.shared.shutdown.abandoning = r.shared.shutdown.abandoning)
  | fetch (rings : Nat) (loops : m = .loop) (polls : r.loop.isPolling = true)
      (same : later = r.goWith (.ofFetched rings (Site.source.fetch r.site).1)
        (r.withOutside (Site.source.fetch r.site).2))
  | send (x : Delivery) (k : Worker Interface.relay) (sends : r.loop = .sending x)
      (present : r.workers[r.workerOf x]? = some k) (active : k.hasEnded = false)
      (same : later = { r with
        loop := .checking
        workers := r.workers.set (r.workerOf x) { k with queue := k.queue ++ [x] } })
  | refuse (x : Delivery) (sends : r.loop = .sending x)
      (absent : ∀ k, r.workers[r.workerOf x]? = some k → k.hasEnded = true)
      (same : later = r.goWith .leaving { r.shared with gate := r.shared.gate.completed })
  | abandon (free : r.carried = none) (closed : r.loop.queuesClosed = true)
      (same : later = r.goWith (.idling .fresh)
        { r.shared with shutdown := r.shared.shutdown.abandon })

variable {r later : ConsumerRun Interface.relay Site} {m : Move}

theorem Turns.still {loop : LoopStage} {shared : Shared Site}
    (site : r.site.Calm shared.outside)
    (carried : loop.carried shared.outside.subscription.generation = r.carried)
    (closed : r.loop.queuesClosed = true → loop.queuesClosed = true)
    (abandoning : shared.shutdown.abandoning = r.shared.shutdown.abandoning) :
    Turns m r (r.goWith loop shared) :=
  .quiet rfl site carried closed abandoning

/-- What is not a move of a worker leaves the records and the commits of the log alone. -/
theorem Turns.log (turns : Turns m r later) : later.site.world.log.Agrees r.site.world.log := by
  cases turns with
  | quiet workers site carried closed abandoning => exact site.log
  | fetch rings loops polls same =>
      subst same
      change (Site.source.fetch r.site).2.world.log.Agrees r.site.world.log
      rcases r.site.fetch_cases with ⟨_, calm⟩ | ⟨tp, offset, found, next, _, _, same⟩
      · exact calm.log
      · rw [same]
        exact .refl _
  | send x k sends present active same =>
      subst same
      exact .refl _
  | refuse x sends absent same | abandon free closed same =>
      subst same
      exact .refl _

theorem carried_ofTransition (transition : GateTransition) (generation : Nat) :
    (LoopStage.ofTransition transition).carried generation = none := by
  cases transition <;> rfl

/-- To take down a measurement changes nothing but the traffic. -/
theorem measure_eq {I : Interface} {ω : Type} (c : Consumer I ω) (r : ConsumerRun I ω)
    (d : Delivery) : ∃ traffic, r.measure c d = { r.shared with traffic := traffic } := by
  unfold ConsumerRun.measure
  dsimp only
  split
  · exact ⟨_, rfl⟩
  · exact ⟨r.shared.traffic, rfl⟩

/-- After a poll, the loop has in hand what the poll has brought. -/
theorem carried_ofFetched {rings generation : Nat} {fetched : Fetched} :
    (LoopStage.ofFetched rings fetched).carried generation =
      match fetched with
      | .record r => some ⟨r, generation⟩
      | _ => none := by
  cases fetched with
  | record r => rfl
  | failed cause =>
      cases cause with
      | closed => rfl
      | _ =>
          unfold LoopStage.ofFetched
          dsimp only
          split <;> rfl
  | nothing | notYet => rfl

/-- A step of the loop is a turn. -/
theorem loopStep_turns {config : ConsumerConfig} {workers : Nat}
    (step : r.loopStep? (Site.consumer config workers) = some later) : Turns .loop r later := by
  obtain ⟨loop, crew, shared⟩ := r
  have calm := Site.Calm.refl shared.outside
  have fetches : ∀ rings, loop.isPolling = true →
      Turns .loop ⟨loop, crew, shared⟩ ((ConsumerRun.mk loop crew shared).goWith
        (.ofFetched rings (Site.source.fetch shared.outside).1)
        ((ConsumerRun.mk loop crew shared).withOutside (Site.source.fetch shared.outside).2)) :=
    fun rings polls => .fetch rings rfl polls rfl
  cases loop with
  | checking =>
      cases step
      refine .still calm ?_ (fun closed => by cases closed) rfl
      split <;> rfl
  | evaluating =>
      cases step
      exact .still calm (carried_ofTransition _ _) (fun closed => by cases closed) rfl
  | assigning transition =>
      cases step
      exact .still calm rfl (fun closed => by cases closed) rfl
  | turning transition partitions =>
      cases step
      refine .still ?_ rfl (fun closed => by cases closed) rfl
      cases transition with
      | pause => exact ⟨rfl, rfl, rfl, .refl _, rfl, fun _ _ => rfl⟩
      | resume => exact ⟨rfl, rfl, rfl, Log.ring_agrees _, rfl, fun _ _ => rfl⟩
      | hold => exact calm
  | showingPause =>
      cases step
      exact .still calm rfl (fun closed => by cases closed) rfl
  | polling =>
      cases step
      exact fetches _ rfl
  | waiting rings =>
      simp only [ConsumerRun.loopStep?] at step
      split at step
      · cases step
      · cases step
        exact fetches _ rfl
  | tagging record =>
      cases step
      exact .still calm rfl (fun closed => by cases closed) rfl
  | measuring d =>
      simp only [ConsumerRun.loopStep?, Option.some.injEq] at step
      subst step
      obtain ⟨traffic, same⟩ := measure_eq (Site.consumer config workers)
        ⟨.measuring d, crew, shared⟩ d
      rw [same]
      exact .still calm rfl (fun closed => by cases closed) rfl
  | enqueuing d =>
      cases step
      exact .still calm rfl (fun closed => by cases closed) rfl
  | showing d count =>
      simp only [ConsumerRun.loopStep?, Option.some.injEq] at step
      subst step
      obtain ⟨traffic, same⟩ := shared.showInFlight_eq count
      rw [same]
      exact .still calm rfl (fun closed => by cases closed) rfl
  | sending d =>
      simp only [ConsumerRun.loopStep?, ConsumerRun.send?] at step
      split at step
      · next absent =>
        cases step
        refine .refuse d rfl (fun k present => ?_) rfl
        rw [absent] at present
        cases present
      · next k present =>
        split at step
        · next ended =>
          cases step
          refine .refuse d rfl (fun other same => ?_) rfl
          cases present.symm.trans same
          exact ended
        · next active =>
          split at step
          · cases step
            exact .send d k rfl present (Bool.eq_false_iff.mpr active) rfl
          · cases step
  | blaming cause =>
      cases step
      exact .still calm rfl (fun closed => by cases closed) rfl
  | leaving =>
      cases step
      exact .still calm rfl (fun closed => by cases closed) rfl
  | draining | joining =>
      simp only [ConsumerRun.loopStep?] at step
      split at step
      · cases step
        exact .still calm rfl (fun _ => rfl) rfl
      · cases step
  | abandoning =>
      cases step
      exact .abandon rfl rfl rfl
  | idling wait =>
      cases wait with
      | finished =>
          cases step
          exact .still calm rfl (fun _ => rfl) rfl
      | fresh | listening calls | parked calls =>
          simp only [ConsumerRun.loopStep?] at step
          split at step
          · cases step
          · cases step
            exact .still calm rfl (fun _ => rfl) rfl
  | closing =>
      cases step
      exact .still ⟨rfl, rfl, rfl, Log.ring_agrees _, rfl, fun _ _ => rfl⟩ rfl (fun _ => rfl) rfl
  | settling =>
      simp only [ConsumerRun.loopStep?, Option.some.injEq] at step
      subst step
      obtain ⟨traffic, same⟩ := shared.showInFlight_eq shared.gate.inFlight
      rw [same]
      exact .still calm rfl (fun _ => rfl) rfl
  | returned result => cases step

/-- A loop that polls has nothing in hand, and its queues are open. -/
theorem carried_of_isPolling {stage : LoopStage} (polling : stage.isPolling = true)
    (generation : Nat) : stage.carried generation = none ∧ stage.queuesClosed = false := by
  cases stage with
  | polling | waiting rings => exact ⟨rfl, rfl⟩
  | _ => cases polling

/-- A move that is not a move of a worker. -/
theorem step_turns {config : ConsumerConfig} {workers : Nat} {m : Move}
    (other : ∀ id, m ≠ .worker id) (step : r.step? (Site.consumer config workers) m = some later) :
    Turns m r later := by
  have calm := Site.Calm.refl r.site
  cases m with
  | loop => exact loopStep_turns step
  | cancel =>
      simp only [ConsumerRun.step?, ConsumerRun.cancel?] at step
      split at step
      · next may =>
        cases step
        have free := carried_of_isPolling (Bool.and_eq_true_iff.mp may).1
        refine .quiet rfl calm (free _).1.symm (fun closed => ?_) rfl
        rw [(free 0).2] at closed
        cases closed
      · cases step
  | timeout =>
      obtain ⟨loop, crew, shared⟩ := r
      cases loop with
      | waiting rings =>
          cases step
          exact .quiet rfl calm rfl (fun closed => by cases closed) rfl
      | draining =>
          cases step
          exact .quiet rfl calm rfl (fun _ => rfl) rfl
      | _ => cases step
  | worker id => exact (other id rfl).elim
  | stop =>
      cases step
      exact .quiet rfl calm rfl id rfl

end ConsumerRun

end AlertRelay
