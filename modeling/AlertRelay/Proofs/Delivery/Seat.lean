import AlertRelay.Proofs.Broker.Pauses
import AlertRelay.Proofs.Delivery.Ending

/-!
# Runs over a subscription

A consumer reads from a subscription that sits somewhere in the state outside (`Seat`). As long as
the partitions are not assigned anew, a paused gate lets no record through, so that at most one
record more than the high mark is in flight (`ConsumerRun.Heedful`). All of them fit into one queue:
a send never waits (`Seat.send_never_waits`). Only where queues of the accepted capacity cannot be
made there is no run at all (`Seat.queue_too_large`).
-/

namespace AlertRelay

variable {I : Interface} {ω : Type}

/-- A subscription and its log within a state. -/
structure Seat (ω : Type) where
  subscription : ω → Subscription
  log : ω → Log
  put : Subscription → Log → ω → ω
  subscription_put : ∀ s l w, subscription (put s l w) = s
  log_put : ∀ s l w, log (put s l w) = l

namespace Seat

/-- The subscription as a source of records. -/
def source (v : Seat ω) : RecordSource ω where
  fetch w :=
    let (answer, s) := (v.subscription w).poll (v.log w)
    (Site.fetched answer, v.put s (v.log w) w)
  rings w := (v.log w).rings
  generation w := (v.subscription w).generation
  assignment w := .ok (v.subscription w).assignment
  pause tps w := (.ok (), v.put ((v.subscription w).pause tps) (v.log w) w)
  resume tps w :=
    let (s, l) := (v.subscription w).resume (v.log w) tps
    (.ok (), v.put s l w)
  seek tp offset w :=
    let (sought, s, l) := (v.subscription w).seek (v.log w) tp offset
    (sought, v.put s l w)
  highWatermark tp w := .ok ((v.log w).highWatermark? tp)
  close w :=
    let (s, l) := (v.subscription w).close (v.log w)
    (.ok (), v.put s l w)

/-- A seat in nothing else. -/
def alone : Seat (Subscription × Log) :=
  ⟨Prod.fst, Prod.snd, fun s l _ => (s, l), fun _ _ _ => rfl, fun _ _ _ => rfl⟩

end Seat

namespace LoopStage

/-- What holds of the gate and of the subscription at a stage of the loop. -/
def Heeds (g : Gate) (s : Subscription) : LoopStage → Prop
  | assigning transition => g.Asks transition ∧ g.Eased
  | turning transition partitions =>
    g.Asks transition ∧ g.Eased ∧ partitions = s.assignment
  | showingPause | polling | waiting _ => (g.paused = true → s.Stands true) ∧ g.Eased
  | tagging _ | measuring _ | enqueuing _ =>
    (g.paused = true → s.Stands true) ∧ g.inFlight ≤ g.high
  | _ => g.paused = true → s.Stands true

variable {stage : LoopStage} {g later : Gate} {s after : Subscription}

/-- A loop that polls while the gate is paused has all partitions paused, and the gate is eased. -/
theorem Heeds.polling (heeds : stage.Heeds g s) (polls : stage.isPolling = true) :
    (g.paused = true → s.Stands true) ∧ g.Eased := by
  cases stage with
  | polling | waiting rings => exact heeds
  | _ => cases polls

/-- A stage heeds the gate also when it has been relieved and the pauses are as they were. -/
theorem Heeds.around (heeds : stage.Heeds g s) (relieved : g.Relieved later)
    (steady : s.Steady after) : stage.Heeds later after := by
  have asks : ∀ transition, g.Asks transition → later.Asks transition := by
    intro transition asked
    cases transition with
    | pause | resume => exact relieved.paused.trans asked
    | hold => exact asked
  have stands : (g.paused = true → s.Stands true) → later.paused = true → after.Stands true := by
    intro before paused
    rw [relieved.paused] at paused
    exact steady.stands (before paused)
  cases stage with
  | assigning transition => exact ⟨asks _ heeds.1, relieved.eased heeds.2⟩
  | turning transition partitions =>
      obtain ⟨asked, eased, whole⟩ := heeds
      exact ⟨asks _ asked, relieved.eased eased, whole.trans steady.assignment.symm⟩
  | showingPause | polling | waiting rings => exact ⟨stands heeds.1, relieved.eased heeds.2⟩
  | tagging r | measuring d | enqueuing d =>
      refine ⟨stands heeds.1, ?_⟩
      rw [relieved.high]
      exact Nat.le_trans relieved.inFlight heeds.2
  | _ => exact stands heeds

end LoopStage

namespace ConsumerRun

/-- Whether a run keeps to what its gate says. -/
structure Heedful (v : Seat ω) (c : Consumer I ω) (r : ConsumerRun I ω) : Prop where
  high : r.shared.gate.high = c.config.highWatermark
  low : r.shared.gate.low = c.config.lowWatermark
  bounded : r.shared.gate.inFlight ≤ r.shared.gate.high + 1
  heeds : r.loop.Heeds r.shared.gate (v.subscription r.shared.outside)

variable {v : Seat ω} {c : Consumer I ω} {r later : ConsumerRun I ω} {m : Move}

/-- A step that turns no gate and counts no record in. -/
theorem Heedful.onward (heedful : r.Heedful v c)
    (relieved : r.shared.gate.Relieved later.shared.gate)
    (heeds : later.loop.Heeds later.shared.gate (v.subscription later.shared.outside)) :
    later.Heedful v c := by
  refine ⟨relieved.high.trans heedful.high, relieved.low.trans heedful.low, ?_, heeds⟩
  rw [relieved.high]
  exact Nat.le_trans relieved.inFlight heedful.bounded

/-- A poll heeds the gate: from paused partitions it brings nothing. -/
theorem Heedful.fetch (heedful : r.Heedful v c) (source : c.source = v.source)
    (polls : r.loop.isPolling = true) : (r.fetch c).Heedful v c := by
  obtain ⟨stands, eased⟩ := heedful.heeds.polling polls
  refine heedful.onward (.refl _) ?_
  unfold ConsumerRun.fetch ConsumerRun.goWith ConsumerRun.withOutside
  rw [source]
  dsimp only [Seat.source]
  rw [v.subscription_put]
  have steady := (v.subscription r.shared.outside).steady_poll (v.log r.shared.outside)
  have after : r.shared.gate.paused = true →
      ((v.subscription r.shared.outside).poll (v.log r.shared.outside)).2.Stands true :=
    fun paused => steady.stands (stands paused)
  cases brings : ((v.subscription r.shared.outside).poll (v.log r.shared.outside)).1 with
  | error cause => cases cause <;> exact after
  | ok found =>
      cases found with
      | none => exact ⟨after, eased⟩
      | some record =>
          refine ⟨after, eased (Bool.eq_false_iff.mpr fun paused => ?_)⟩
          exact Subscription.poll_of_paused (stands paused) record brings

/-- A look at the gate heeds it: what it asks for is done next. -/
theorem Heedful.evaluate (heedful : r.Heedful v c) (marks : r.shared.gate.low ≤ r.shared.gate.high)
    (evaluates : r.loop = .evaluating) :
    (r.goWith (.ofTransition r.shared.gate.evaluate.1)
      { r.shared with gate := r.shared.gate.evaluate.2 }).Heedful v c := by
  have stands := heedful.heeds
  rw [evaluates] at stands
  obtain ⟨high, low, bounded, _⟩ := heedful
  rcases r.shared.gate.evaluate_cases with
    ⟨same, opened⟩ | ⟨same, paused, below⟩ | ⟨same, eased⟩
  · rw [same]
    exact ⟨high, low, bounded, rfl, fun opened => by cases opened⟩
  · rw [same]
    exact ⟨high, low, bounded, rfl, fun _ => Nat.le_trans (Nat.le_of_lt below) marks⟩
  · rw [same]
    exact ⟨high, low, bounded, stands, eased⟩

/-- To turn the partitions heeds the gate. -/
theorem Heedful.turn {transition : GateTransition} {partitions : List TopicPartition}
    (heedful : r.Heedful v c) (source : c.source = v.source)
    (turns : r.loop = .turning transition partitions) :
    (r.goWith .showingPause
      (r.withOutside (turn c transition partitions r.shared.outside))).Heedful v c := by
  have heeds := heedful.heeds
  rw [turns] at heeds
  obtain ⟨asked, eased, rfl⟩ := heeds
  refine heedful.onward (.refl _) ⟨fun paused => ?_, eased⟩
  unfold ConsumerRun.goWith ConsumerRun.withOutside ConsumerRun.turn
  rw [source]
  cases transition with
  | pause =>
      dsimp only [Seat.source]
      rw [v.subscription_put]
      exact Subscription.stands_pause _
  | resume =>
      change r.shared.gate.paused = true at paused
      rw [show r.shared.gate.paused = false from asked] at paused
      cases paused
  | hold => exact asked.elim

/-- Every step of the loop keeps to the gate. -/
theorem Heedful.loopStep (heedful : r.Heedful v c) (source : c.source = v.source)
    (marks : r.shared.gate.low ≤ r.shared.gate.high) (step : r.loopStep? c = some later) :
    later.Heedful v c := by
  have heeds := heedful.heeds
  cases loop : r.loop with
  | evaluating =>
      simp only [ConsumerRun.loopStep?, loop, Option.some.injEq] at step
      subst step
      exact heedful.evaluate marks loop
  | polling =>
      simp only [ConsumerRun.loopStep?, loop, Option.some.injEq] at step
      subst step
      exact heedful.fetch source (by rw [loop]; rfl)
  | waiting rings =>
      simp only [ConsumerRun.loopStep?, loop] at step
      split at step <;> cases step
      exact heedful.fetch source (by rw [loop]; rfl)
  | turning transition partitions =>
      simp only [ConsumerRun.loopStep?, loop, Option.some.injEq] at step
      subst step
      exact heedful.turn source loop
  | enqueuing d =>
      simp only [ConsumerRun.loopStep?, loop, Option.some.injEq] at step
      subst step
      rw [loop] at heeds
      exact ⟨heedful.high, heedful.low, Nat.succ_le_succ heeds.2, heeds.1⟩
  | assigning transition =>
      simp only [ConsumerRun.loopStep?, loop, source, Seat.source, Option.some.injEq] at step
      subst step
      rw [loop] at heeds
      exact heedful.onward (.refl _) ⟨heeds.1, heeds.2, rfl⟩
  | checking =>
      simp only [ConsumerRun.loopStep?, loop, Option.some.injEq] at step
      subst step
      rw [loop] at heeds
      refine heedful.onward (.refl _) ?_
      unfold ConsumerRun.goTo
      dsimp only
      split <;> exact heeds
  | measuring d =>
      simp only [ConsumerRun.loopStep?, loop, Option.some.injEq] at step
      subst step
      obtain ⟨traffic, measured⟩ := measure_eq c r d
      rw [measured]
      rw [loop] at heeds
      exact heedful.onward (.refl _) heeds
  | showing d count =>
      simp only [ConsumerRun.loopStep?, loop, Option.some.injEq] at step
      subst step
      obtain ⟨traffic, shown⟩ := r.shared.showInFlight_eq count
      rw [shown]
      rw [loop] at heeds
      exact heedful.onward (.refl _) heeds
  | settling =>
      simp only [ConsumerRun.loopStep?, loop, Option.some.injEq] at step
      subst step
      obtain ⟨traffic, shown⟩ := r.shared.showInFlight_eq r.shared.gate.inFlight
      rw [shown]
      rw [loop] at heeds
      exact heedful.onward (.refl _) heeds
  | sending d =>
      simp only [ConsumerRun.loopStep?, ConsumerRun.send?, loop] at step
      rw [loop] at heeds
      have refuse : (r.goWith .leaving { r.shared with gate := r.shared.gate.completed }).Heedful
          v c := heedful.onward (Gate.relieved_completed _) heeds
      split at step
      · cases step
        exact refuse
      · split at step
        · cases step
          exact refuse
        · split at step <;> cases step
          exact heedful.onward (.refl _) heeds
  | closing =>
      simp only [ConsumerRun.loopStep?, loop, source, Seat.source, Option.some.injEq] at step
      subst step
      rw [loop] at heeds
      refine heedful.onward (.refl _) fun paused => ?_
      unfold ConsumerRun.goWith ConsumerRun.withOutside
      dsimp only
      rw [v.subscription_put]
      exact heeds paused
  | draining | joining =>
      simp only [ConsumerRun.loopStep?, loop] at step
      rw [loop] at heeds
      split at step <;> cases step
      exact heedful.onward (.refl _) heeds
  | idling wait =>
      rw [loop] at heeds
      cases wait with
      | finished =>
          simp only [ConsumerRun.loopStep?, loop, Option.some.injEq] at step
          subst step
          exact heedful.onward (.refl _) heeds
      | fresh | listening calls | parked calls =>
          simp only [ConsumerRun.loopStep?, loop] at step
          split at step <;> cases step
          exact heedful.onward (.refl _) heeds
  | returned result =>
      simp only [ConsumerRun.loopStep?, loop] at step
      cases step
  | showingPause | tagging record | blaming cause | leaving | abandoning =>
      simp only [ConsumerRun.loopStep?, loop, Option.some.injEq] at step
      subst step
      rw [loop] at heeds
      exact heedful.onward (.refl _) heeds

/-- Every move keeps to the gate, if what workers ask for does not assign partitions anew. -/
theorem Heedful.step (heedful : r.Heedful v c) (source : c.source = v.source)
    (marks : c.config.lowWatermark ≤ c.config.highWatermark)
    (replies : ∀ id request w, (v.subscription w).Steady (v.subscription (c.reply id request w).2))
    (step : r.step? c m = some later) : later.Heedful v c := by
  have heeds := heedful.heeds
  cases moved_of_step step with
  | loop step =>
      rw [← heedful.high, ← heedful.low] at marks
      exact heedful.loopStep source marks step
  | worker id k k' h s present handler stepped =>
      have stride := Worker.step_stride stepped
      have seeks : ∀ tp offset w,
          (v.subscription w).Steady (v.subscription (c.source.seek tp offset w).2) := by
        intro tp offset w
        rw [source]
        dsimp only [Seat.source]
        rw [v.subscription_put]
        exact Subscription.steady_seek _ _ _ _
      have steady : (v.subscription r.shared.outside).Steady (v.subscription s.outside) :=
        stride.outside (fun w w' => (v.subscription w).Steady (v.subscription w'))
          (fun _ => .refl _) replies seeks
      exact heedful.onward stride.gate (heeds.around stride.gate steady)
  | cancel polls => exact heedful.onward (.refl _) (heeds.polling polls).1
  | lapse rings waits =>
      rw [waits] at heeds
      exact heedful.onward (.refl _) heeds.1
  | giveUp drains =>
      rw [drains] at heeds
      exact heedful.onward (.refl _) heeds
  | stop => exact heedful.onward (.refl _) heeds

/-- Every act heeds the gate, if others leave the pauses alone. -/
theorem Heedful.next (heedful : r.Heedful v c) (source : c.source = v.source)
    (marks : c.config.lowWatermark ≤ c.config.highWatermark)
    (replies : ∀ id request w, (v.subscription w).Steady (v.subscription (c.reply id request w).2))
    (a : Act ω) (calm : ∀ change, a = .outside change →
      ∀ w, (v.subscription w).Steady (v.subscription (change w))) :
    (r.next c a).Heedful v c :=
  next_cases a heedful (fun _ _ _ step => heedful.step source marks replies step)
    fun change same => heedful.onward (.refl _)
      (heedful.heeds.around (.refl _) (calm change same r.shared.outside))

/-- A run that begins heeds its gate, which is open. -/
theorem heedful_start (v : Seat ω) (c : Consumer I ω) (outside : ω) :
    (c.start outside).Heedful v c :=
  ⟨rfl, rfl, Nat.zero_le _, fun paused => by cases paused⟩

/-- All that is in flight fits into one queue. -/
theorem Heedful.room (heedful : r.Heedful v c) (counted : r.Counted) {d : Delivery}
    (sends : r.loop = .sending d) {id : Nat} {k : Worker I} (present : r.workers[id]? = some k) :
    k.queue.length ≤ c.config.highWatermark := by
  have inFlight := counted.inFlight
  have held := le_sum_map Worker.load present
  have bounded := heedful.bounded
  unfold ConsumerRun.load at inFlight
  rw [sends] at inFlight
  rw [heedful.high, inFlight] at bounded
  change 1 + _ ≤ _ at bounded
  have part : k.queue.length ≤ k.load := Nat.le_add_right _ _
  omega

/-- So the loop sends a delivery as soon as it comes to that. -/
theorem Heedful.sends (heedful : r.Heedful v c) (counted : r.Counted) (staffed : r.Staffed c)
    (completes : r.Completes) (handlers : c.handlers ≠ [])
    (capacity : c.config.highWatermark < c.config.queueCapacity) {d : Delivery}
    (sends : r.loop = .sending d) :
    ∃ k, r.workers[r.workerOf d]? = some k ∧
      k.hasEnded = false ∧ k.queue.length < c.config.queueCapacity ∧
      r.step? c .loop = some { r with
        loop := .checking
        workers := r.workers.set (r.workerOf d) { k with queue := k.queue ++ [d] } } := by
  have present := List.getElem?_eq_getElem (staffed.workerOf_lt handlers d)
  have active := staffed.active completes (by rw [sends]; rfl) present
  have room := Nat.lt_of_le_of_lt (heedful.room counted sends present) capacity
  refine ⟨_, present, active, room, ?_⟩
  simp only [ConsumerRun.step?, ConsumerRun.loopStep?, ConsumerRun.send?, sends, present,
    active, room, Bool.false_eq_true, ↓reduceIte]

end ConsumerRun

/-- A consumer that is accepted begins its run unless its queues would be too large. -/
theorem Consumer.launch_of_check {c : Consumer I ω} (check : c.check = .ok ()) (outside : ω) :
    c.launch outside = if c.config.queueCapacity ≤ Consumer.maxQueueCapacity
      then some (c.start outside) else none := by
  obtain ⟨valid, some⟩ := Consumer.check_ok check
  have room := Nat.zero_lt_of_lt (ConsumerConfig.room_of_validate valid)
  have staffed : c.handlers.isEmpty = false := by simpa using some
  unfold Consumer.launch
  simp only [staffed, room, decide_true, Bool.true_and, Bool.false_or, decide_eq_true_eq]

namespace Seat

/-- A consumer of a subscription whose workers do not crash. It crashes before its run just if the
queues would be too large. In a run in which the partitions are not assigned anew, the gate counts
the deliveries that are being sent, queued or worked on, which are at most one more than the high
mark, and never a completion too many. A delivery that is to be sent finds room in the queue of its
worker at once, and the loop polls again and again until it closes the queues. -/
theorem send_never_waits (v : Seat ω) (c : Consumer I ω) (source : c.source = v.source)
    (check : c.check = .ok ()) (handlers : ∀ h ∈ c.handlers, h.Completes)
    (replies : ∀ id request w, (v.subscription w).Steady (v.subscription (c.reply id request w).2))
    (outside : ω) :
    let calm : Act ω → Prop := fun a => ∀ change, a = .outside change →
      ∀ w, (v.subscription w).Steady (v.subscription (change w))
    (c.launch outside = none ↔ Consumer.maxQueueCapacity < c.config.queueCapacity) ∧
    ∀ run, c.launch outside = some run →
      (∀ acts, (∀ a ∈ acts, calm a) →
        let r := run.after c acts
        r.shared.gate.inFlight = r.load ∧
          r.shared.gate.inFlight ≤ c.config.highWatermark + 1 ∧
          (∀ k ∈ r.workers, k.stage = .finishing → 0 < r.shared.gate.inFlight) ∧
          ∀ d, r.loop = .sending d → ∃ k, r.workers[r.workerOf d]? = some k ∧
            k.hasEnded = false ∧ k.queue.length < c.config.queueCapacity ∧
            r.step? c .loop = some { r with
              loop := .checking
              workers := r.workers.set (r.workerOf d) { k with queue := k.queue ++ [d] } }) ∧
      ∀ schedule, run.Fair c schedule → ∀ n, ∃ k, n ≤ k ∧
        ((run.along c schedule k).loop = .polling ∨
          (run.along c schedule k).loop.queuesClosed = true) := by
  intro calm
  obtain ⟨valid, some⟩ := Consumer.check_ok check
  have marks := Nat.le_of_lt (ConsumerConfig.marks_of_validate valid)
  have capacity := ConsumerConfig.room_of_validate valid
  rw [Consumer.launch_of_check check outside]
  refine ⟨by simp, fun run launched => ?_⟩
  cases (Option.ite_none_right_eq_some.mp launched).2
  refine ⟨fun acts calms => ?_, fun schedule fair n => ?_⟩
  · intro r
    have heedful : r.Heedful v c := ConsumerRun.after_induction acts
      (ConsumerRun.heedful_start v c outside) fun x a among heedful =>
        heedful.next source marks replies a (calms a among)
    have counted : r.Counted := ConsumerRun.counted_after c outside acts
    have staffed : r.Staffed c := ConsumerRun.staffed_after c outside acts
    have completes : r.Completes := ConsumerRun.completes_after handlers outside acts
    refine ⟨counted.inFlight, ?_, fun k among finishing => counted.inFlight_pos among finishing,
      fun d sends => heedful.sends counted staffed completes some capacity sends⟩
    rw [← heedful.high]
    exact heedful.bounded
  · exact fair.polls_again (ConsumerRun.lively_start c outside) (Nat.zero_lt_of_lt capacity) n

/-- A member of a group that is alone with a log of so many records. -/
def filled (count : Nat) : Subscription × Log :=
  Subscription.join ((List.replicate count (.plain "events" none [])).foldl
    (fun l m => (l.publish m 0).2) .empty) "group" ["events"]

/-- A consumer of such a subscription, with one worker. -/
def reader (high low : Nat) : Consumer Interface.silent (Subscription × Log) where
  config := { ConsumerConfig.standard with
    groupId := "group", topics := ["events"], highWatermark := high, lowWatermark := low }
  source := alone.source
  handlers := [.constant (.ok .processed)]
  reply _ request _ := nomatch request

/-- The only handler of a reader comes to its end at once. -/
theorem reader_completes (high low : Nat) : ∀ h ∈ (reader high low).handlers, h.Completes := by
  intro h among
  cases List.mem_singleton.mp among
  exact ⟨fun _ => trivial, fun _ _ => trivial⟩

/-- The high mark is two, and the third record is on its way to the worker, which has not begun. -/
theorem send_never_waits_third :
    let c := reader 2 1
    let r := (c.start (filled 5)).after c (List.replicate 23 (.move .loop))
    c.source = alone.source ∧ c.check = .ok () ∧ (∀ h ∈ c.handlers, h.Completes) ∧
      c.launch (filled 5) = some (c.start (filled 5)) ∧
      (c.start (filled 5)).Fair c Act.rota ∧ r.shared.gate.inFlight = 3 ∧
      (∃ d, r.loop = .sending d ∧ ∃ k, r.workers[r.workerOf d]? = some k ∧
        k.queue.length < c.config.queueCapacity) ∧
      ∃ k, 100 ≤ k ∧ (((c.start (filled 5)).along c Act.rota k).loop = .polling ∨
        ((c.start (filled 5)).along c Act.rota k).loop.queuesClosed = true) := by
  intro c r
  have fair := ConsumerRun.fair_rota c (c.start (filled 5))
  have launched : c.launch (filled 5) = some (c.start (filled 5)) := rfl
  obtain ⟨bounded, polls⟩ := (send_never_waits alone c rfl rfl (reader_completes 2 1)
    (fun _ request _ => nomatch request) (filled 5)).2 _ launched
  have moves : ∀ a ∈ List.replicate 23 (Act.move Move.loop), ∀ change, a = .outside change →
      ∀ w, (alone.subscription w).Steady (alone.subscription (change w)) := by
    intro a among change same
    rw [List.eq_of_mem_replicate among] at same
    cases same
  obtain ⟨d, sends⟩ := r.loop.exists_sending (by decide +kernel)
  obtain ⟨k, present, _, room, _⟩ := (bounded _ moves).2.2.2 d sends
  exact ⟨rfl, rfl, reader_completes 2 1, launched, fair, by decide +kernel,
    ⟨d, sends, k, present, room⟩, polls Act.rota fair 100⟩

/-- Settings are accepted with which no queue can be made. -/
theorem queue_too_large :
    let c := { reader 2 1 with
      config := { (reader 2 1).config with queueCapacity := 0x7fffffffffffffff } }
    c.source = alone.source ∧ c.check = .ok () ∧ (∀ h ∈ c.handlers, h.Completes) ∧
      c.launch (filled 5) = none :=
  ⟨rfl, rfl, reader_completes 2 1, rfl⟩

end Seat

end AlertRelay
