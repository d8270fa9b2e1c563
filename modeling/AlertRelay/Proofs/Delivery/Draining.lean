import AlertRelay.Proofs.Delivery.Account

/-!
# What a run leaves behind

A run that returns has left nothing open: each record that the source handed out was put into one
queue, each delivery was passed to its handler once or dropped once, each call of a handler has
ended, and nothing is counted any more (`ConsumerRun.settled_of_returned`). A worker looks at a
delivery before it passes it to its handler. When queued deliveries are dropped in between, this one
is not queued any more, and the handler is called for it all the same (`ConsumerRun.begins_late`).
-/

namespace AlertRelay

variable {I : Interface} {ω : Type}

/-- When queued deliveries are dropped, a worker admits none. -/
theorem Worker.Stride.admits_none {c : Consumer I ω} {h : RecordHandler I} {id : Nat}
    {closed : Bool} {k later : Worker I} {s after : Shared ω} {ns : List WorkerNotice}
    (stride : Stride c id h closed k s ns later after) (abandoning : s.shutdown.abandoning = true) :
    ns.filterMap WorkerNotice.admitted? = [] := by
  cases stride with
  | accept d awaiting stage active kept =>
      rw [abandoning] at kept
      cases kept
  | _ => rfl

theorem Traffic.setInFlight_zero (t : Traffic) : (t.setInFlight 0).inFlight = 0 := by
  simp [Traffic.setInFlight]

namespace ConsumerRun

variable {c : Consumer I ω} {r later : ConsumerRun I ω} {m : Move} {t : List Notice}

/-- While workers complete, each delivery finds its worker. -/
theorem Shift.accepts {ns : List LoopNotice} (shift : Shift c r ns later)
    (staffed : r.Staffed c) (completes : r.Completes) (handlers : c.handlers ≠ []) (d : Delivery) :
    LoopNotice.refused d ∉ ns := by
  intro among
  cases shift with
  | refuse x sends absent =>
      have inside := staffed.workerOf_lt handlers x
      have present := List.getElem?_eq_getElem inside
      have ended := absent _ present
      rw [staffed.active completes (by rw [sends]; rfl) present] at ended
      cases ended
  | _ => simp at among

/-- What the loop has in hand goes from polls into queues. -/
theorem Shift.handed {ns : List LoopNotice} (shift : Shift c r ns later)
    (accepts : ∀ d, LoopNotice.refused d ∉ ns) :
    r.loop.hand.toList ++ (ns.map .loop).filterMap Notice.polled? =
      ((ns.map .loop).filterMap Notice.sent?).map (fun (_, d) => d.record) ++
        later.loop.hand.toList := by
  cases shift with
  | quiet alike =>
      rw [alike.hand]
      exact List.append_nil _
  | evaluate evaluates =>
      change _ = _ ++ (LoopStage.ofTransition r.shared.gate.evaluate.1).hand.toList
      rw [evaluates, (LoopStage.ofTransition_shape _).1]
      rfl
  | fetch polls =>
      change _ = _ ++ (LoopStage.ofFetched _ (c.source.fetch r.shared.outside).1).hand.toList
      rw [(LoopStage.polling_shape polls).1, (LoopStage.ofFetched_shape _ _).1]
      cases brings : (c.source.fetch r.shared.outside).1.record? <;>
        simp [Notice.polled?, Notice.sent?, brings]
  | refuse d sends absent => exact (accepts d (List.mem_singleton_self _)).elim
  | send d k same | enqueue d same | blame cause same | close same | abandon same
  | settle traffic same =>
      rw [same]
      rfl
  | stop => exact List.append_nil _

/-- Whether each polled record was put into a queue, but for one that is still in hand. -/
def Handed (r : ConsumerRun I ω) (t : List Notice) : Prop :=
  t.filterMap Notice.polled? =
    (t.filterMap Notice.sent?).map (fun (_, d) => d.record) ++ r.loop.hand.toList

/-- Every move hands over what was polled, or keeps it in hand. -/
theorem Handed.step (handed : r.Handed t) (staffed : r.Staffed c) (completes : r.Completes)
    (handlers : c.handlers ≠ []) (step : r.step? c m = some later) :
    later.Handed (t ++ r.notices c m) := by
  unfold ConsumerRun.Handed at *
  rcases step_cases step with ⟨id, k, h, k', s', rfl, present, handler, stepped, seen, rfl⟩ |
    ⟨ns, seen, shift⟩
  · rw [seen, List.filterMap_append, List.filterMap_append, Notice.filterMap_polled_worker,
      Notice.filterMap_sent_worker, List.append_nil, List.append_nil]
    exact handed
  · rw [seen, List.filterMap_append, List.filterMap_append, handed, List.append_assoc,
      shift.handed (shift.accepts staffed completes handlers), List.map_append, List.append_assoc]

/-- A worker that completes has exited, with an empty queue, when the run goes on to its end. -/
theorem exited_of_isOver (staffed : r.Staffed c) (completes : r.Completes)
    (past : r.loop.isOver = true) {id : Nat} {k : Worker I} (present : r.workers[id]? = some k) :
    k.stage = .exited ∧ k.queue = [] := by
  have ended := ended_of_workersEnded (staffed.past past) present
  have exited := exited_of_hasEnded completes present ended
  exact ⟨exited, (staffed.exits k (List.mem_of_getElem? present) exited).2⟩

/-- Then nothing is queued, worked on or counted. -/
theorem counts_of_isOver (staffed : r.Staffed c) (completes : r.Completes) (counted : r.Counted)
    (past : r.loop.isOver = true) :
    r.shared.gate.inFlight = 0 ∧ r.shared.shutdown.units = 0 := by
  have nothing : ∀ f : Worker I → Nat, (∀ k, k.stage = .exited → k.queue = [] → f k = 0) →
      (r.workers.map f).sum = 0 := by
    intro f zero
    refine List.sum_eq_zero fun x among => ?_
    obtain ⟨k, inside, rfl⟩ := List.mem_map.mp among
    obtain ⟨id, present⟩ := List.mem_iff_getElem?.mp inside
    obtain ⟨stage, queue⟩ := exited_of_isOver staffed completes past present
    exact zero k stage queue
  have free : r.loop.counted = none := by
    cases loop : r.loop with
    | closing | settling | returned result => rfl
    | _ =>
        rw [loop] at past
        cases past
  refine ⟨?_, ?_⟩
  · rw [counted.inFlight, ConsumerRun.load, free, nothing]
    · rfl
    · intro k stage queue
      unfold Worker.load
      rw [stage, queue]
      rfl
  · rw [counted.units, nothing]
    intro k stage queue
    unfold Worker.units
    rw [stage]
    rfl

/-- What holds all along a run whose handlers complete. -/
structure Orderly (c : Consumer I ω) (r : ConsumerRun I ω) (t : List Notice) : Prop where
  staffed : r.Staffed c
  completes : r.Completes
  counted : r.Counted
  handed : r.Handed t
  shown : ∀ result, r.loop = .returned result → r.shared.traffic.inFlight = 0

/-- What a run shows when it returns is that nothing is in flight. -/
theorem Orderly.shows (orderly : r.Orderly c t) (step : r.step? c m = some later)
    {result : Except RelayError Unit} (returned : later.loop = .returned result) :
    later.shared.traffic.inFlight = 0 := by
  rcases step_cases step with ⟨id, k, h, k', s', rfl, present, handler, stepped, seen, rfl⟩ |
    ⟨ns, seen, shift⟩
  · have past : r.loop.isOver = true := by
      rw [show r.loop = .returned result from returned]
      rfl
    have ended := ended_of_workersEnded (orderly.staffed.past past) present
    rw [(Worker.step_stride stepped).active] at ended
    cases ended
  · rcases shift.returned_cases returned with ⟨same, rfl⟩ | ⟨settles, _, traffic, shown, rfl⟩
    · exact orderly.shown result same
    · have nothing := (counts_of_isOver orderly.staffed orderly.completes orderly.counted
        (by rw [settles]; rfl)).1
      rw [nothing] at shown
      exact (congrArg Traffic.inFlight shown).trans (Traffic.setInFlight_zero _)

/-- A run whose handlers complete is orderly after any acts. -/
theorem orderly_after (outside : ω) (acts : List (Act ω)) (check : c.check = .ok ())
    (handlers : ∀ h ∈ c.handlers, h.Completes) :
    ((c.start outside).after c acts).Orderly c ((c.start outside).trace c acts) := by
  have some := (Consumer.check_ok check).2
  refine trace_induction acts ?_ ?_ ?_
  · exact ⟨staffed_start c outside, completes_after handlers outside [], counted_start c outside,
      rfl, fun result returned => by cases returned⟩
  · intro x t m later orderly step
    exact ⟨orderly.staffed.step step, orderly.completes.step handlers step,
      orderly.counted.step step, orderly.handed.step orderly.staffed orderly.completes some step,
      fun result returned => orderly.shows step returned⟩
  · rintro x t change ⟨staffed, completes, counted, handed, shown⟩
    exact ⟨staffed.next (.outside change), completes, ⟨counted.inFlight, counted.units⟩, handed,
      shown⟩

/-- What is so once a run has returned. -/
structure Settled (c : Consumer I ω) (r : ConsumerRun I ω) (t : List Notice) : Prop where
  /-- Each record that was handed out was put into one queue, in the order of the polls. -/
  handed : t.filterMap Notice.polled? = (t.filterMap Notice.sent?).map fun (_, d) => d.record
  /-- This was the queue of the worker of its partition. -/
  routed : ∀ id d, Notice.loop (.sent id d) ∈ t →
    id = d.record.topicPartition.worker c.handlers.length
  /-- Each worker has passed each of its deliveries to the handler once or dropped it once. -/
  met : ∀ id, t.filterMap (Notice.reports id WorkerNotice.met?) = t.filterMap (Notice.sentTo id)
  /-- It has dropped none without a reason. -/
  explained : ∀ first rest id d why, t = first ++ .worker id (.dropped d why) :: rest →
    Explains first id d why
  /-- Each call of a handler that began has ended. -/
  ended : ∀ id, t.filterMap (Notice.reports id WorkerNotice.began?) =
    t.filterMap (Notice.reports id WorkerNotice.ended?)
  inFlight : r.shared.gate.inFlight = 0
  units : r.shared.shutdown.units = 0
  shown : r.shared.traffic.inFlight = 0

/-- Nothing was put into the queue of a worker that there is not. -/
theorem Account.unsent {id : Nat} (account : r.Account c t) (absent : c.handlers.length ≤ id)
    (handlers : c.handlers ≠ []) : t.filterMap (Notice.sentTo id) = [] := by
  refine List.filterMap_eq_nil_iff.mpr fun n among => ?_
  cases n with
  | worker other n => rfl
  | loop n =>
      cases n with
      | sent other d =>
          have inside := d.record.topicPartition.worker_lt handlers
          rw [← account.routed other d among] at inside
          have different : other ≠ id := by omega
          simp [Notice.sentTo, different]
      | _ => rfl

/-- An orderly run that has returned has settled all that it polled. -/
theorem Orderly.settled (orderly : r.Orderly c t) (account : r.Account c t)
    (handlers : c.handlers ≠ []) {result : Except RelayError Unit}
    (returned : r.loop = .returned result) : r.Settled c t := by
  obtain ⟨staffed, completes, counted, handed, shown⟩ := orderly
  have past : r.loop.isOver = true := by
    rw [returned]
    rfl
  obtain ⟨inFlight, units⟩ := counts_of_isOver staffed completes counted past
  refine ⟨?_, account.routed, fun id => ?_, account.explained, fun id => ?_, inFlight, units,
    shown result returned⟩
  · unfold ConsumerRun.Handed at handed
    rw [returned] at handed
    exact handed.trans (List.append_nil _)
  · cases present : r.workers[id]? with
    | some k =>
        obtain ⟨stage, queue⟩ := exited_of_isOver staffed completes past present
        have met := (account.workers id k present).met
        unfold Worker.unmet at met
        rw [stage, queue] at met
        exact (List.append_nil _).symm.trans met
    | none =>
        have absent := staffed.absent present
        rw [account.absent absent, account.unsent absent handlers]
  · cases present : r.workers[id]? with
    | some k =>
        have stage := (exited_of_isOver staffed completes past present).1
        have ended := (account.workers id k present).ended
        rw [stage] at ended
        exact (ended fun same => by cases same).trans (List.append_nil _)
    | none => rw [account.absent (staffed.absent present), account.absent (staffed.absent present)]

/-- Once queued deliveries are dropped, no worker admits one. -/
theorem trace_admits_none (acts : List (Act ω)) (abandoning : r.shared.shutdown.abandoning = true)
    (id : Nat) :
    (r.trace c acts).filterMap (Notice.reports id WorkerNotice.admitted?) = [] := by
  refine (trace_induction (P := fun x t => x.shared.shutdown.abandoning = true ∧
    t.filterMap (Notice.reports id WorkerNotice.admitted?) = []) acts ⟨abandoning, rfl⟩ ?_ ?_).2
  · rintro x t m later ⟨abandoning, silent⟩ step
    rcases step_cases step with ⟨other, k, h, k', s', rfl, present, handler, stepped, seen, rfl⟩ |
      ⟨ns, seen, shift⟩
    · have stride := Worker.step_stride stepped
      refine ⟨stride.flags.2.trans abandoning, ?_⟩
      rw [seen, List.filterMap_append, silent, List.nil_append]
      by_cases same : other = id
      · subst same
        rw [Notice.filterMap_reports_worker]
        exact stride.admits_none abandoning
      · exact Notice.filterMap_reports_other same _
    · refine ⟨?_, ?_⟩
      · cases shift with
        | quiet alike =>
            rw [alike.shutdown]
            exact abandoning
        | abandon abandons => rfl
        | _ => exact abandoning
      · rw [seen, List.filterMap_append, silent, List.nil_append]
        exact Notice.filterMap_reports_loop ns
  · exact fun x t change holds => holds

/-- At the end, a worker has called its handler for each delivery that it has admitted. -/
theorem Orderly.admitted (orderly : r.Orderly c t) (account : r.Account c t)
    (past : r.loop.isOver = true) (id : Nat) :
    t.filterMap (Notice.reports id WorkerNotice.admitted?) =
      t.filterMap (Notice.reports id WorkerNotice.began?) := by
  cases present : r.workers[id]? with
  | some k =>
      have admitted := (account.workers id k present).admitted
      rw [(exited_of_isOver orderly.staffed orderly.completes past present).1] at admitted
      exact admitted.trans (List.append_nil _)
  | none =>
      have absent := orderly.staffed.absent present
      rw [account.absent absent, account.absent absent]

/-- A worker is ahead of its handler by one admitted delivery at most. -/
theorem Account.pending (account : r.Account c t) (staffed : r.Staffed c) (id : Nat) :
    ∃ pending : Option Delivery, t.filterMap (Notice.reports id WorkerNotice.admitted?) =
      t.filterMap (Notice.reports id WorkerNotice.began?) ++ pending.toList := by
  cases present : r.workers[id]? with
  | some k => exact ⟨k.stage.unbegun?, (account.workers id k present).admitted⟩
  | none =>
      have absent := staffed.absent present
      refine ⟨.none, ?_⟩
      rw [account.absent absent, account.absent absent]
      rfl

/-- However a run with handlers that complete comes to return, it has settled all that was handed
out. After queued deliveries began to be dropped, no worker has admitted another one, and each has
called its handler at most once more, for a delivery that it had admitted before. -/
theorem settled_of_returned (c : Consumer I ω) (outside : ω) (acts : List (Act ω))
    (check : c.check = .ok ()) (handlers : ∀ h ∈ c.handlers, h.Completes)
    {result : Except RelayError Unit}
    (returned : ((c.start outside).after c acts).loop = .returned result) :
    let run := c.start outside
    (run.after c acts).Settled c (run.trace c acts) ∧
      ∀ before rest, acts = before ++ rest →
        (run.after c before).shared.shutdown.abandoning = true → ∀ id,
          let first := run.trace c before
          let last := (run.after c before).trace c rest
          last.filterMap (Notice.reports id WorkerNotice.admitted?) = [] ∧
            first.filterMap (Notice.reports id WorkerNotice.admitted?) =
              first.filterMap (Notice.reports id WorkerNotice.began?) ++
                last.filterMap (Notice.reports id WorkerNotice.began?) ∧
            (last.filterMap (Notice.reports id WorkerNotice.began?)).length ≤ 1 := by
  intro run
  have account := account_after c outside acts
  have orderly := orderly_after outside acts check handlers
  refine ⟨orderly.settled account (Consumer.check_ok check).2 returned, ?_⟩
  intro before rest same abandoning id first last
  have admitsNone := trace_admits_none (c := c) rest abandoning id
  have whole := orderly.admitted account (by rw [returned]; rfl) id
  rw [same, trace_append, List.filterMap_append, List.filterMap_append, admitsNone,
    List.append_nil] at whole
  obtain ⟨pending, ahead⟩ :=
    (account_after c outside before).pending (staffed_after c outside before) id
  have begun := List.append_cancel_left (whole.symm.trans ahead)
  refine ⟨admitsNone, whole, ?_⟩
  rw [begun]
  cases pending with
  | none => exact Nat.zero_le 1
  | some d => exact Nat.le_refl 1

/-- One record is polled, taken and admitted. Then the shutdown begins, and nobody waits for the
worker. -/
def lateActs : List (Act (List Fetched)) :=
  List.replicate 8 (.move .loop) ++ List.replicate 2 (.move (.worker 0)) ++
    [.move .stop, .move .loop, .move .loop, .move .timeout, .move .loop]

/-- The worker goes on with the delivery, and the run returns. -/
def lateEnd : List (Act (List Fetched)) :=
  List.replicate 6 (.move (.worker 0)) ++ List.replicate 6 (.move .loop)

def lateConsumer : Consumer Interface.silent (List Fetched) :=
  .scripted { ConsumerConfig.standard with groupId := "group", topics := ["events"] }
    [.constant (.ok .processed)]

def lateStart : ConsumerRun Interface.silent (List Fetched) :=
  lateConsumer.start [.record default]

/-- The only handler of the late consumer comes to its end at once. -/
theorem lateConsumer_completes : ∀ h ∈ lateConsumer.handlers, h.Completes := by
  intro h among
  cases List.mem_singleton.mp among
  exact ⟨fun _ => trivial, fun _ _ => trivial⟩

/-- The late consumer returns with its one record settled, and begins one unit after the queued
deliveries were dropped. -/
theorem settled_of_returned_late :
    lateConsumer.check = .ok () ∧ (∀ h ∈ lateConsumer.handlers, h.Completes) ∧
      (lateStart.after lateConsumer (lateActs ++ lateEnd)).loop = .returned (.ok ()) ∧
      (lateStart.after lateConsumer (lateActs ++ lateEnd)).Settled lateConsumer
        (lateStart.trace lateConsumer (lateActs ++ lateEnd)) ∧
      (lateStart.after lateConsumer lateActs).shared.shutdown.abandoning = true ∧
      ∀ id, (((lateStart.after lateConsumer lateActs).trace lateConsumer lateEnd).filterMap
        (Notice.reports id WorkerNotice.began?)).length ≤ 1 := by
  have returned : (lateStart.after lateConsumer (lateActs ++ lateEnd)).loop =
      .returned (.ok ()) := LoopStage.eq_returned (by decide +kernel)
  have abandoning : (lateStart.after lateConsumer lateActs).shared.shutdown.abandoning = true := by
    decide +kernel
  obtain ⟨settled, begunSince⟩ := settled_of_returned lateConsumer [.record default]
    (lateActs ++ lateEnd) rfl lateConsumer_completes returned
  exact ⟨rfl, lateConsumer_completes, returned, settled, abandoning,
    fun id => (begunSince lateActs lateEnd rfl abandoning id).2.2⟩

/-- Queued deliveries are dropped while a worker is between looking at a delivery and calling its
handler. The handler is called after that, and the run returns. -/
theorem begins_late :
    lateConsumer.check = .ok () ∧ (∀ h ∈ lateConsumer.handlers, h.Completes) ∧
      (lateStart.after lateConsumer (lateActs ++ lateEnd)).loop = .returned (.ok ()) ∧
      (lateStart.after lateConsumer lateActs).shared.shutdown.abandoning = true ∧
      (((lateStart.after lateConsumer lateActs).trace lateConsumer lateEnd).filterMap
        (Notice.reports 0 WorkerNotice.began?)).length = 1 :=
  ⟨rfl, lateConsumer_completes, LoopStage.eq_returned (by decide +kernel), by decide +kernel,
    by decide +kernel⟩

end ConsumerRun

end AlertRelay
