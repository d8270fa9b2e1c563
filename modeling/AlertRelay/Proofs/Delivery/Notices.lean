import AlertRelay.Proofs.Delivery.Acts
import AlertRelay.Proofs.Delivery.Turns
import Mathlib.Data.List.Induction

/-!
# What is to be seen of a run

A run leaves a trace of notices: what a poll has brought, which delivery went into which queue,
which delivery a worker looked at, dropped or passed to its handler, how the work ended, and which
errors were stored. Nobody in the run reads them.

`ConsumerRun.step_cases` says once what a move can do: it is a step of a worker, or it is one of the
shifts that the loop and the shutdown can make.
-/

namespace AlertRelay

/-- Why a delivery is not worked on. -/
inductive DropCause where
  /-- Its worker has met a fatal error. -/
  | failed
  /-- Queued deliveries are dropped. -/
  | abandoned
  /-- Its partition was rewound after it was fetched. -/
  | stale
  deriving DecidableEq

/-- What is to be seen of a worker. -/
inductive WorkerNotice where
  /-- A delivery was looked at and is to be worked on. -/
  | admitted (d : Delivery)
  | dropped (d : Delivery) (why : DropCause)
  /-- The handler is called for a record. -/
  | began (d : Delivery)
  /-- That call has come to an outcome. -/
  | ended (d : Delivery) (outcome : Except RelayError Outcome)
  /-- The handler is called to set a record aside for a reason. -/
  | beganAside (d : Delivery) (reason : DeadLetterReason)
  | endedAside (d : Delivery) (result : Except RelayError Unit)
  /-- The partition of a failed record was to be rewound. -/
  | sought (d : Delivery) (result : Except BrokerError Unit)
  /-- A fatal error was to be stored. -/
  | blamed (cause : RelayError)

/-- What is to be seen of the loop. -/
inductive LoopNotice where
  | polled (answer : Fetched)
  | sent (id : Nat) (d : Delivery)
  /-- There was no worker for a delivery. -/
  | refused (d : Delivery)
  | blamed (cause : RelayError)
  /-- Queued deliveries are dropped from now on. -/
  | abandoned

inductive Notice where
  | loop (notice : LoopNotice)
  | worker (id : Nat) (notice : WorkerNotice)

namespace Notice

def byWorker (id : Nat) : Notice → Option WorkerNotice
  | loop _ => none
  | worker i n => if i = id then some n else none

end Notice

variable {I : Interface} {ω : Type}

/-- What is to be seen of the next step of a worker. -/
def Worker.notices (c : Consumer I ω) (h : RecordHandler I) (k : Worker I) (s : Shared ω) :
    List WorkerNotice :=
  match k.stage with
  | .taken d =>
    if k.failed then [.dropped d .failed]
    else if s.shutdown.abandoning then [.dropped d .abandoned]
    else if (k.redeliveries.accept d).1 then [.admitted d]
    else [.dropped d .stale]
  | .admitted d => [.began d]
  | .handling d (.done outcome) =>
    .ended d outcome :: match (k.concluded c h d outcome).stage with
      | .settingAside _ reason _ => [.beganAside d reason]
      | _ => []
  | .rewinding d => [.sought d (c.source.seek d.record.topicPartition d.record.offset s.outside).1]
  | .settingAside d _ (.done result) => [.endedAside d result]
  | .blaming _ cause => [.blamed cause]
  | _ => []

namespace ConsumerRun

/-- What is to be seen of the next step of the loop. -/
def loopNotices (c : Consumer I ω) (r : ConsumerRun I ω) : List LoopNotice :=
  match r.loop with
  | .polling | .waiting _ => [.polled (c.source.fetch r.shared.outside).1]
  | .sending d =>
    match r.workers[r.workerOf d]? with
    | some k => if k.hasEnded then [.refused d] else [.sent (r.workerOf d) d]
    | none => [.refused d]
  | .blaming cause => [.blamed cause]
  | .abandoning => [.abandoned]
  | _ => []

/-- What is to be seen of a move that is possible. -/
def notices (c : Consumer I ω) (r : ConsumerRun I ω) : Move → List Notice
  | .loop => (r.loopNotices c).map .loop
  | .worker id =>
    match r.workers[id]?, c.handlers[id]? with
    | some k, some h => (k.notices c h r.shared).map (.worker id)
    | _, _ => []
  | _ => []

/-- What is to be seen of an act. -/
def seen (c : Consumer I ω) (r : ConsumerRun I ω) : Act ω → List Notice
  | .move m => if (r.step? c m).isSome then r.notices c m else []
  | .outside _ => []

/-- What is to be seen of several acts. -/
def trace (c : Consumer I ω) : ConsumerRun I ω → List (Act ω) → List Notice
  | _, [] => []
  | r, a :: rest => r.seen c a ++ (r.next c a).trace c rest

variable {c : Consumer I ω} {r later : ConsumerRun I ω}

/-- What is seen of acts in two portions is what is seen of them all. -/
theorem trace_append (first rest : List (Act ω)) :
    r.trace c (first ++ rest) = r.trace c first ++ (r.after c first).trace c rest := by
  induction first generalizing r with
  | nil => rfl
  | cons a first ih =>
      rw [List.cons_append, ConsumerRun.trace, ih, ConsumerRun.trace, List.append_assoc]
      rfl

/-- What is seen of one more act comes last. -/
theorem trace_snoc (acts : List (Act ω)) (a : Act ω) :
    r.trace c (acts ++ [a]) = r.trace c acts ++ (r.after c acts).seen c a := by
  rw [trace_append, ConsumerRun.trace, ConsumerRun.trace, List.append_nil]

/-- What was seen up to some time is still known later. -/
theorem trace_along_subset {schedule : ℕ → Act ω} {n k : ℕ} (le : n ≤ k) :
    r.trace c ((List.range n).map schedule) ⊆ r.trace c ((List.range k).map schedule) := by
  obtain ⟨more, rfl⟩ := Nat.exists_eq_add_of_le le
  rw [List.range_add, List.map_append, trace_append]
  exact List.subset_append_left _ _

/-- What holds before any act and is kept by every act, together with what is seen of it, holds of
a run and its trace. -/
theorem trace_induction {P : ConsumerRun I ω → List Notice → Prop} (acts : List (Act ω))
    (now : P r []) (moves : ∀ x t m later, P x t → x.step? c m = some later →
      P later (t ++ x.notices c m))
    (outside : ∀ x t (change : ω → ω), P x t →
      P { x with shared := x.withOutside (change x.shared.outside) } t) :
    P (r.after c acts) (r.trace c acts) := by
  induction acts using List.reverseRecOn with
  | nil => exact now
  | append_singleton acts a ih =>
      rw [trace_snoc, after_append]
      cases a with
      | outside change =>
          rw [ConsumerRun.seen, List.append_nil]
          exact outside _ _ change ih
      | move m =>
          change P (((r.after c acts).step? c m).getD (r.after c acts)) _
          rw [ConsumerRun.seen]
          cases step : (r.after c acts).step? c m with
          | none =>
              simp only [Option.isSome_none, Bool.false_eq_true, ↓reduceIte, List.append_nil]
              exact ih
          | some later =>
              simp only [Option.isSome_some, ↓reduceIte]
              exact moves _ _ m later ih step

end ConsumerRun

namespace Fetched

/-- The record that a poll has brought. -/
def record? : Fetched → Option Record
  | record r => some r
  | _ => none

/-- The fatal error that a poll has met. To find the source closed is none. -/
def fault? : Fetched → Option RelayError
  | failed .closed => none
  | failed cause => if cause.isTransient then none else some (.broker cause)
  | _ => none

end Fetched

namespace LoopStage

/-- The record that the loop has in hand. -/
def hand : LoopStage → Option Record
  | tagging r => some r
  | measuring d | enqueuing d | showing d _ | sending d => some d.record
  | _ => none

/-- The delivery that is counted in and not sent yet. -/
def counted : LoopStage → Option Delivery
  | showing d _ | sending d => some d
  | _ => none

/-- The error that is to be stored. -/
def blame? : LoopStage → Option RelayError
  | blaming cause => some cause
  | _ => none

/-- The delivery that is to be put into a queue. -/
def sending? : LoopStage → Option Delivery
  | sending d => some d
  | _ => none

/-- The result, once the run has returned. -/
def result? : LoopStage → Option (Except RelayError Unit)
  | returned result => some result
  | _ => none

/-- Whether the workers are no longer waited for. -/
def isOver : LoopStage → Bool
  | closing | settling | returned _ => true
  | _ => false

theorem eq_returned {stage : LoopStage} {result : Except RelayError Unit}
    (ends : stage.result? = some result) : stage = returned result := by
  cases stage with
  | returned other =>
      cases ends
      rfl
  | _ => cases ends

theorem exists_sending (stage : LoopStage) (sends : stage.sending?.isSome = true) :
    ∃ d, stage = sending d := by
  cases stage with
  | sending d => exact ⟨d, rfl⟩
  | _ => cases sends

/-- A loop that no longer waits for the workers has closed the queues. -/
theorem closed_of_isOver (stage : LoopStage) (past : stage.isOver = true) :
    stage.queuesClosed = true := by
  cases stage with
  | closing | settling | returned result => rfl
  | _ => cases past

/-- After a poll, the loop has in hand what the poll has brought, and stores the error it has met.
-/
theorem ofFetched_shape (rings : Nat) (fetched : Fetched) :
    (ofFetched rings fetched).hand = fetched.record? ∧
      (ofFetched rings fetched).blame? = fetched.fault? ∧
      (ofFetched rings fetched).counted = none ∧
      (ofFetched rings fetched).queuesClosed = false := by
  cases fetched with
  | record r | nothing | notYet => exact ⟨rfl, rfl, rfl, rfl⟩
  | failed cause => cases cause <;> exact ⟨rfl, rfl, rfl, rfl⟩

/-- When the gate was looked at, the loop has no record in hand and no error to store. -/
theorem ofTransition_shape (transition : GateTransition) :
    (ofTransition transition).hand = none ∧ (ofTransition transition).blame? = none ∧
      (ofTransition transition).counted = none ∧
      (ofTransition transition).queuesClosed = false := by
  cases transition <;> exact ⟨rfl, rfl, rfl, rfl⟩

/-- A loop that polls has no record in hand and no error to store. -/
theorem polling_shape {stage : LoopStage} (polls : stage.isPolling = true) :
    stage.hand = none ∧ stage.blame? = none ∧ stage.counted = none ∧
      stage.queuesClosed = false := by
  cases stage with
  | polling | waiting rings => exact ⟨rfl, rfl, rfl, rfl⟩
  | _ => cases polls

end LoopStage

namespace ConsumerRun

/-- Whether a step of the loop leaves alone what deliveries, workers and errors depend on. -/
structure Alike (before after : ConsumerRun I ω) : Prop where
  workers : after.workers = before.workers
  gate : after.shared.gate = before.shared.gate
  fatal : after.shared.fatal = before.shared.fatal
  shutdown : after.shared.shutdown = before.shared.shutdown
  hand : after.loop.hand = before.loop.hand
  counted : after.loop.counted = before.loop.counted
  blame : after.loop.blame? = before.loop.blame?
  closed : after.loop.queuesClosed = before.loop.queuesClosed
  past : after.loop.isOver = true → before.loop.isOver = true ∨ before.workersEnded = true
  returns : ∀ result, after.loop ≠ .returned result

/-- What a move can do that is not a step of a worker, and what is to be seen of it. -/
inductive Shift (c : Consumer I ω) (r : ConsumerRun I ω) :
    List LoopNotice → ConsumerRun I ω → Prop where
  | quiet {later : ConsumerRun I ω} (alike : r.Alike later) : Shift c r [] later
  | evaluate (evaluates : r.loop = .evaluating) : Shift c r []
      (r.goWith (.ofTransition r.shared.gate.evaluate.1)
        { r.shared with gate := r.shared.gate.evaluate.2 })
  | fetch (polls : r.loop.isPolling = true) :
      Shift c r [.polled (c.source.fetch r.shared.outside).1] (r.fetch c)
  | enqueue (d : Delivery) (enqueues : r.loop = .enqueuing d) : Shift c r []
      (r.goWith (.showing d r.shared.gate.enqueued.inFlight)
        { r.shared with gate := r.shared.gate.enqueued })
  | send (d : Delivery) (k : Worker I) (sends : r.loop = .sending d)
      (present : r.workers[r.workerOf d]? = some k) (active : k.hasEnded = false)
      (room : k.queue.length < c.config.queueCapacity) : Shift c r [.sent (r.workerOf d) d]
        { r with
          loop := .checking
          workers := r.workers.set (r.workerOf d) { k with queue := k.queue ++ [d] } }
  | refuse (d : Delivery) (sends : r.loop = .sending d)
      (absent : ∀ k, r.workers[r.workerOf d]? = some k → k.hasEnded = true) :
      Shift c r [.refused d] (r.goWith .leaving { r.shared with gate := r.shared.gate.completed })
  | blame (cause : RelayError) (blames : r.loop = .blaming cause) :
      Shift c r [.blamed cause] (r.goWith .leaving (r.shared.blame cause))
  | close (leaves : r.loop = .leaving) :
      Shift c r [] (r.goWith .draining r.shared.beginShutdown)
  | abandon (abandons : r.loop = .abandoning) : Shift c r [.abandoned]
      (r.goWith (.idling .fresh) { r.shared with shutdown := r.shared.shutdown.abandon })
  | settle (traffic : Traffic) (settles : r.loop = .settling)
      (shown : traffic = r.shared.traffic.setInFlight r.shared.gate.inFlight) : Shift c r []
      (r.goWith (.returned r.result) { r.shared with traffic := traffic })
  | stop : Shift c r [] { r with shared := r.shared.beginShutdown }

variable {c : Consumer I ω} {r later : ConsumerRun I ω} {m : Move}

/-- A step of the loop is one of the shifts. -/
theorem loopStep_shift (step : r.loopStep? c = some later) :
    Shift c r (r.loopNotices c) later := by
  obtain ⟨loop, workers, shared⟩ := r
  have alike : ∀ {stage : LoopStage} {after : Shared ω}, after.gate = shared.gate →
      after.fatal = shared.fatal → after.shutdown = shared.shutdown → stage.hand = loop.hand →
      stage.counted = loop.counted → stage.blame? = loop.blame? →
      stage.queuesClosed = loop.queuesClosed →
      (stage.isOver = true →
        loop.isOver = true ∨ (ConsumerRun.mk loop workers shared).workersEnded = true) →
      (∀ result, stage ≠ .returned result) →
      Shift c ⟨loop, workers, shared⟩ [] ⟨stage, workers, after⟩ :=
    fun gate fatal shutdown hand counted blame closed past returns =>
      .quiet ⟨rfl, gate, fatal, shutdown, hand, counted, blame, closed, past, returns⟩
  cases loop with
  | checking =>
      cases step
      refine alike rfl rfl rfl ?_ ?_ ?_ ?_ ?_ ?_
      all_goals split <;> simp [LoopStage.hand, LoopStage.counted, LoopStage.blame?,
        LoopStage.queuesClosed, LoopStage.isOver]
  | evaluating =>
      cases step
      exact .evaluate rfl
  | assigning transition =>
      simp only [ConsumerRun.loopStep?] at step
      split at step
      all_goals
        cases step
        exact alike rfl rfl rfl rfl rfl rfl rfl (fun past => by cases past)
          (fun _ same => by cases same)
  | turning transition partitions | showingPause =>
      cases step
      exact alike rfl rfl rfl rfl rfl rfl rfl (fun past => by cases past)
        (fun _ same => by cases same)
  | polling =>
      cases step
      exact .fetch rfl
  | waiting rings =>
      simp only [ConsumerRun.loopStep?] at step
      split at step
      · cases step
      · cases step
        exact .fetch rfl
  | tagging record =>
      cases step
      exact alike rfl rfl rfl rfl rfl rfl rfl (fun past => by cases past)
        (fun _ same => by cases same)
  | measuring d =>
      simp only [ConsumerRun.loopStep?, Option.some.injEq] at step
      subst step
      obtain ⟨traffic, measured⟩ := measure_eq c ⟨.measuring d, workers, shared⟩ d
      rw [measured]
      exact alike rfl rfl rfl rfl rfl rfl rfl (fun past => by cases past)
        (fun _ same => by cases same)
  | enqueuing d =>
      cases step
      exact .enqueue d rfl
  | showing d count =>
      simp only [ConsumerRun.loopStep?, Option.some.injEq] at step
      subst step
      obtain ⟨traffic, shown⟩ := shared.showInFlight_eq count
      rw [shown]
      exact alike rfl rfl rfl rfl rfl rfl rfl (fun past => by cases past)
        (fun _ same => by cases same)
  | sending d =>
      simp only [ConsumerRun.loopStep?, ConsumerRun.send?] at step
      simp only [ConsumerRun.loopNotices]
      split at step
      · next absent =>
        cases step
        simp only [absent]
        exact .refuse d rfl fun k present => by rw [absent] at present; cases present
      · next k present =>
        simp only [present]
        split at step
        · next ended =>
          cases step
          simp only [ended, ↓reduceIte]
          refine .refuse d rfl fun other same => ?_
          cases present.symm.trans same
          exact ended
        · next active =>
          split at step
          · next room =>
            cases step
            simp only [active, Bool.false_eq_true, ↓reduceIte]
            exact .send d k rfl present (Bool.eq_false_iff.mpr active) room
          · cases step
  | blaming cause =>
      cases step
      exact .blame cause rfl
  | leaving =>
      cases step
      exact .close rfl
  | draining | joining =>
      simp only [ConsumerRun.loopStep?] at step
      split at step
      · next ended =>
        cases step
        exact alike rfl rfl rfl rfl rfl rfl rfl (fun _ => .inr ended) (fun _ same => by cases same)
      · cases step
  | abandoning =>
      cases step
      exact .abandon rfl
  | idling wait =>
      cases wait with
      | finished =>
          cases step
          exact alike rfl rfl rfl rfl rfl rfl rfl (fun past => by cases past)
            (fun _ same => by cases same)
      | fresh | listening calls | parked calls =>
          simp only [ConsumerRun.loopStep?] at step
          split at step
          · cases step
          · cases step
            exact alike rfl rfl rfl rfl rfl rfl rfl (fun past => by cases past)
              (fun _ same => by cases same)
  | closing =>
      cases step
      exact alike rfl rfl rfl rfl rfl rfl rfl (fun _ => .inl rfl) (fun _ same => by cases same)
  | settling =>
      simp only [ConsumerRun.loopStep?, Option.some.injEq] at step
      subst step
      exact .settle _ rfl rfl
  | returned result => cases step

/-- A move is a step of a worker or one of the shifts. -/
theorem step_cases (step : r.step? c m = some later) :
    (∃ id k h k' s', m = .worker id ∧ r.workers[id]? = some k ∧ c.handlers[id]? = some h ∧
      k.step? c id h r.loop.queuesClosed r.shared = some (k', s') ∧
      r.notices c m = (k.notices c h r.shared).map (.worker id) ∧
      later = { r with workers := r.workers.set id k', shared := s' }) ∨
    ∃ ns, r.notices c m = ns.map .loop ∧ Shift c r ns later := by
  cases moved_of_step step with
  | loop step => exact .inr ⟨_, rfl, loopStep_shift step⟩
  | worker id k k' h s' present handler stepped =>
      refine .inl ⟨id, k, h, k', s', rfl, present, handler, stepped, ?_, rfl⟩
      simp only [ConsumerRun.notices, present, handler]
  | cancel polls =>
      obtain ⟨hand, blame, counted, opened⟩ := LoopStage.polling_shape polls
      exact .inr ⟨[], rfl, .quiet ⟨rfl, rfl, rfl, rfl, hand.symm, counted.symm, blame.symm,
        opened.symm, (fun past => by cases past), (fun _ same => by cases same)⟩⟩
  | lapse rings stage | giveUp stage =>
      refine .inr ⟨[], rfl, .quiet ⟨rfl, rfl, rfl, rfl, ?_, ?_, ?_, ?_,
        (fun past => by cases past), (fun _ same => by cases same)⟩⟩
      all_goals
        rw [stage]
        rfl
  | stop => exact .inr ⟨[], rfl, .stop⟩

/-- A run returns after it has shown that nothing is in flight any more. -/
theorem Shift.returned_cases {ns : List LoopNotice} (shift : Shift c r ns later)
    {result : Except RelayError Unit} (returned : later.loop = .returned result) :
    (r.loop = .returned result ∧ later = { r with shared := r.shared.beginShutdown }) ∨
      r.loop = .settling ∧ result = r.result ∧ ∃ traffic,
        traffic = r.shared.traffic.setInFlight r.shared.gate.inFlight ∧
        later = r.goWith (.returned r.result) { r.shared with traffic := traffic } := by
  cases shift with
  | quiet alike => exact (alike.returns result returned).elim
  | settle traffic settles shown =>
      cases returned
      exact .inr ⟨settles, rfl, traffic, shown, rfl⟩
  | stop => exact .inl ⟨returned, rfl⟩
  | evaluate evaluates =>
      have opened := (LoopStage.ofTransition_shape r.shared.gate.evaluate.1).2.2.2
      change LoopStage.ofTransition r.shared.gate.evaluate.1 = _ at returned
      rw [returned] at opened
      cases opened
  | fetch polls =>
      have opened := (LoopStage.ofFetched_shape (c.source.rings r.shared.outside)
        (c.source.fetch r.shared.outside).1).2.2.2
      change LoopStage.ofFetched _ (c.source.fetch r.shared.outside).1 = _ at returned
      rw [returned] at opened
      cases opened
  | _ => cases returned

end ConsumerRun

end AlertRelay
