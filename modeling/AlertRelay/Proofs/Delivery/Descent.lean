import AlertRelay.Proofs.Delivery.Crew

/-!
# What steps bring nearer

Each step of a worker brings it nearer to the end of its queue, in a well-founded order
(`Worker.Stride.advances`). Each step of the loop brings it nearer to where it looks for the
shutdown (`ConsumerRun.loopStep_ahead`), and with closed queues to where the run returns
(`ConsumerRun.loopStep_left`).
-/

namespace AlertRelay

variable {I : Interface} {ω : Type}

/-! ## Workers get on -/

/-- Whether a program is left of another one after a reply or a pause. -/
inductive Program.Left {α : Type} : Program I α → Program I α → Prop where
  | reply (request : I.Call) (next : I.Reply request → Program I α) (answer : I.Reply request) :
      Left (next answer) (.call request next)
  | pause (nanos : Nat) (next : Program I α) : Left next (.pause nanos next)

/-- A program cannot go on for ever. -/
theorem Program.left_acc {α : Type} (p : Program I α) : Acc Left p := by
  induction p with
  | done value | crash => exact ⟨_, fun _ left => by cases left⟩
  | call request next ih =>
      refine ⟨_, fun _ left => ?_⟩
      cases left with
      | reply request next answer => exact ih answer
  | pause nanos next ih =>
      refine ⟨_, fun _ left => ?_⟩
      cases left
      exact ih

namespace WorkerStage

/-- How far a worker is from having nothing in hand. -/
def level : WorkerStage I → Nat
  | exited | crashed => 0
  | idle => 1
  | showing _ => 2
  | finishing => 3
  | leaving _ => 4
  | stopping _ => 5
  | blaming _ _ => 6
  | failing _ _ => 7
  | settingAside _ _ _ | rewinding _ => 8
  | handling _ _ => 9
  | admitted _ => 10
  | taken _ => 11

/-- Whether one stage is nearer to that than another one. -/
inductive Below : WorkerStage I → WorkerStage I → Prop where
  | level {later stage : WorkerStage I} (lower : later.level < stage.level) : Below later stage
  | handling (d : Delivery) {p q : Program I (Except RelayError Outcome)} (left : p.Left q) :
      Below (.handling d p) (.handling d q)
  | settingAside (d : Delivery) {reason : DeadLetterReason}
      {p q : Program I (Except RelayError Unit)} (left : p.Left q) :
      Below (.settingAside d reason p) (.settingAside d reason q)

/-- The stages of a worker cannot go down for ever. -/
theorem below_wellFounded : WellFounded (Below (I := I)) := by
  have key : ∀ n, ∀ stage : WorkerStage I, stage.level = n → Acc Below stage := by
    intro n
    induction n using Nat.strong_induction_on with
    | _ n lower =>
      intro stage here
      cases stage with
      | handling d p =>
          induction p.left_acc with
          | intro p _ ih =>
            refine ⟨_, fun later below => ?_⟩
            cases below with
            | level less => exact lower _ (here ▸ less) later rfl
            | handling d left => exact ih _ left here
      | settingAside d reason p =>
          induction p.left_acc with
          | intro p _ ih =>
            refine ⟨_, fun later below => ?_⟩
            cases below with
            | level less => exact lower _ (here ▸ less) later rfl
            | settingAside d left => exact ih _ left here
      | _ =>
          refine ⟨_, fun later below => ?_⟩
          cases below with
          | level less => exact lower _ (here ▸ less) later rfl
  exact ⟨fun stage => key _ stage rfl⟩

end WorkerStage

namespace Worker

/-- How much a worker has before it. -/
def work (k : Worker I) : Nat × WorkerStage I := (k.queue.length, k.stage)

/-- Whether there is less to do. -/
def Less : Nat × WorkerStage I → Nat × WorkerStage I → Prop := Prod.Lex (· < ·) WorkerStage.Below

/-- The work of a worker cannot become less for ever. -/
theorem less_wellFounded : WellFounded (Less (I := I)) :=
  Nat.lt_wfRel.wf.prod_lex WorkerStage.below_wellFounded

variable {c : Consumer I ω} {h : RecordHandler I} {id : Nat} {closed : Bool}
  {k later : Worker I} {s after : Shared ω} {ns : List WorkerNotice}

/-- Each stride leaves less to do. -/
theorem Stride.advances (stride : Stride c id h closed k s ns later after) :
    Less later.work k.work := by
  unfold Worker.Less Worker.work
  cases stride with
  | take d rest stage queue =>
      rw [queue]
      exact .left _ _ (Nat.lt_succ_self _)
  | call d request next stage =>
      rw [stage]
      exact .right _ (.handling d (.reply request next _))
  | pause d nanos next stage =>
      rw [stage]
      exact .right _ (.handling d (.pause nanos next))
  | callAside d request next stage =>
      rw [stage]
      exact .right _ (.settingAside d (.reply request next _))
  | pauseAside d nanos next stage =>
      rw [stage]
      exact .right _ (.settingAside d (.pause nanos next))
  | crash d stage =>
      refine .right _ (.level ?_)
      rcases stage with stage | ⟨_, stage⟩ <;> simp [stage, WorkerStage.level]
  | _ => exact .right _ (.level (by simp [*, WorkerStage.level]))

/-- Nothing but the loop makes a queue longer. -/
theorem Stride.shortens (stride : Stride c id h closed k s ns later after) :
    later.queue.length ≤ k.queue.length := by
  rcases Prod.lex_iff.mp stride.advances with less | same
  · exact Nat.le_of_lt less
  · exact Nat.le_of_eq same.1

/-- The wait for idleness misses no call. -/
theorem Stride.calls_idle (stride : Stride c id h closed k s ns later after) :
    s.shutdown.calls ≤ after.shutdown.calls ∧
      (0 < s.shutdown.units →
        s.shutdown.calls < after.shutdown.calls ∨ 0 < after.shutdown.units) := by
  have ends : s.shutdown.calls ≤ s.shutdown.endUnit.calls ∧ (0 < s.shutdown.units →
      s.shutdown.calls < s.shutdown.endUnit.calls ∨ 0 < s.shutdown.endUnit.units) := by
    unfold Shutdown.endUnit Shutdown.leaveUnit
    by_cases last : s.shutdown.units ≤ 1
    · simp [last, Shutdown.callIdle]
    · simp [last]
      omega
  cases stride with
  | crash d stage | leave d stage => exact ends
  | enter d stage => exact ⟨Nat.le_refl _, fun _ => .inr (Nat.succ_pos _)⟩
  | _ => exact ⟨Nat.le_refl _, .inr⟩

end Worker

/-! ## The loop gets on -/

namespace LoopStage

/-- How far the loop is from closing the queues, if a shutdown begins. -/
def ahead : LoopStage → Nat
  | evaluating => 13
  | assigning _ => 12
  | turning _ _ => 11
  | showingPause => 10
  | polling => 9
  | waiting _ => 8
  | tagging _ => 7
  | measuring _ => 6
  | enqueuing _ => 5
  | showing _ _ => 4
  | sending _ => 3
  | blaming _ | checking => 2
  | leaving => 1
  | _ => 0

/-- How far the loop is from returning, once all workers have ended. -/
def left : LoopStage → Nat
  | draining => 10
  | abandoning => 9
  | idling (.parked _) => 8
  | idling .fresh => 7
  | idling (.listening _) => 6
  | idling .finished => 5
  | joining => 4
  | closing => 3
  | settling => 2
  | _ => 0

/-- Whether a wait for idleness has missed no call. -/
def Watches (s : Shutdown) : LoopStage → Prop
  | idling (.listening calls) => calls ≤ s.calls
  | idling (.parked calls) => calls ≤ s.calls ∧ (calls < s.calls ∨ 0 < s.units)
  | _ => True

/-- A loop with nothing before it has closed the queues. -/
theorem closed_of_ahead {stage : LoopStage} (near : stage.ahead < 1) :
    stage.queuesClosed = true := by
  cases stage with
  | draining | abandoning | idling wait | joining | closing | settling | returned result => rfl
  | _ => exact absurd near (of_decide_eq_true rfl)

/-- A loop whose queues are open does not wait for idleness, so it has missed no call. -/
theorem watches_of_open {s : Shutdown} {stage : LoopStage} (opened : stage.queuesClosed = false) :
    stage.Watches s := by
  cases stage with
  | idling wait => cases opened
  | _ => trivial

/-- A wait misses no call if the last unit does not end without one. -/
theorem Watches.later {s after : Shutdown} {stage : LoopStage} (watches : stage.Watches s)
    (calls : s.calls ≤ after.calls)
    (units : 0 < s.units → s.calls < after.calls ∨ 0 < after.units) : stage.Watches after := by
  cases stage with
  | idling wait =>
      cases wait with
      | fresh | finished => trivial
      | listening noted => exact Nat.le_trans watches calls
      | parked noted =>
          refine ⟨Nat.le_trans watches.1 calls, ?_⟩
          rcases watches.2 with called | running
          · exact .inl (Nat.lt_of_lt_of_le called calls)
          · exact (units running).imp_left (Nat.lt_of_le_of_lt watches.1)
  | _ => trivial

/-- After a poll the loop is close to closing the queues, or it waits for the bell. -/
theorem ofFetched_ahead (rings : Nat) (fetched : Fetched) :
    (ofFetched rings fetched).ahead < 8 ∨ ofFetched rings fetched = waiting rings := by
  cases fetched with
  | record r | nothing => exact .inl (of_decide_eq_true rfl)
  | failed cause => cases cause <;> exact .inl (of_decide_eq_true rfl)
  | notYet => exact .inr rfl

/-- After the gate was looked at, the loop is not far from closing the queues. -/
theorem ofTransition_ahead (transition : GateTransition) :
    (ofTransition transition).ahead < 13 := by
  cases transition <;> exact of_decide_eq_true rfl

end LoopStage

namespace ConsumerRun

variable {c : Consumer I ω} {r later : ConsumerRun I ω}

/-- A step of the loop brings it nearer to where it looks for the shutdown, or it waits on for a
record. -/
theorem loopStep_ahead (step : r.loopStep? c = some later) (away : r.loop ≠ .checking)
    (opened : r.loop.queuesClosed = false) :
    later.loop.ahead < r.loop.ahead ∨ ∃ n n', r.loop = .waiting n ∧ later.loop = .waiting n' := by
  obtain ⟨loop, workers, shared⟩ := r
  cases loop with
  | checking => exact (away rfl).elim
  | evaluating =>
      cases step
      exact .inl (LoopStage.ofTransition_ahead _)
  | assigning transition =>
      simp only [ConsumerRun.loopStep?] at step
      split at step <;> cases step <;> exact .inl (of_decide_eq_true rfl)
  | polling =>
      cases step
      left
      rcases LoopStage.ofFetched_ahead (c.source.rings shared.outside)
        (c.source.fetch shared.outside).1 with near | same
      · exact Nat.lt_succ_of_lt near
      · change (LoopStage.ofFetched _ (c.source.fetch shared.outside).1).ahead < 9
        rw [same]
        exact of_decide_eq_true rfl
  | waiting rings =>
      simp only [ConsumerRun.loopStep?] at step
      split at step
      · cases step
      · cases step
        rcases LoopStage.ofFetched_ahead (c.source.rings shared.outside)
          (c.source.fetch shared.outside).1 with near | same
        · exact .inl near
        · exact .inr ⟨rings, _, rfl, same⟩
  | sending d =>
      simp only [ConsumerRun.loopStep?, ConsumerRun.send?] at step
      split at step
      · cases step
        exact .inl (of_decide_eq_true rfl)
      · split at step
        · cases step
          exact .inl (of_decide_eq_true rfl)
        · split at step <;> cases step
          exact .inl (of_decide_eq_true rfl)
  | turning transition partitions | showingPause | tagging record | measuring d | enqueuing d
  | showing d count | blaming cause | leaving =>
      cases step
      exact .inl (of_decide_eq_true rfl)
  | _ => cases opened

/-- Once the queues are closed they stay so, and when no unit is running the loop gets on. -/
theorem loopStep_left (step : r.loopStep? c = some later) (closed : r.loop.queuesClosed = true)
    (watches : r.loop.Watches r.shared.shutdown) :
    later.loop.queuesClosed = true ∧ later.loop.Watches later.shared.shutdown ∧
      (r.shared.shutdown.units = 0 → later.loop.left < r.loop.left) := by
  obtain ⟨loop, workers, shared⟩ := r
  cases loop with
  | draining | joining =>
      simp only [ConsumerRun.loopStep?] at step
      split at step <;> cases step
      exact ⟨rfl, trivial, fun _ => of_decide_eq_true rfl⟩
  | abandoning | closing | settling =>
      cases step
      exact ⟨rfl, trivial, fun _ => of_decide_eq_true rfl⟩
  | idling wait =>
      cases wait with
      | fresh =>
          cases step
          exact ⟨rfl, Nat.le_refl _, fun _ => of_decide_eq_true rfl⟩
      | finished =>
          cases step
          exact ⟨rfl, trivial, fun _ => of_decide_eq_true rfl⟩
      | listening calls =>
          by_cases idle : shared.shutdown.units = 0
          · simp [ConsumerRun.loopStep?, IdleWait.step, idle] at step
            subst step
            exact ⟨rfl, trivial, fun _ => of_decide_eq_true rfl⟩
          · simp [ConsumerRun.loopStep?, IdleWait.step, idle] at step
            subst step
            exact ⟨rfl, ⟨watches, .inr (Nat.pos_of_ne_zero idle)⟩, fun none => (idle none).elim⟩
      | parked calls =>
          by_cases called : calls < shared.shutdown.calls
          · simp [ConsumerRun.loopStep?, IdleWait.step, called] at step
            subst step
            exact ⟨rfl, trivial, fun _ => of_decide_eq_true rfl⟩
          · simp [ConsumerRun.loopStep?, IdleWait.step, called] at step
  | returned result => cases step
  | _ => cases closed

/-- When all workers have ended and no unit is running, the loop gets on until the run returns. -/
theorem loopStep_ready (closed : r.loop.queuesClosed = true) (ended : r.workersEnded = true)
    (idle : r.shared.shutdown.units = 0) (watches : r.loop.Watches r.shared.shutdown)
    (unreturned : r.loop.result? = none) : ∃ later, r.loopStep? c = some later := by
  obtain ⟨loop, workers, shared⟩ := r
  cases loop with
  | draining | joining => exact ⟨_, if_pos ended⟩
  | abandoning | closing | settling => exact ⟨_, rfl⟩
  | idling wait =>
      cases wait with
      | fresh | finished => exact ⟨_, rfl⟩
      | listening calls =>
          change shared.shutdown.units = 0 at idle
          simp [ConsumerRun.loopStep?, IdleWait.step, idle]
      | parked calls =>
          have called : calls < shared.shutdown.calls :=
            watches.2.resolve_right (by rw [idle]; exact Nat.lt_irrefl 0)
          simp [ConsumerRun.loopStep?, IdleWait.step, called]
  | returned result => cases unreturned
  | _ => cases closed

end ConsumerRun

end AlertRelay
