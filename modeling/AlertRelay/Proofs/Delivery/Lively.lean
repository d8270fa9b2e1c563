import AlertRelay.Proofs.Delivery.Descent
import AlertRelay.Proofs.Delivery.Load

/-!
# What no act sets back

Whoever acts in a run, the others are not thrown back: a worker keeps its place but for its own
steps (`ConsumerRun.next_worker`), and so does the loop (`ConsumerRun.next_ahead`). A delivery that
the loop waits with finds no less room (`ConsumerRun.next_sending`).
-/

namespace AlertRelay

variable {I : Interface} {ω : Type}

namespace ConsumerRun

variable {c : Consumer I ω} {r later : ConsumerRun I ω} {m : Move}

/-- What holds all along a run and matters for its end. -/
structure Lively (c : Consumer I ω) (r : ConsumerRun I ω) : Prop where
  staffed : r.Staffed c
  counted : r.Counted
  watches : r.loop.Watches r.shared.shutdown

/-- A loop that closes the queues waits from the right count of calls on. -/
theorem watches_of_shift {ns : List LoopNotice} (shift : Shift c r ns later)
    (opened : r.loop.queuesClosed = false) : later.loop.Watches later.shared.shutdown := by
  cases shift with
  | quiet alike => exact LoopStage.watches_of_open (alike.closed.trans opened)
  | evaluate evaluates => exact LoopStage.watches_of_open (LoopStage.ofTransition_shape _).2.2.2
  | fetch polls => exact LoopStage.watches_of_open (LoopStage.ofFetched_shape _ _).2.2.2
  | stop => exact LoopStage.watches_of_open opened
  | _ => trivial

/-- Every move leaves a run lively. -/
theorem Lively.step (lively : r.Lively c) (step : r.step? c m = some later) : later.Lively c := by
  refine ⟨lively.staffed.step step, lively.counted.step step, ?_⟩
  have watches := lively.watches
  cases moved_of_step step with
  | loop step =>
      by_cases closed : r.loop.queuesClosed = true
      · exact (loopStep_left step closed watches).2.1
      · exact watches_of_shift (loopStep_shift step) (Bool.eq_false_iff.mpr closed)
  | worker id k k' h s present handler stepped =>
      obtain ⟨calls, units⟩ := (Worker.step_stride stepped).calls_idle
      exact watches.later calls units
  | cancel | lapse | giveUp => trivial
  | stop => exact watches.later (Nat.le_refl _) .inr

/-- Every act leaves a run lively. -/
theorem Lively.next (lively : r.Lively c) (a : Act ω) : (r.next c a).Lively c :=
  next_cases a lively (fun _ _ _ step => lively.step step) fun change _ =>
    ⟨lively.staffed.next (.outside change), ⟨lively.counted.inFlight, lively.counted.units⟩,
      lively.watches⟩

/-- A run begins lively. -/
theorem lively_start (c : Consumer I ω) (outside : ω) : (c.start outside).Lively c :=
  ⟨staffed_start c outside, counted_start c outside, trivial⟩

/-- An act lets a worker make a step, or gives it a delivery, or leaves it as it is. -/
theorem next_worker (a : Act ω) {id : Nat} {k : Worker I} (present : r.workers[id]? = some k) :
    ∃ k', (r.next c a).workers[id]? = some k' ∧ (k' = k ∨
      (∃ h ns, Worker.Stride c id h r.loop.queuesClosed k r.shared ns k' (r.next c a).shared) ∨
      ∃ d, r.loop = .sending d ∧ r.send? c d ≠ none ∧
        k' = { k with queue := k.queue ++ [d] }) := by
  refine next_cases (P := fun x => ∃ k', x.workers[id]? = some k' ∧ (k' = k ∨
    (∃ h ns, Worker.Stride c id h r.loop.queuesClosed k r.shared ns k' x.shared) ∨
    ∃ d, r.loop = .sending d ∧ r.send? c d ≠ none ∧ k' = { k with queue := k.queue ++ [d] })) a
    ⟨k, present, .inl rfl⟩ (fun m later _ step => ?_) fun change _ => ⟨k, present, .inl rfl⟩
  have inside := (List.getElem?_eq_some_iff.mp present).1
  rcases step_cases step with ⟨other, x, h, x', s', rfl, there, handler, stepped, _, rfl⟩ |
    ⟨ns, seen, shift⟩
  · by_cases same : other = id
    · subst same
      cases there.symm.trans present
      refine ⟨x', ?_, .inr (.inl ⟨h, _, Worker.step_stride stepped⟩)⟩
      exact List.getElem?_set_self inside
    · exact ⟨k, (List.getElem?_set_ne same).trans present, .inl rfl⟩
  · cases shift with
    | quiet alike =>
        rw [alike.workers]
        exact ⟨k, present, .inl rfl⟩
    | send d x sends there active room =>
        by_cases same : r.workerOf d = id
        · subst same
          cases there.symm.trans present
          have free : r.send? c d ≠ none := by
            simp [ConsumerRun.send?, there, active, room]
          exact ⟨_, List.getElem?_set_self inside, .inr (.inr ⟨d, sends, free, rfl⟩)⟩
        · exact ⟨k, (List.getElem?_set_ne same).trans present, .inl rfl⟩
    | _ => exact ⟨k, present, .inl rfl⟩

/-- Whatever happens, a loop with open queues stays where it is, comes nearer to its next look, or
waits on. -/
theorem next_ahead (a : Act ω) (away : r.loop ≠ .checking) (opened : r.loop.queuesClosed = false) :
    (r.next c a).loop = r.loop ∨ (r.next c a).loop.ahead < r.loop.ahead ∨
      ∃ n n', r.loop = .waiting n ∧ (r.next c a).loop = .waiting n' := by
  refine next_cases (P := fun x => x.loop = r.loop ∨ x.loop.ahead < r.loop.ahead ∨
    ∃ n n', r.loop = .waiting n ∧ x.loop = .waiting n') a (.inl rfl) (fun m later _ step => ?_)
    fun change _ => .inl rfl
  cases moved_of_step step with
  | loop step => exact .inr (loopStep_ahead step away opened)
  | worker | stop => exact .inl rfl
  | cancel polls =>
      refine .inr (.inl ?_)
      change 1 < r.loop.ahead
      cases loop : r.loop with
      | polling | waiting rings => exact of_decide_eq_true rfl
      | _ =>
          rw [loop] at polls
          cases polls
  | lapse rings waits =>
      rw [waits]
      exact .inr (.inl (of_decide_eq_true rfl))
  | giveUp drains =>
      rw [drains] at opened
      cases opened

/-- Where the loop does not wait for anything, only its own step leads on. -/
theorem next_loop (a : Act ω) (apart : r.loop.isPolling = false) (busy : r.loop ≠ .draining) :
    (r.next c a).loop = r.loop ∨ r.loopStep? c = some (r.next c a) := by
  cases a with
  | outside change => exact .inl rfl
  | move m =>
      change ((r.step? c m).getD r).loop = r.loop ∨ r.loopStep? c = some ((r.step? c m).getD r)
      cases step : r.step? c m with
      | none => exact .inl rfl
      | some later =>
          cases moved_of_step step with
          | loop step => exact .inr step
          | worker | stop => exact .inl rfl
          | cancel polls =>
              rw [apart] at polls
              cases polls
          | lapse rings waits =>
              rw [waits] at apart
              cases apart
          | giveUp drains => exact (busy drains).elim

/-- When no unit is running and the queues are closed, every act keeps the loop or gets it on. -/
theorem next_left (a : Act ω) (lively : r.Lively c) (closed : r.loop.queuesClosed = true)
    (idle : r.shared.shutdown.units = 0) :
    (r.next c a).loop.left = r.loop.left ∨ (r.next c a).loop.left < r.loop.left := by
  refine next_cases (P := fun x => x.loop.left = r.loop.left ∨ x.loop.left < r.loop.left) a
    (.inl rfl) (fun m later _ step => ?_) fun change _ => .inl rfl
  cases moved_of_step step with
  | loop step => exact .inr ((loopStep_left step closed lively.watches).2.2 idle)
  | worker | stop => exact .inl rfl
  | cancel polls =>
      rw [(LoopStage.polling_shape polls).2.2.2] at closed
      cases closed
  | lapse rings waits =>
      rw [waits] at closed
      cases closed
  | giveUp drains =>
      rw [drains]
      exact .inr (of_decide_eq_true rfl)

/-- Once the queues are closed, they stay so. -/
theorem next_closed (a : Act ω) (lively : r.Lively c) (closed : r.loop.queuesClosed = true) :
    (r.next c a).loop.queuesClosed = true := by
  refine next_cases (P := fun x => x.loop.queuesClosed = true) a closed (fun m later _ step => ?_)
    fun change _ => closed
  cases moved_of_step step with
  | loop step => exact (loopStep_left step closed lively.watches).1
  | worker | stop => exact closed
  | cancel polls =>
      rw [(LoopStage.polling_shape polls).2.2.2] at closed
      cases closed
  | lapse rings waits =>
      rw [waits] at closed
      cases closed
  | giveUp drains => rfl

/-- A shutdown that has begun is not taken back. -/
theorem next_begun (a : Act ω) (begun : r.shared.shutdown.begun = true) :
    (r.next c a).shared.shutdown.begun = true := by
  refine next_cases (P := fun x => x.shared.shutdown.begun = true) a begun
    (fun m later _ step => ?_) fun change _ => begun
  rcases step_cases step with ⟨id, k, h, k', s', rfl, _, _, stepped, _, rfl⟩ | ⟨ns, _, shift⟩
  · exact (Worker.step_stride stepped).flags.1 begun
  · cases shift with
    | quiet alike =>
        rw [alike.shutdown]
        exact begun
    | close leaves | stop => rfl
    | _ => exact begun

/-! ## Workers in a run -/

/-- A worker that has something to do can make a step. -/
theorem worker_ready {id : Nat} {k : Worker I} (staffed : r.Staffed c)
    (present : r.workers[id]? = some k) (active : k.hasEnded = false)
    (busy : k.stage = .idle → k.queue = [] → r.loop.queuesClosed = true) :
    ∃ h ns k' s', Worker.Stride c id h r.loop.queuesClosed k r.shared ns k' s' ∧
      r.step? c (.worker id) = some { r with workers := r.workers.set id k', shared := s' } := by
  have inside := (List.getElem?_eq_some_iff.mp present).1
  rw [staffed.length] at inside
  obtain ⟨h, handler⟩ : ∃ h, c.handlers[id]? = some h := ⟨_, List.getElem?_eq_getElem inside⟩
  cases step : k.step? c id h r.loop.queuesClosed r.shared with
  | none =>
      rcases Worker.step_none step with ended | ⟨idle, empty, opened⟩
      · rw [active] at ended
        cases ended
      · rw [busy idle empty] at opened
        cases opened
  | some found =>
      obtain ⟨k', s'⟩ := found
      refine ⟨h, _, k', s', Worker.step_stride step, ?_⟩
      simp only [ConsumerRun.step?, ConsumerRun.workerStep?, present, handler, step,
        Option.map_some]

/-- How much a worker has before it. -/
def workOf (r : ConsumerRun I ω) (id : Nat) : Nat × WorkerStage I :=
  r.workers[id]?.elim (0, .exited) Worker.work

/-- The work of a worker by its number is that of the worker. -/
theorem workOf_eq {id : Nat} {k : Worker I} (present : r.workers[id]? = some k) :
    r.workOf id = k.work := by
  unfold ConsumerRun.workOf
  rw [present]
  rfl

/-- A worker that changes has the work of what it changes to. -/
theorem workOf_set {id : Nat} {k k' : Worker I} {s : Shared ω}
    (present : r.workers[id]? = some k) :
    ({ r with workers := r.workers.set id k', shared := s } : ConsumerRun I ω).workOf id =
      k'.work := by
  refine workOf_eq ?_
  rw [List.getElem?_set_self (List.getElem?_eq_some_iff.mp present).1]

/-- A worker that has ended stays so. -/
theorem next_ended (a : Act ω) {id : Nat} (ended : ∀ k : Worker I, r.workers[id]? = some k →
    k.hasEnded = true) :
    ∀ k : Worker I, (r.next c a).workers[id]? = some k → k.hasEnded = true := by
  refine next_cases (P := fun x => ∀ k : Worker I, x.workers[id]? = some k → k.hasEnded = true) a
    ended (fun m later _ step k' there => ?_) fun change _ => ended
  rcases step_cases step with ⟨other, k, h, x', s', rfl, present, _, stepped, _, rfl⟩ |
    ⟨ns, _, shift⟩
  · rcases getElem?_set_cases there with ⟨rfl, rfl⟩ | ⟨_, there⟩
    · have active := (Worker.step_stride stepped).active
      rw [ended k present] at active
      cases active
    · exact ended k' there
  · obtain ⟨k, present, stage, _⟩ := shift.crew there
    unfold Worker.hasEnded
    rw [stage]
    exact ended k present

/-! ## Sending -/

/-- The loop waits with a delivery for nothing but room in the queue of its worker. -/
theorem send_none {d : Delivery} : r.send? c d = none ↔
    ∃ k, r.workers[r.workerOf d]? = some k ∧ k.hasEnded = false ∧
      c.config.queueCapacity ≤ k.queue.length := by
  unfold ConsumerRun.send?
  cases present : r.workers[r.workerOf d]? with
  | none => simp
  | some k =>
      by_cases ended : k.hasEnded = true
      · simp [ended]
      · simp [ended]

/-- Whether a delivery finds room depends on the queues of the workers alone. -/
theorem send_none_congr {d : Delivery} (workers : later.workers = r.workers)
    (waits : later.send? c d = none) : r.send? c d = none := by
  obtain ⟨k, present, active, full⟩ := send_none.mp waits
  unfold ConsumerRun.workerOf at present
  rw [workers] at present
  exact send_none.mpr ⟨k, present, active, full⟩

/-- A delivery that is put into a queue, or finds it closed, leads the loop on. -/
theorem send_some {d : Delivery} (sent : r.send? c d = some later) :
    later.loop = .checking ∨ later.loop = .leaving := by
  unfold ConsumerRun.send? at sent
  split at sent
  · cases sent
    exact .inr rfl
  · split at sent
    · cases sent
      exact .inr rfl
    · split at sent <;> cases sent
      exact .inl rfl

/-- While the loop waits with a delivery, others can only make room for it. -/
theorem next_sending (a : Act ω) {d : Delivery} (sends : r.loop = .sending d) :
    ((r.next c a).loop = .checking ∨ (r.next c a).loop = .leaving) ∨
      (r.next c a).loop = .sending d ∧
        ((r.next c a).send? c d = none → r.send? c d = none) := by
  refine next_cases (P := fun x => (x.loop = .checking ∨ x.loop = .leaving) ∨
    x.loop = .sending d ∧ (x.send? c d = none → r.send? c d = none)) a
    (.inr ⟨sends, fun none => none⟩) (fun m later _ step => ?_)
    fun change _ => .inr ⟨sends, send_none_congr rfl⟩
  cases moved_of_step step with
  | loop step =>
      simp only [ConsumerRun.loopStep?, sends] at step
      exact .inl (send_some step)
  | worker id k k' h s present handler stepped =>
      refine .inr ⟨sends, fun none => ?_⟩
      obtain ⟨x, there, active, full⟩ := send_none.mp none
      have same : ({ r with workers := r.workers.set id k', shared := s } :
          ConsumerRun I ω).workerOf d = r.workerOf d := by
        unfold ConsumerRun.workerOf
        rw [List.length_set]
      rw [same] at there
      rcases getElem?_set_cases there with ⟨rfl, rfl⟩ | ⟨_, there⟩
      · have stride := Worker.step_stride stepped
        exact send_none.mpr ⟨k, present, stride.active, Nat.le_trans full stride.shortens⟩
      · exact send_none.mpr ⟨x, there, active, full⟩
  | cancel polls =>
      rw [sends] at polls
      cases polls
  | lapse rings stage | giveUp stage =>
      rw [sends] at stage
      cases stage
  | stop => exact .inr ⟨sends, send_none_congr rfl⟩

end ConsumerRun

end AlertRelay
