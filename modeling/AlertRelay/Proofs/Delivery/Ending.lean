import AlertRelay.Proofs.Delivery.Lively

/-!
# How runs end

In a fair schedule, a worker that makes steps gets to the end of its queue. So the loop never waits
for room in a queue forever, and comes round to where it looks for the shutdown
(`ConsumerRun.Fair.round`). Once the shutdown has begun, the loop closes the queues, the workers
exit, and the run returns (`ConsumerRun.Fair.returns`).
-/

namespace AlertRelay

variable {I : Interface} {ω : Type}

namespace ConsumerRun

variable {c : Consumer I ω} {r later : ConsumerRun I ω} {schedule : ℕ → Act ω}

/-! ## A delivery finds room -/

/-- A run stays lively along any schedule. -/
theorem Lively.along (lively : r.Lively c) (n : ℕ) : (r.along c schedule n).Lively c :=
  along_of_le (n := 0) (fun _ a lively => lively.next a) (Nat.zero_le n) lively

/-- A delivery goes to the worker that its partition belongs to. -/
theorem Lively.workerOf (lively : r.Lively c) (d : Delivery) :
    r.workerOf d = d.record.topicPartition.worker c.handlers.length := by
  unfold ConsumerRun.workerOf
  rw [lively.staffed.length]

/-- Once there is room for a delivery, there is until the loop makes its step. -/
theorem Fair.sends_free (fair : r.Fair c schedule) (d : Delivery) : r.Leads c schedule
    (fun x => x.Lively c ∧ x.loop = .sending d ∧ x.send? c d ≠ none)
    (fun x => x.loop = .checking ∨ x.loop = .leaving) := by
  refine fair.leads (m := .loop) (by simp) ?_ ?_
  · rintro x ⟨lively, sends, free⟩
    obtain ⟨later, sent⟩ := Option.ne_none_iff_exists'.mp free
    refine ⟨later, ?_, send_some sent⟩
    simp only [ConsumerRun.step?, ConsumerRun.loopStep?, sends, sent]
  · rintro n ⟨lively, sends, free⟩
    rw [along_succ]
    rcases next_sending (c := c) (schedule n) sends with done | ⟨still, keeps⟩
    · exact .inr done
    · exact .inl ⟨lively.next _, still, fun none => free (keeps none)⟩

/-- While there is no room for it, its worker has deliveries in its queue and can go on. -/
theorem Fair.sends_full (fair : r.Fair c schedule) (room : 0 < c.config.queueCapacity)
    (d : Delivery) : r.Leads c schedule
      (fun x => x.Lively c ∧ x.loop = .sending d ∧ x.send? c d = none)
      (fun x => (x.loop = .checking ∨ x.loop = .leaving) ∨
        x.Lively c ∧ x.loop = .sending d ∧ x.send? c d ≠ none) := by
  let i := d.record.topicPartition.worker c.handlers.length
  refine fair.descends Worker.less_wellFounded (fun x => x.workOf i) (m := .worker i) (by simp)
    ?_ ?_
  · rintro x ⟨lively, sends, waits⟩
    obtain ⟨k, present, active, full⟩ := send_none.mp waits
    rw [lively.workerOf] at present
    have busy : k.queue ≠ [] := by
      intro empty
      rw [empty] at full
      exact Nat.not_le_of_lt room full
    obtain ⟨h, ns, k', s', stride, step⟩ :=
      worker_ready lively.staffed present active fun _ empty => (busy empty).elim
    refine ⟨_, step, ?_⟩
    rw [workOf_set present, workOf_eq present]
    by_cases free : ({ x with workers := x.workers.set i k', shared := s' } :
        ConsumerRun I ω).send? c d = none
    · exact .inr ⟨⟨lively.step step, sends, free⟩, stride.advances⟩
    · exact .inl (.inr ⟨lively.step step, sends, free⟩)
  · rintro x a ⟨lively, sends, waits⟩
    obtain ⟨k, present, _, _⟩ := send_none.mp waits
    rw [lively.workerOf] at present
    obtain ⟨k', there, moved⟩ := next_worker (c := c) a present
    have lower : (x.next c a).workOf i = x.workOf i ∨
        Worker.Less ((x.next c a).workOf i) (x.workOf i) := by
      rw [workOf_eq there, workOf_eq present]
      rcases moved with rfl | ⟨h, ns, stride⟩ | ⟨other, same, free, _⟩
      · exact .inl rfl
      · exact .inr stride.advances
      · rw [sends] at same
        cases same
        exact (free waits).elim
    rcases next_sending (c := c) a sends with done | ⟨still, _⟩
    · exact .inl (.inl done)
    · by_cases free : (x.next c a).send? c d = none
      · exact .inr ⟨⟨lively.next a, still, free⟩, lower⟩
      · exact .inl (.inr ⟨lively.next a, still, free⟩)

/-- The loop gets rid of each delivery. -/
theorem Fair.sends (fair : r.Fair c schedule) (room : 0 < c.config.queueCapacity) (d : Delivery) :
    r.Leads c schedule (fun x => x.Lively c ∧ x.loop = .sending d)
      (fun x => x.loop = .checking ∨ x.loop = .leaving) := by
  rintro n ⟨lively, sends⟩
  by_cases waits : (r.along c schedule n).send? c d = none
  · obtain ⟨k, later, done | free⟩ := fair.sends_full room d n ⟨lively, sends, waits⟩
    · exact ⟨k, later, done⟩
    · obtain ⟨k', last, done⟩ := fair.sends_free d k free
      exact ⟨k', Nat.le_trans later last, done⟩
  · exact fair.sends_free d n ⟨lively, sends, waits⟩

/-! ## The loop comes round, and the run returns -/

/-- From a stage where the loop never waits, it gets on. -/
theorem Fair.onward (fair : r.Fair c schedule) (stage : LoopStage) (away : stage ≠ .checking)
    (opened : stage.queuesClosed = false) (moving : ∀ n, stage ≠ .waiting n)
    (ready : ∀ x : ConsumerRun I ω, x.loop = stage → ∃ later, x.loopStep? c = some later) :
    r.Leads c schedule (fun x => x.Lively c ∧ x.loop = stage)
      (fun x => x.Lively c ∧ x.loop.ahead < stage.ahead) := by
  refine fair.leads (m := .loop) (by simp) ?_ ?_
  · rintro x ⟨lively, rfl⟩
    obtain ⟨later, step⟩ := ready x rfl
    refine ⟨later, step, lively.step (m := .loop) step, ?_⟩
    rcases loopStep_ahead step away opened with lower | ⟨n, _, waits, _⟩
    · exact lower
    · exact (moving n waits).elim
  · rintro n ⟨lively, here⟩
    rw [along_succ]
    rcases next_ahead (c := c) (schedule n) (here ▸ away) (here ▸ opened) with
      same | lower | ⟨rings, _, waits, _⟩
    · exact .inl ⟨lively.next _, same.trans here⟩
    · exact .inr ⟨lively.next _, here ▸ lower⟩
    · exact (moving rings (here.symm.trans waits)).elim

/-- A poll lasts only so long. -/
theorem Fair.polls (fair : r.Fair c schedule) :
    r.Leads c schedule (fun x => x.Lively c ∧ ∃ n, x.loop = .waiting n)
      (fun x => x.Lively c ∧ x.loop.ahead < 8) := by
  refine fair.leads (m := .timeout) (by simp) ?_ ?_
  · rintro x ⟨lively, rings, waits⟩
    have step : x.step? c .timeout = some (x.goTo .checking) := by
      simp only [ConsumerRun.step?, ConsumerRun.timeout?, waits]
    exact ⟨_, step, lively.step step, of_decide_eq_true rfl⟩
  · rintro n ⟨lively, rings, waits⟩
    rw [along_succ]
    rcases next_ahead (c := c) (schedule n) (by rw [waits]; simp) (by rw [waits]; rfl) with
      same | lower | ⟨_, other, _, again⟩
    · exact .inl ⟨lively.next _, rings, same.trans waits⟩
    · rw [waits] at lower
      exact .inr ⟨lively.next _, lower⟩
    · exact .inl ⟨lively.next _, other, again⟩

/-- The loop comes round to where it looks for the shutdown, or it closes the queues. -/
theorem Fair.round (fair : r.Fair c schedule) (lively : r.Lively c)
    (room : 0 < c.config.queueCapacity) : r.Leads c schedule (fun _ => True)
      (fun x => x.loop = .checking ∨ x.loop.queuesClosed = true) := by
  have closer : r.Leads c schedule (fun x => x.Lively c)
      (fun x => x.loop = .checking ∨ x.loop.queuesClosed = true) := by
    refine Leads.descend Nat.lt_wfRel.wf (fun x => x.loop.ahead) fun v => ?_
    rintro n ⟨lively, rfl⟩
    have onward : ∀ {stage : LoopStage}, (r.along c schedule n).loop = stage →
        stage ≠ .checking → stage.queuesClosed = false → (∀ n, stage ≠ .waiting n) →
        (∀ x : ConsumerRun I ω, x.loop = stage → ∃ later, x.loopStep? c = some later) →
        ∃ k, n ≤ k ∧ (((r.along c schedule k).loop = .checking ∨
          (r.along c schedule k).loop.queuesClosed = true) ∨
          (r.along c schedule k).Lively c ∧ (r.along c schedule k).loop.ahead < stage.ahead) := by
      intro stage here away opened moving ready
      obtain ⟨k, later, reached⟩ := fair.onward stage away opened moving ready n ⟨lively, here⟩
      exact ⟨k, later, .inr reached⟩
    cases loop : (r.along c schedule n).loop with
    | checking => exact ⟨n, Nat.le_refl n, .inl (.inl loop)⟩
    | sending d =>
        obtain ⟨k, later, done | leaves⟩ := fair.sends room d n ⟨lively, loop⟩
        · exact ⟨k, later, .inl (.inl done)⟩
        · refine ⟨k, later, .inr ⟨Lively.along ‹_› k, ?_⟩⟩
          rw [leaves]
          exact (of_decide_eq_true rfl : 1 < 3)
    | waiting rings =>
        obtain ⟨k, later, reached⟩ := fair.polls n ⟨lively, rings, loop⟩
        exact ⟨k, later, .inr reached⟩
    | assigning transition =>
        refine onward loop (by simp) rfl (by simp) fun x here => ?_
        simp only [ConsumerRun.loopStep?, here]
        split <;> exact ⟨_, rfl⟩
    | evaluating | turning transition partitions | showingPause | polling | tagging record
    | measuring d | enqueuing d | showing d count | blaming cause | leaving =>
        refine onward loop (by simp) rfl (by simp) fun x here => ?_
        simp only [ConsumerRun.loopStep?, here]
        exact ⟨_, rfl⟩
    | _ => exact ⟨n, Nat.le_refl n, .inl (.inr (by rw [loop]; rfl))⟩
  exact fun n _ => closer n (lively.along n)

/-- Once it has evaluated the gate, the loop polls. -/
theorem loopStep_turned (step : r.loopStep? c = some later) (turning : 9 < r.loop.ahead) :
    later.loop = .polling ∨ 9 < later.loop.ahead ∧ later.loop.ahead < r.loop.ahead := by
  cases loop : r.loop with
  | evaluating =>
      simp only [ConsumerRun.loopStep?, loop, Option.some.injEq] at step
      subst step
      change LoopStage.ofTransition r.shared.gate.evaluate.1 = _ ∨ 9 < (LoopStage.ofTransition
        r.shared.gate.evaluate.1).ahead ∧ (LoopStage.ofTransition _).ahead < 13
      cases r.shared.gate.evaluate.1 with
      | hold => exact .inl rfl
      | pause | resume => exact .inr ⟨of_decide_eq_true rfl, of_decide_eq_true rfl⟩
  | assigning transition =>
      simp only [ConsumerRun.loopStep?, loop] at step
      split at step <;> cases step
      all_goals exact .inr ⟨of_decide_eq_true rfl, of_decide_eq_true rfl⟩
  | turning transition partitions =>
      simp only [ConsumerRun.loopStep?, loop, Option.some.injEq] at step
      subst step
      exact .inr ⟨of_decide_eq_true rfl, of_decide_eq_true rfl⟩
  | showingPause =>
      simp only [ConsumerRun.loopStep?, loop, Option.some.injEq] at step
      subst step
      exact .inl rfl
  | _ =>
      rw [loop] at turning
      exact absurd turning (of_decide_eq_true rfl)

/-- Sooner or later the loop has turned the gate and polls. -/
theorem Fair.turns (fair : r.Fair c schedule) :
    r.Leads c schedule (fun x => 9 < x.loop.ahead) (fun x => x.loop = .polling) := by
  refine fair.descends Nat.lt_wfRel.wf (fun x => x.loop.ahead) (m := .loop) (by simp)
    (fun x turning => ?_) fun x a turning => ?_
  · obtain ⟨later, step⟩ : ∃ later, x.loopStep? c = some later := by
      cases loop : x.loop with
      | evaluating | turning transition partitions | showingPause =>
          simp only [ConsumerRun.loopStep?, loop]
          exact ⟨_, rfl⟩
      | assigning transition =>
          simp only [ConsumerRun.loopStep?, loop]
          split <;> exact ⟨_, rfl⟩
      | _ =>
          rw [loop] at turning
          exact absurd turning (of_decide_eq_true rfl)
    exact ⟨later, step, loopStep_turned step turning⟩
  · have still : x.loop.isPolling = false ∧ x.loop ≠ .draining := by
      cases loop : x.loop with
      | evaluating | assigning transition | turning transition partitions | showingPause =>
          exact ⟨rfl, by simp⟩
      | _ =>
          rw [loop] at turning
          exact absurd turning (of_decide_eq_true rfl)
    rcases next_loop (c := c) a still.1 still.2 with same | step
    · exact .inr ⟨same ▸ turning, .inl (congrArg _ same)⟩
    · rcases loopStep_turned step turning with polls | ⟨above, lower⟩
      · exact .inl polls
      · exact .inr ⟨above, .inr lower⟩

/-- Where the loop goes when it has looked for the shutdown. -/
def looked (r : ConsumerRun I ω) : LoopStage :=
  if r.shared.shutdown.begun then .leaving else .evaluating

/-- A loop that has looked for the shutdown leaves or looks at the gate. -/
theorem looked_cases (r : ConsumerRun I ω) : r.looked = .leaving ∨ r.looked = .evaluating := by
  unfold ConsumerRun.looked
  split
  · exact .inl rfl
  · exact .inr rfl

/-- A loop that looks for the shutdown can always do so. -/
theorem step_checking (checks : r.loop = .checking) : r.loopStep? c = some (r.goTo r.looked) := by
  simp only [ConsumerRun.loopStep?, checks, ConsumerRun.looked]

/-- Whatever happens, a loop that looks for the shutdown stays there or has looked. -/
theorem next_checking (a : Act ω) (checks : r.loop = .checking) :
    (r.next c a).loop = .checking ∨ (r.next c a).loop = r.looked := by
  rcases next_loop (c := c) a (by rw [checks]; rfl) (by rw [checks]; simp) with same | step
  · exact .inl (same.trans checks)
  · rw [step_checking checks, Option.some.injEq] at step
    rw [← step]
    exact .inr rfl

/-- Sooner or later the loop has looked for the shutdown. -/
theorem Fair.looks (fair : r.Fair c schedule) :
    r.Leads c schedule (fun x => x.Lively c ∧ x.loop = .checking)
      (fun x => x.Lively c ∧ (x.loop = .leaving ∨ x.loop = .evaluating)) := by
  refine fair.leads (m := .loop) (by simp) ?_ ?_
  · rintro x ⟨lively, checks⟩
    have step := step_checking (c := c) checks
    exact ⟨_, step, lively.step (m := .loop) step, x.looked_cases⟩
  · rintro n ⟨lively, checks⟩
    rw [along_succ]
    rcases next_checking (c := c) (schedule n) checks with same | looked
    · exact .inl ⟨lively.next _, same⟩
    · exact .inr ⟨lively.next _, looked ▸ looked_cases _⟩

/-- A loop that leaves has closed the queues sooner or later. -/
theorem Fair.leaves (fair : r.Fair c schedule) :
    r.Leads c schedule (fun x => x.Lively c ∧ x.loop = .leaving)
      (fun x => x.Lively c ∧ x.loop.queuesClosed = true) := by
  refine (fair.onward _ (by simp) rfl (by simp) fun x here => ?_).mono (fun _ holds => holds)
    fun _ holds => ⟨holds.1, LoopStage.closed_of_ahead holds.2⟩
  simp only [ConsumerRun.loopStep?, here]
  exact ⟨_, rfl⟩

/-- The loop polls again and again until it closes the queues. -/
theorem Fair.polls_again (fair : r.Fair c schedule) (lively : r.Lively c)
    (room : 0 < c.config.queueCapacity) (n : ℕ) : ∃ k, n ≤ k ∧
      ((r.along c schedule k).loop = .polling ∨
        (r.along c schedule k).loop.queuesClosed = true) := by
  obtain ⟨first, le, checks | closed⟩ := fair.round lively room n trivial
  · obtain ⟨second, next, still, leaves | evaluates⟩ := fair.looks first ⟨lively.along _, checks⟩
    · obtain ⟨k, last, _, closed⟩ := fair.leaves second ⟨still, leaves⟩
      exact ⟨k, Nat.le_trans le (Nat.le_trans next last), .inr closed⟩
    · have turning : 9 < (r.along c schedule second).loop.ahead := by
        rw [evaluates]
        exact of_decide_eq_true rfl
      obtain ⟨k, last, polls⟩ := fair.turns second turning
      exact ⟨k, Nat.le_trans le (Nat.le_trans next last), .inl polls⟩
  · exact ⟨first, le, .inr closed⟩

/-- Once the shutdown has begun, the loop closes the queues. -/
theorem Fair.closes (fair : r.Fair c schedule) (lively : r.Lively c)
    (room : 0 < c.config.queueCapacity) :
    r.Leads c schedule (fun x => x.shared.shutdown.begun = true)
      (fun x => x.loop.queuesClosed = true) := by
  have stops : r.Leads c schedule
      (fun x => x.Lively c ∧ x.shared.shutdown.begun = true ∧ x.loop = .checking)
      (fun x => x.Lively c ∧ x.loop = .leaving) := by
    have leaves : ∀ {x : ConsumerRun I ω}, x.shared.shutdown.begun = true →
        x.looked = .leaving := fun begun => if_pos begun
    refine fair.leads (m := .loop) (by simp) ?_ ?_
    · rintro x ⟨lively, begun, checks⟩
      have step := step_checking (c := c) checks
      exact ⟨_, step, lively.step (m := .loop) step, leaves begun⟩
    · rintro n ⟨lively, begun, checks⟩
      rw [along_succ]
      rcases next_checking (c := c) (schedule n) checks with same | looked
      · exact .inl ⟨lively.next _, next_begun _ begun, same⟩
      · exact .inr ⟨lively.next _, looked.trans (leaves begun)⟩
  intro n begun
  obtain ⟨k, later, checks | closed⟩ := fair.round lively room n trivial
  · have still := along_of_le (P := fun x => x.shared.shutdown.begun = true)
      (fun _ a begun => next_begun a begun) later begun
    obtain ⟨k', last, _, closed⟩ := stops.trans fair.leaves k ⟨lively.along k, still, checks⟩
    exact ⟨k', Nat.le_trans later last, closed⟩
  · exact ⟨k, later, closed⟩

/-- Once the queues are closed, a worker ends. -/
theorem Fair.exits (fair : r.Fair c schedule) (id : Nat) :
    r.Leads c schedule (fun x => x.Lively c ∧ x.loop.queuesClosed = true)
      (fun x => (x.Lively c ∧ x.loop.queuesClosed = true) ∧
        ∀ k : Worker I, x.workers[id]? = some k → k.hasEnded = true) := by
  have ends : r.Leads c schedule (fun x => (x.Lively c ∧ x.loop.queuesClosed = true) ∧
        ∃ k : Worker I, x.workers[id]? = some k ∧ k.hasEnded = false)
      (fun x => (x.Lively c ∧ x.loop.queuesClosed = true) ∧
        ∀ k : Worker I, x.workers[id]? = some k → k.hasEnded = true) := by
    have split : ∀ x : ConsumerRun I ω, ∀ k : Worker I, x.workers[id]? = some k →
        (∀ k : Worker I, x.workers[id]? = some k → k.hasEnded = true) ∨
          ∃ k : Worker I, x.workers[id]? = some k ∧ k.hasEnded = false := by
      intro x k present
      cases ended : k.hasEnded with
      | true => exact .inl fun other there => by cases present.symm.trans there; exact ended
      | false => exact .inr ⟨k, present, ended⟩
    refine fair.descends Worker.less_wellFounded (fun x => x.workOf id) (m := .worker id) (by simp)
      ?_ ?_
    · rintro x ⟨⟨lively, closed⟩, k, present, active⟩
      obtain ⟨h, ns, k', s', stride, step⟩ :=
        worker_ready lively.staffed present active fun _ _ => closed
      have later := lively.step step
      have there : (x.workers.set id k')[id]? = some k' :=
        List.getElem?_set_self (List.getElem?_eq_some_iff.mp present).1
      refine ⟨_, step, ?_⟩
      rw [workOf_set present, workOf_eq present]
      rcases split ⟨x.loop, x.workers.set id k', s'⟩ k' there with ended | active
      · exact .inl ⟨⟨later, closed⟩, ended⟩
      · exact .inr ⟨⟨⟨later, closed⟩, active⟩, stride.advances⟩
    · rintro x a ⟨⟨lively, closed⟩, k, present, active⟩
      obtain ⟨k', there, moved⟩ := next_worker (c := c) a present
      have after := And.intro (lively.next a) (next_closed a lively closed)
      rcases split _ k' there with ended | active
      · exact .inl ⟨after, ended⟩
      · refine .inr ⟨⟨after, active⟩, ?_⟩
        rw [workOf_eq there, workOf_eq present]
        rcases moved with rfl | ⟨h, ns, stride⟩ | ⟨d, sends, _⟩
        · exact .inl rfl
        · exact .inr stride.advances
        · rw [sends] at closed
          cases closed
  rintro n ⟨lively, closed⟩
  by_cases ended : ∀ k : Worker I, (r.along c schedule n).workers[id]? = some k → k.hasEnded = true
  · exact ⟨n, Nat.le_refl n, ⟨lively, closed⟩, ended⟩
  · simp only [not_forall, Bool.not_eq_true] at ended
    obtain ⟨k, present, active⟩ := ended
    exact ends n ⟨⟨lively, closed⟩, k, present, active⟩

/-- Once the queues are closed, all workers end. -/
theorem Fair.drains (fair : r.Fair c schedule) :
    r.Leads c schedule (fun x => x.Lively c ∧ x.loop.queuesClosed = true)
      (fun x => (x.Lively c ∧ x.loop.queuesClosed = true) ∧ x.workersEnded = true) := by
  have upTo : ∀ count : ℕ, r.Leads c schedule (fun x => x.Lively c ∧ x.loop.queuesClosed = true)
      (fun x : ConsumerRun I ω => (x.Lively c ∧ x.loop.queuesClosed = true) ∧
        ∀ id < count, ∀ k : Worker I, x.workers[id]? = some k → k.hasEnded = true) := by
    intro count
    induction count with
    | zero => exact .of_imp fun x holds => ⟨holds, fun id below => (Nat.not_lt_zero id below).elim⟩
    | succ count ih =>
        refine ih.trans ?_
        rintro n ⟨holds, others⟩
        obtain ⟨k, later, after, last⟩ := fair.exits count n holds
        refine ⟨k, later, after, fun id below => ?_⟩
        rcases Nat.lt_succ_iff_lt_or_eq.mp below with before | rfl
        · exact along_of_le (P := fun x => ∀ k : Worker I, x.workers[id]? = some k →
            k.hasEnded = true) (fun _ a ended => next_ended a ended) later (others id before)
        · exact last
  refine (upTo c.handlers.length).mono (fun _ holds => holds) fun x reached => ⟨reached.1, ?_⟩
  obtain ⟨holds, ended⟩ := reached
  refine List.all_eq_true.mpr fun k among => ?_
  obtain ⟨id, present⟩ := List.mem_iff_getElem?.mp among
  refine ended id ?_ k present
  rw [← holds.1.staffed.length]
  exact (List.getElem?_eq_some_iff.mp present).1

/-- When all workers have ended, no unit of work is running. -/
theorem Counted.idle (counted : r.Counted) (ended : r.workersEnded = true) :
    r.shared.shutdown.units = 0 := by
  rw [counted.units]
  refine List.sum_eq_zero fun x among => ?_
  obtain ⟨k, inside, rfl⟩ := List.mem_map.mp among
  have past := List.all_eq_true.mp ended k inside
  unfold Worker.hasEnded at past
  unfold Worker.units
  split at past
  · next stage =>
    rw [stage]
    rfl
  · next stage =>
    rw [stage]
    rfl
  · cases past

/-- Workers that have all ended stay so, whatever happens. -/
theorem next_workersEnded (a : Act ω) (ended : r.workersEnded = true) :
    (r.next c a).workersEnded = true := by
  refine List.all_eq_true.mpr fun k among => ?_
  obtain ⟨id, present⟩ := List.mem_iff_getElem?.mp among
  exact next_ended a (fun k there => ended_of_workersEnded ended there) k present

/-- Once all workers have ended, the run returns. -/
theorem Fair.finishes (fair : r.Fair c schedule) :
    r.Leads c schedule
      (fun x => (x.Lively c ∧ x.loop.queuesClosed = true) ∧ x.workersEnded = true)
      (fun x => ∃ result, x.loop = .returned result) := by
  have split : ∀ x : ConsumerRun I ω, (∃ result, x.loop = .returned result) ∨
      x.loop.result? = none := by
    intro x
    cases found : x.loop.result? with
    | none => exact .inr rfl
    | some result => exact .inl ⟨result, LoopStage.eq_returned found⟩
  have ends : r.Leads c schedule
      (fun x => ((x.Lively c ∧ x.loop.queuesClosed = true) ∧ x.workersEnded = true) ∧
        x.loop.result? = none)
      (fun x => ∃ result, x.loop = .returned result) := by
    refine fair.descends Nat.lt_wfRel.wf (fun x => x.loop.left) (m := .loop) (by simp) ?_ ?_
    · rintro x ⟨⟨⟨lively, closed⟩, ended⟩, unreturned⟩
      have idle := lively.counted.idle ended
      obtain ⟨later, step⟩ := loopStep_ready (c := c) closed ended idle lively.watches unreturned
      obtain ⟨still, _, lower⟩ := loopStep_left step closed lively.watches
      have same : later = x.next c (.move .loop) := by
        simp only [ConsumerRun.next, ConsumerRun.step?, step, Option.getD_some]
      refine ⟨later, step, (split later).imp_right fun unreturned => ?_⟩
      refine ⟨⟨⟨⟨lively.step (m := .loop) step, still⟩, ?_⟩, unreturned⟩, lower idle⟩
      rw [same]
      exact next_workersEnded _ ended
    · rintro x a ⟨⟨⟨lively, closed⟩, ended⟩, unreturned⟩
      have idle := lively.counted.idle ended
      refine (split (x.next c a)).imp_right fun unreturned => ⟨⟨⟨⟨lively.next a,
        next_closed a lively closed⟩, next_workersEnded a ended⟩, unreturned⟩, ?_⟩
      exact next_left a lively closed idle
  intro n holds
  rcases split (r.along c schedule n) with returned | unreturned
  · exact ⟨n, Nat.le_refl n, returned⟩
  · exact ends n ⟨holds, unreturned⟩

/-- Once the shutdown has begun, the run returns. -/
theorem Fair.returns (fair : r.Fair c schedule) (lively : r.Lively c)
    (room : 0 < c.config.queueCapacity) :
    r.Leads c schedule (fun x => x.shared.shutdown.begun = true)
      (fun x => ∃ result, x.loop = .returned result) := by
  intro n begun
  obtain ⟨k, later, closed⟩ := fair.closes lively room n begun
  obtain ⟨k', last, returned⟩ := fair.drains.trans fair.finishes k ⟨lively.along k, closed⟩
  exact ⟨k', Nat.le_trans later last, returned⟩

end ConsumerRun

end AlertRelay
