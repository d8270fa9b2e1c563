import AlertRelay.Proofs.Delivery.Seat

/-!
# Whether a paused gate opens again

A gate that is paused and counts nothing opens when it is evaluated next, if its low mark is above
zero. So a run does not stall for good: the loop comes round to the gate, or the workers exit
(`ConsumerRun.Fair.unstalls`). Settings with a low mark of zero are accepted as well. With those the
gate never opens again once it has paused (`ConsumerRun.shut_after`), whatever is left to read.
-/

namespace AlertRelay

variable {I : Interface} {ω : Type}

/-- Whether a worker has nothing in hand and nothing in its queue. -/
def Worker.isIdle (k : Worker I) : Bool :=
  match k.stage with
  | .idle => k.queue.isEmpty
  | _ => false

/-- A worker is idle just if it has nothing in hand and nothing in its queue. -/
theorem Worker.isIdle_iff {k : Worker I} : k.isIdle = true ↔ k.stage = .idle ∧ k.queue = [] := by
  unfold Worker.isIdle
  cases k.stage <;> simp

namespace ConsumerRun

variable {c : Consumer I ω} {r later : ConsumerRun I ω} {m : Move}

/-- Whether the gate is paused while all workers are idle and all queues are empty. -/
def Stalled (r : ConsumerRun I ω) : Prop :=
  r.shared.gate.paused = true ∧ ∀ k ∈ r.workers, k.isIdle = true

instance (r : ConsumerRun I ω) : Decidable r.Stalled := inferInstanceAs (Decidable (_ ∧ _))

/-- What a move does to the gate: it counts, or the loop evaluates it. -/
theorem step_gate (step : r.step? c m = some later) :
    (later.shared.gate.low = r.shared.gate.low ∧
      later.shared.gate.paused = r.shared.gate.paused) ∨
      later.shared.gate = r.shared.gate.evaluate.2 := by
  rcases step_cases step with ⟨id, k, h, k', s', rfl, _, _, stepped, _, rfl⟩ | ⟨ns, _, shift⟩
  · have relieved := (Worker.step_stride stepped).gate
    exact .inl ⟨relieved.low, relieved.paused⟩
  · cases shift with
    | quiet alike =>
        rw [alike.gate]
        exact .inl ⟨rfl, rfl⟩
    | evaluate evaluates => exact .inr rfl
    | _ => exact .inl ⟨rfl, rfl⟩

/-- No act changes the low mark of the gate. -/
theorem low_after (acts : List (Act ω)) :
    (r.after c acts).shared.gate.low = r.shared.gate.low := by
  refine after_induction (P := fun x => x.shared.gate.low = r.shared.gate.low) acts rfl
    fun x a _ same => next_cases (P := fun y => y.shared.gate.low = r.shared.gate.low) a same
      (fun m later _ step => ?_) fun _ _ => same
  rcases step_gate step with ⟨low, _⟩ | evaluated
  · exact low.trans same
  · rw [evaluated]
    exact x.shared.gate.evaluate_counts.2.1.trans same

/-- With a low mark of zero, a gate that has paused stays so. -/
theorem shut_after (paused : r.shared.gate.paused = true) (least : r.shared.gate.low = 0)
    (acts : List (Act ω)) : (r.after c acts).shared.gate.paused = true := by
  refine (after_induction (P := fun x => x.shared.gate.paused = true ∧ x.shared.gate.low = 0) acts
    ⟨paused, least⟩ fun x a _ shut => next_cases (P := fun y => y.shared.gate.paused = true ∧
      y.shared.gate.low = 0) a shut (fun m later _ step => ?_) fun _ _ => shut).1
  obtain ⟨paused, least⟩ := shut
  rcases step_gate step with ⟨low, same⟩ | evaluated
  · exact ⟨same.trans paused, low.trans least⟩
  · rw [evaluated, Gate.evaluate_shut paused least]
    exact ⟨paused, least⟩

variable {schedule : ℕ → Act ω}

/-- The low mark of the gate stays along any schedule. -/
theorem low_along (n : ℕ) : (r.along c schedule n).shared.gate.low = r.shared.gate.low :=
  low_after _

/-- A stalled run that evaluates its gate opens it. -/
theorem Stalled.evaluate (stalled : r.Stalled) (counted : r.Counted)
    (evaluates : r.loop = .evaluating) (low : 0 < r.shared.gate.low) :
    r.shared.gate.evaluate.2.paused = false := by
  obtain ⟨paused, idle⟩ := stalled
  have drained : r.shared.gate.inFlight = 0 := by
    rw [counted.inFlight, ConsumerRun.load, evaluates, List.sum_eq_zero fun x among => ?_]
    · rfl
    · obtain ⟨k, inside, rfl⟩ := List.mem_map.mp among
      obtain ⟨stage, queue⟩ := Worker.isIdle_iff.mp (idle k inside)
      unfold Worker.load
      rw [stage, queue]
      rfl
  rw [Gate.evaluate_drained paused drained, if_neg (Nat.ne_of_gt low)]

/-- A stalled run that comes to evaluate its gate is not stalled after that. -/
theorem Fair.opens (fair : r.Fair c schedule) (low : 0 < r.shared.gate.low) :
    r.Leads c schedule (fun x => x.Lively c ∧ x.Stalled ∧ 0 < x.shared.gate.low ∧
      x.loop = .evaluating) (fun x => ¬x.Stalled) := by
  refine fair.leads (m := .loop) (by simp) ?_ ?_
  · rintro x ⟨lively, stalled, low, evaluates⟩
    have opened := stalled.evaluate lively.counted evaluates low
    refine ⟨x.goWith (.ofTransition x.shared.gate.evaluate.1)
      { x.shared with gate := x.shared.gate.evaluate.2 }, ?_, fun still => ?_⟩
    · simp only [ConsumerRun.step?, ConsumerRun.loopStep?, evaluates]
    · have paused : x.shared.gate.evaluate.2.paused = true := still.1
      rw [opened] at paused
      cases paused
  · rintro n ⟨lively, stalled, positive, evaluates⟩
    by_cases again : (r.along c schedule (n + 1)).Stalled
    · refine .inl ⟨?_, again, ?_, ?_⟩
      · rw [along_succ]
        exact lively.next _
      · rw [low_along]
        exact low
      · rw [along_succ] at again ⊢
        rcases next_loop (c := c) (schedule n) (by rw [evaluates]; rfl) (by rw [evaluates]; simp)
          with same | step
        · exact same.trans evaluates
        · simp only [ConsumerRun.loopStep?, evaluates, Option.some.injEq] at step
          have paused := again.1
          rw [← step] at paused
          change (r.along c schedule n).shared.gate.evaluate.2.paused = true at paused
          rw [stalled.evaluate lively.counted evaluates positive] at paused
          cases paused
    · exact .inr again

/-- A run does not stall for good. -/
theorem Fair.unstalls (fair : r.Fair c schedule) (lively : r.Lively c)
    (room : 0 < c.config.queueCapacity) (handlers : c.handlers ≠ [])
    (low : 0 < r.shared.gate.low) (n : ℕ) : ∃ k, n ≤ k ∧ ¬(r.along c schedule k).Stalled := by
  have exits : r.Leads c schedule (fun x => x.Lively c ∧ x.loop.queuesClosed = true)
      (fun x => ¬x.Stalled) := by
    refine fair.drains.mono (fun _ holds => holds) ?_
    rintro x ⟨⟨lively, _⟩, ended⟩ ⟨_, idle⟩
    have some : 0 < x.workers.length := by
      rw [lively.staffed.length]
      exact List.length_pos_iff.mpr handlers
    have among := List.getElem_mem some
    have past := List.all_eq_true.mp ended _ among
    unfold Worker.hasEnded at past
    rw [(Worker.isIdle_iff.mp (idle _ among)).1] at past
    cases past
  obtain ⟨first, le, checks | closed⟩ := fair.round lively room n trivial
  · obtain ⟨second, next, still, leaves | evaluates⟩ := fair.looks first ⟨lively.along _, checks⟩
    · obtain ⟨k, last, done⟩ := fair.leaves.trans exits second ⟨still, leaves⟩
      exact ⟨k, Nat.le_trans le (Nat.le_trans next last), done⟩
    · by_cases stalled : (r.along c schedule second).Stalled
      · have positive : 0 < (r.along c schedule second).shared.gate.low := by
          rw [low_along]
          exact low
        obtain ⟨k, last, done⟩ := fair.opens low second ⟨still, stalled, positive, evaluates⟩
        exact ⟨k, Nat.le_trans le (Nat.le_trans next last), done⟩
      · exact ⟨second, Nat.le_trans le next, stalled⟩
  · obtain ⟨k, last, done⟩ := exits first ⟨lively.along _, closed⟩
    exact ⟨k, Nat.le_trans le last, done⟩

/-- For settings that are accepted: a gate that is paused and counts nothing, after whatever calls,
opens when it is evaluated, unless the low mark is zero. Above zero, no run over any source stalls
for good. At zero, the gate of a run stays paused from its first pause on. -/
theorem reopens_unless_low_zero (c : Consumer I ω) (check : c.check = .ok ()) :
    (∀ calls, let g := (Gate.new c.config.highWatermark c.config.lowWatermark).after calls
      g.paused = true → g.inFlight = 0 →
        g.evaluate.1 = if c.config.lowWatermark = 0 then .hold else .resume) ∧
    (0 < c.config.lowWatermark → ∀ outside schedule, (c.start outside).Fair c schedule →
      ∀ n, ∃ k, n ≤ k ∧ ¬((c.start outside).along c schedule k).Stalled) ∧
    (c.config.lowWatermark = 0 → ∀ outside acts more,
      ((c.start outside).after c acts).shared.gate.paused = true →
        ((c.start outside).after c (acts ++ more)).shared.gate.paused = true) := by
  obtain ⟨valid, handlers⟩ := Consumer.check_ok check
  refine ⟨fun calls => ?_, fun low outside schedule fair n => ?_,
    fun least outside acts more paused => ?_⟩
  · intro g paused drained
    have same : g.low = c.config.lowWatermark := Gate.after_low _ calls
    rw [Gate.evaluate_drained paused drained, same]
    split <;> rfl
  · exact fair.unstalls (lively_start c outside)
      (Nat.zero_lt_of_lt (ConsumerConfig.room_of_validate valid)) handlers low n
  · rw [after_append]
    exact shut_after paused ((low_after acts).trans least) more

/-- The marks are two and one, five records are there, and everybody moves in turn. -/
theorem reopens_unless_low_zero_one :
    let c := Seat.reader 2 1
    let run := c.start (Seat.filled 5)
    c.check = .ok () ∧ 0 < c.config.lowWatermark ∧ run.Fair c Act.rota ∧
      ∃ k, 100 ≤ k ∧ ¬(run.along c Act.rota k).Stalled := by
  intro c run
  have fair := run.fair_rota c
  exact ⟨rfl, Nat.one_pos, fair,
    (reopens_unless_low_zero c rfl).2.1 Nat.one_pos _ Act.rota fair 100⟩

/-- The high mark is one and the low mark zero, which is accepted. The loop polls two of three
records and pauses, and the worker is done with both. The third record is there to be read, but
the run is stalled: the gate holds, and whatever happens, it never opens again. -/
theorem stalls :
    let c := Seat.reader 1 0
    let r := (c.start (Seat.filled 3)).after c
      (List.replicate 21 (.move .loop) ++ List.replicate 14 (.move (.worker 0)))
    c.check = .ok () ∧ r.Stalled ∧ r.shared.gate.inFlight = 0 ∧
      r.shared.gate.evaluate.1 = .hold ∧ r.shared.outside.1.isPaused ⟨"events", 0⟩ = true ∧
      (r.shared.outside.2.record? ⟨"events", 0⟩ 2).isSome = true ∧
      ∀ more, (r.after c more).shared.gate.paused = true := by
  intro c r
  have stalled : r.Stalled := by decide +kernel
  have least : r.shared.gate.low = 0 := by decide +kernel
  exact ⟨rfl, stalled, by decide +kernel, by decide +kernel, by decide +kernel,
    by decide +kernel, shut_after stalled.1 least⟩

end ConsumerRun

end AlertRelay
