import AlertRelay.Proofs.Delivery.Failure
import AlertRelay.Proofs.Delivery.Progress

/-!
# What is to be seen of a deployment

A deployment leaves the trace that its run leaves; what happens around the consumer is not seen.

As long as the consumer is not started again, whatever happens is a step of one worker, or leaves
all workers as they are but for what lies in their queues (`Deployment.passes_step`).
-/

namespace AlertRelay

/-- Whether the consumer goes on. -/
def Happening.lasts : Happening → Bool
  | restart _ _ _ => false
  | _ => true

/-- Whether a worker is as it was, but for what lies in its queue. -/
structure Worker.Alike {I : Interface} (k later : Worker I) : Prop where
  stage : later.stage = k.stage
  redeliveries : later.redeliveries = k.redeliveries
  failed : later.failed = k.failed

theorem Worker.Alike.refl {I : Interface} (k : Worker I) : k.Alike k := ⟨rfl, rfl, rfl⟩

theorem Worker.Alike.halted {I : Interface} {k later : Worker I} (alike : k.Alike later)
    (halted : k.Halted) : later.Halted := by
  unfold Worker.Halted Worker.hasFailed at *
  rw [alike.stage, alike.failed]
  exact halted

namespace Deployment

/-- What is to be seen of what happens. -/
def seen (d : Deployment) : Happening → List Notice
  | .move m => d.run.seen d.consumer (.move m)
  | _ => []

/-- What is to be seen of all that happens, one after the other. -/
def trace : Deployment → List Happening → List Notice
  | _, [] => []
  | d, happening :: rest => d.seen happening ++ (d.step happening).trace rest

variable {d : Deployment}

theorem trace_append (first rest : List Happening) :
    d.trace (first ++ rest) = d.trace first ++ (d.after first).trace rest := by
  induction first generalizing d with
  | nil => rfl
  | cons happening first ih =>
      rw [List.cons_append, Deployment.trace, ih, Deployment.trace, List.append_assoc]
      rfl

/-- What holds before anything happens and is kept by all that happens, together with what is seen
of it, holds of a deployment and its trace. -/
theorem trace_induction {P : Deployment → List Notice → Prop} (happenings : List Happening)
    (now : P d [])
    (step : ∀ x t, ∀ happening ∈ happenings, P x t →
      P (x.step happening) (t ++ x.seen happening)) :
    P (d.after happenings) (d.trace happenings) := by
  induction happenings using List.reverseRecOn with
  | nil => exact now
  | append_singleton happenings happening ih =>
      have before := ih fun x t other among => step x t other (List.mem_append_left _ among)
      rw [trace_append, Deployment.trace, Deployment.trace, List.append_nil, Deployment.after,
        List.foldl_append]
      exact step _ _ happening (List.mem_append_right _ (List.mem_singleton_self happening)) before

/-- What can become of the workers, and what is to be seen of it. -/
inductive Passes (d later : Deployment) : List Notice → Prop where
  | stride (id : Nat) (k k' : Worker Interface.relay) (after : Shared Site)
      (ns : List WorkerNotice) (present : d.run.workers[id]? = some k)
      (stride : k.Stride d.consumer id (Site.handler d.settings) d.run.loop.queuesClosed
        d.run.shared ns k' after)
      (workers : later.run.workers = d.run.workers.set id k')
      (units : ∀ i, later.units i =
        if i = id then k.stage.viewAfter id d.site.world (d.units id) else d.units i) :
      Passes d later (ns.map (.worker id))
  | around (ns : List LoopNotice) (units : later.units = d.units)
      (count : later.run.workers.length = d.run.workers.length)
      (alike : ∀ (id : Nat) (k' : Worker Interface.relay), later.run.workers[id]? = some k' →
        ∃ k : Worker Interface.relay, d.run.workers[id]? = some k ∧ k.Alike k') :
      Passes d later (ns.map .loop)

theorem Passes.still {later : Deployment} (workers : later.run.workers = d.run.workers)
    (units : later.units = d.units) : d.Passes later [] := by
  refine .around [] units (congrArg List.length workers) fun id k' present => ?_
  rw [workers] at present
  exact ⟨k', present, .refl k'⟩

theorem seen_of_none {m : Move} (step : d.run.step? d.consumer m = none) :
    d.seen (.move m) = [] := by
  simp only [Deployment.seen, ConsumerRun.seen, step, Option.isSome_none, Bool.false_eq_true,
    ↓reduceIte]

theorem seen_of_some {m : Move} {later : ConsumerRun Interface.relay Site}
    (step : d.run.step? d.consumer m = some later) :
    d.seen (.move m) = d.run.notices d.consumer m := by
  simp only [Deployment.seen, ConsumerRun.seen, step, Option.isSome_some, ↓reduceIte]

/-- A step of a worker passes the workers on, with what is seen of it. -/
theorem passes_stepWorker (d : Deployment) (id : Nat) :
    d.Passes (d.stepWorker id) (d.seen (.move (.worker id))) := by
  unfold Deployment.stepWorker
  cases step : d.run.step? d.consumer (.worker id) with
  | none =>
      rw [seen_of_none step, show d.run.workerStep? d.consumer id = none from step]
      cases d.run.workers[id]? <;> exact .still rfl rfl
  | some later =>
      rw [seen_of_some step, show d.run.workerStep? d.consumer id = some later from step]
      cases ConsumerRun.moved_of_step step with
      | worker _ k k' h after present handler stepped =>
          have same : h = Site.handler d.settings :=
            List.eq_of_mem_replicate (List.mem_of_getElem? handler)
          subst same
          simp only [ConsumerRun.notices, present, handler]
          exact .stride id k k' after _ present (Worker.step_stride stepped) rfl fun _ => rfl

theorem move_of_none {m : Move} (other : ∀ id, m ≠ .worker id)
    (step : d.run.step? d.consumer m = none) : d.move m = d := by
  cases m with
  | worker id => exact (other id rfl).elim
  | _ => simp only [Deployment.move, step]

theorem move_of_some {m : Move} {later : ConsumerRun Interface.relay Site}
    (other : ∀ id, m ≠ .worker id) (step : d.run.step? d.consumer m = some later) :
    d.move m = { d with run := later } := by
  cases m with
  | worker id => exact (other id rfl).elim
  | _ => simp only [Deployment.move, step]

/-- A move of anyone else leaves the workers alike, with what is seen of it. -/
theorem passes_turns {m : Move} (other : ∀ id, m ≠ .worker id) :
    d.Passes (d.move m) (d.seen (.move m)) := by
  cases step : d.run.step? d.consumer m with
  | none =>
      rw [seen_of_none step, move_of_none other step]
      exact .still rfl rfl
  | some later =>
      rw [seen_of_some step, move_of_some other step]
      have kept : ∀ ns : List LoopNotice, later.workers = d.run.workers →
          d.Passes { d with run := later } (ns.map .loop) := by
        intro ns workers
        refine .around ns rfl (congrArg List.length workers) fun id k' present => ?_
        rw [workers] at present
        exact ⟨k', present, .refl k'⟩
      rcases ConsumerRun.step_cases step with ⟨id, _, _, _, _, same, _⟩ | ⟨ns, noticed, shift⟩
      · exact (other id same).elim
      · rw [noticed]
        cases shift with
        | quiet alike => exact kept _ alike.workers
        | send x k sends present active room =>
            refine .around _ rfl List.length_set fun id k' there => ?_
            rcases getElem?_set_cases there with ⟨rfl, rfl⟩ | ⟨_, there⟩
            · exact ⟨k, present, rfl, rfl, rfl⟩
            · exact ⟨k', there, .refl k'⟩
        | _ => exact kept _ rfl

/-- Whatever happens before the consumer is started again is a step of one worker, or leaves all
workers alike. -/
theorem passes_step (d : Deployment) {happening : Happening} (lasts : happening.lasts = true) :
    d.Passes (d.step happening) (d.seen happening) := by
  cases happening with
  | move m =>
      by_cases worker : ∃ id, m = .worker id
      · obtain ⟨id, rfl⟩ := worker
        exact d.passes_stepWorker id
      · exact passes_turns fun id same => worker ⟨id, same⟩
  | restart config workers w => cases lasts
  | _ => exact .still rfl rfl

/-- The settings stay while the consumer goes on. -/
theorem step_config (d : Deployment) {happening : Happening} (lasts : happening.lasts = true) :
    (d.step happening).config = d.config := by
  cases happening with
  | move m =>
      cases m with
      | worker id =>
          change (d.stepWorker id).config = d.config
          rcases d.stepWorker_cases id with same | ⟨_, _, _, _, _, same⟩ <;> rw [same]
      | loop | cancel | timeout | stop =>
          simp only [Deployment.step, Deployment.move]
          split <;> rfl
  | restart config workers w => cases lasts
  | _ => rfl

end Deployment

end AlertRelay
