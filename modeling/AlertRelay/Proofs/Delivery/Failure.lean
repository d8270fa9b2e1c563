import AlertRelay.Proofs.Delivery.Ending
import AlertRelay.Proofs.Delivery.Faults

/-!
# Fatal errors

A worker that has met a fault calls its handler no more (`ConsumerRun.Halting`), so that nothing of
its partitions is worked on after that. A fault begins the shutdown, and the run returns the first
fault that was stored (`ConsumerRun.fails_iff_fault`).
-/

namespace AlertRelay

/-- The delivery whose record the handler is called for, be it to set the record aside. -/
def WorkerNotice.begins? : WorkerNotice → Option Delivery
  | began d | beganAside d _ => some d
  | _ => none

variable {I : Interface} {ω : Type}

namespace LoopStage

theorem eq_blaming {stage : LoopStage} {cause : RelayError} (blames : stage.blame? = some cause) :
    stage = blaming cause := by
  cases stage with
  | blaming other =>
      cases blames
      rfl
  | _ => cases blames

/-- A loop that is near its end leaves or has closed the queues. -/
theorem near_cases {stage : LoopStage} (near : stage.ahead < 2) :
    stage = leaving ∨ stage.queuesClosed = true := by
  cases stage with
  | leaving => exact .inl rfl
  | draining | abandoning | idling wait | joining | closing | settling | returned result =>
      exact .inr rfl
  | _ => exact absurd near (of_decide_eq_true rfl)

end LoopStage

namespace WorkerStage

/-- Whether a worker is about to call its handler, or in such a call. -/
def isCalling : WorkerStage I → Bool
  | admitted _ | handling _ _ | rewinding _ | settingAside _ _ _ => true
  | _ => false

/-- A worker that stops after a fatal error does not call its handler. -/
theorem not_calling_of_failing {stage : WorkerStage I} (failing : stage.isFailing = true) :
    stage.isCalling = false := by
  cases stage with
  | failing d cause | blaming d cause | stopping d => rfl
  | _ => cases failing

end WorkerStage

namespace Worker

/-- Whether a worker has met a fatal error and is done with its handler. -/
def Halted (k : Worker I) : Prop := k.hasFailed = true ∧ k.stage.isCalling = false

variable {c : Consumer I ω} {h : RecordHandler I} {id : Nat} {closed : Bool}
  {k later : Worker I} {s after : Shared ω} {ns : List WorkerNotice}

/-- A worker that stops after a fatal error is done with its handler. -/
theorem Halted.of_failing (failing : k.stage.isFailing = true) : k.Halted := by
  refine ⟨?_, WorkerStage.not_calling_of_failing failing⟩
  unfold Worker.hasFailed
  rw [failing, Bool.or_true]

namespace Stride

/-- A worker that has halted stays so, and calls its handler no more. -/
theorem halted (stride : Stride c id h closed k s ns later after) (halted : k.Halted) :
    later.Halted ∧ ∀ n ∈ ns, n.begins? = none := by
  obtain ⟨failed, quiet⟩ := halted
  unfold Worker.Halted Worker.hasFailed at *
  cases stride with
  | accept d awaiting stage active =>
      rw [active, stage] at failed
      cases failed
  | crash d stage =>
      rcases stage with stage | ⟨_, stage⟩ <;> simp [stage, WorkerStage.isCalling] at quiet
  | _ => simp_all [WorkerStage.isFailing, WorkerStage.isCalling, WorkerNotice.begins?]

/-- A worker that meets a fault is on the way to stop. -/
theorem fails (stride : Stride c id h closed k s ns later after) {n : WorkerNotice} (among : n ∈ ns)
    (fault : n.fault? ≠ none) : later.stage.isFailing = true := by
  cases stride with
  | fail d cause stage | failAside d cause stage | failRewind d cause outside stage => rfl
  | settle d outcome redeliveries stage failed faultless =>
      rw [List.mem_singleton.mp among] at fault
      exact (fault faultless).elim
  | giveUp d stage =>
      rcases List.mem_pair.mp among with rfl | rfl <;> exact (fault rfl).elim
  | _ => simp_all [WorkerNotice.fault?]

/-- On that way it begins the shutdown. -/
theorem stops (stride : Stride c id h closed k s ns later after)
    (failing : k.stage.isFailing = true) : after.shutdown.begun = true ∨
      later.stage.isFailing = true ∧ later.stage.level < k.stage.level := by
  cases stride with
  | stop d stage => exact .inl rfl
  | seekBack d cause stage | blame d cause stage =>
      rw [stage]
      exact .inr ⟨rfl, of_decide_eq_true rfl⟩
  | crash d stage =>
      rcases stage with stage | ⟨_, stage⟩ <;> simp [stage, WorkerStage.isFailing] at failing
  | _ => simp_all [WorkerStage.isFailing]

/-- No stride meets a fault and calls the handler after that. -/
theorem calls (stride : Stride c id h closed k s ns later after) :
    ns.Pairwise fun earlier later => earlier.fault? ≠ none → later.begins? = none := by
  cases stride with
  | giveUp d stage => simp [WorkerNotice.fault?]
  | _ => simp

/-- A record is set aside after the handler was called for it. -/
theorem aside (stride : Stride c id h closed k s ns later after) {d : Delivery}
    {reason : DeadLetterReason} (among : WorkerNotice.beganAside d reason ∈ ns) :
    k.stage.unended? = some d := by
  cases stride with
  | giveUp x stage =>
      obtain ⟨rfl, _⟩ : d = x ∧ reason = .processingFailure := by simpa using among
      rw [stage]
      rfl
  | _ => simp at among

end Stride

end Worker

namespace ConsumerRun

variable {c : Consumer I ω} {r later : ConsumerRun I ω} {m : Move} {t : List Notice}

/-- Whether workers that have met a fault are done with their handlers. -/
structure Halting (r : ConsumerRun I ω) (t : List Notice) : Prop where
  halted : ∀ id (k : Worker I), r.workers[id]? = some k →
    (∃ n, Notice.worker id n ∈ t ∧ n.fault? ≠ none) → k.Halted
  calls : t.Pairwise fun earlier later => ∀ id n n', earlier = .worker id n →
    later = .worker id n' → n.fault? ≠ none → n'.begins? = none
  aside : ∀ id d reason, Notice.worker id (.beganAside d reason) ∈ t →
    Notice.worker id (.began d) ∈ t

/-- What a worker reports is among its notices. -/
theorem mem_reports {α : Type} {id : Nat} {f : WorkerNotice → Option α} {a : α} :
    a ∈ t.filterMap (Notice.reports id f) ↔ ∃ n, Notice.worker id n ∈ t ∧ f n = some a := by
  rw [List.mem_filterMap]
  constructor
  · rintro ⟨n, among, found⟩
    cases n with
    | loop n => cases found
    | worker other n =>
        by_cases same : other = id
        · subst same
          simp only [Notice.reports, Notice.byWorker, ↓reduceIte, Option.bind_some] at found
          exact ⟨n, among, found⟩
        · simp [Notice.reports, Notice.byWorker, same] at found
  · rintro ⟨n, among, found⟩
    refine ⟨_, among, ?_⟩
    simp [Notice.reports, Notice.byWorker, found]

/-- A worker that is in a call of its handler has begun it. -/
theorem Account.begun (account : r.Account c t) {id : Nat} {k : Worker I} {d : Delivery}
    (present : r.workers[id]? = some k) (handles : k.stage.unended? = some d) :
    Notice.worker id (.began d) ∈ t := by
  have intact : k.stage ≠ .crashed := by
    intro crashed
    rw [crashed] at handles
    cases handles
  have among : d ∈ t.filterMap (Notice.reports id WorkerNotice.began?) := by
    rw [(account.workers id k present).ended intact, handles]
    simp
  obtain ⟨n, there, found⟩ := mem_reports.mp among
  cases n with
  | began x =>
      cases found
      exact there
  | _ => cases found

/-- A step of a worker leaves those done with their handlers that have met a fault. -/
theorem Halting.stride {id : Nat} {k k' : Worker I} {h : RecordHandler I} {closed : Bool}
    {ns : List WorkerNotice} {s' : Shared ω} (halting : r.Halting t) (account : r.Account c t)
    (present : r.workers[id]? = some k)
    (stride : Worker.Stride c id h closed k r.shared ns k' s') :
    Halting { r with workers := r.workers.set id k', shared := s' } (t ++ ns.map (.worker id)) := by
  refine ⟨fun other x there => ?_, ?_, ?_⟩
  · rintro ⟨n, among, fault⟩
    rcases getElem?_set_cases there with ⟨rfl, rfl⟩ | ⟨different, there⟩
    · rcases List.mem_append.mp among with before | now
      · exact (stride.halted (halting.halted id k present ⟨n, before, fault⟩)).1
      · obtain ⟨n, inside, same⟩ := List.mem_map.mp now
        cases same
        exact .of_failing (stride.fails inside fault)
    · rcases List.mem_append.mp among with before | now
      · exact halting.halted other x there ⟨n, before, fault⟩
      · obtain ⟨_, _, same⟩ := List.mem_map.mp now
        cases same
        exact (different rfl).elim
  · refine List.pairwise_append.mpr ⟨halting.calls, ?_, ?_⟩
    · refine List.Pairwise.map (Notice.worker id) ?_ stride.calls
      rintro earlier later calls _ n n' ⟨⟩ ⟨⟩
      exact calls
    · rintro earlier before later now other n n' rfl rfl fault
      obtain ⟨n', inside, same⟩ := List.mem_map.mp now
      cases same
      exact (stride.halted (halting.halted id k present ⟨n, before, fault⟩)).2 n' inside
  · intro other d reason among
    rcases List.mem_append.mp among with before | now
    · exact List.mem_append_left _ (halting.aside other d reason before)
    · obtain ⟨n, inside, same⟩ := List.mem_map.mp now
      cases same
      exact List.mem_append_left _ (account.begun present (stride.aside inside))

/-- A move of the loop leaves those workers done with their handlers that have met a fault. -/
theorem Halting.shift {ns : List LoopNotice} (halting : r.Halting t) (shift : Shift c r ns later) :
    later.Halting (t ++ ns.map .loop) := by
  have silent : ∀ id n, Notice.worker id n ∉ ns.map .loop := by
    intro id n among
    obtain ⟨_, _, same⟩ := List.mem_map.mp among
    cases same
  refine ⟨fun id x there => ?_, ?_, fun id d reason among => ?_⟩
  · rintro ⟨n, among, fault⟩
    obtain ⟨k, present, stage, failed⟩ := shift.crew there
    have before := (List.mem_append.mp among).resolve_right (silent id n)
    unfold Worker.Halted Worker.hasFailed
    rw [stage, failed]
    exact halting.halted id k present ⟨n, before, fault⟩
  · refine List.pairwise_append.mpr ⟨halting.calls, ?_, ?_⟩
    · refine List.pairwise_of_forall_mem_list fun earlier now later _ id n n' same _ _ => ?_
      rw [same] at now
      exact (silent id n now).elim
    · rintro earlier before later now id n n' rfl rfl fault
      exact (silent id n' now).elim
  · have before := (List.mem_append.mp among).resolve_right (silent id _)
    exact List.mem_append_left _ (halting.aside id d reason before)

/-- After any acts, whoever has met a fault is done with its handler. -/
theorem halting_after (c : Consumer I ω) (outside : ω) (acts : List (Act ω)) :
    ((c.start outside).after c acts).Halting ((c.start outside).trace c acts) := by
  refine (trace_induction (P := fun x t => x.Staffed c ∧ x.Account c t ∧ x.Halting t) acts
    ⟨staffed_start c outside, account_after c outside [], ?_⟩ ?_ ?_).2.2
  · refine ⟨?_, .nil, fun id d reason among => nomatch among⟩
    rintro id k there ⟨n, among, _⟩
    cases among
  · rintro x t m later ⟨staffed, account, halting⟩ step
    refine ⟨staffed.step step, account.step staffed step, ?_⟩
    rcases step_cases step with ⟨id, k, h, k', s', rfl, present, handler, stepped, seen, rfl⟩ |
      ⟨ns, seen, shift⟩
    · rw [seen]
      exact halting.stride account present (Worker.step_stride stepped)
    · rw [seen]
      exact halting.shift shift
  · rintro x t change ⟨staffed, account, halting⟩
    exact ⟨staffed.next (.outside change),
      ⟨account.known, account.routed, account.workers, account.abandoned, account.explained⟩,
      ⟨halting.halted, halting.calls, halting.aside⟩⟩

/-! ## Faults end runs -/

theorem next_of_step (step : r.step? c m = some later) : r.next c (.move m) = later := by
  simp only [ConsumerRun.next, step, Option.getD_some]

/-- What an act does to the stage of a worker. -/
theorem next_stage (a : Act ω) {id : Nat} {k : Worker I} (present : r.workers[id]? = some k) :
    ∃ k', (r.next c a).workers[id]? = some k' ∧ (k'.stage = k.stage ∨ ∃ h ns,
      Worker.Stride c id h r.loop.queuesClosed k r.shared ns k' (r.next c a).shared) := by
  obtain ⟨k', there, rfl | stride | ⟨d, _, _, rfl⟩⟩ := next_worker (c := c) a present
  · exact ⟨k', there, .inl rfl⟩
  · exact ⟨k', there, .inr stride⟩
  · exact ⟨_, there, .inl rfl⟩

/-- Whether the shutdown has begun or is about to, because of a fault. -/
def Doomed (r : ConsumerRun I ω) : Prop :=
  r.shared.shutdown.begun = true ∨
    (∃ id : Nat, ∃ k : Worker I, r.workers[id]? = some k ∧ k.stage.isFailing = true) ∨
    r.loop = .leaving ∨ ∃ cause, r.loop = .blaming cause

/-- A run that is to stop because of a fault stays so, whatever happens. -/
theorem Doomed.next (doomed : r.Doomed) (a : Act ω) : (r.next c a).Doomed := by
  rcases doomed with begun | ⟨id, k, present, failing⟩ | leaves | ⟨cause, blames⟩
  · exact .inl (next_begun a begun)
  · obtain ⟨k', there, same | ⟨h, ns, stride⟩⟩ := next_stage (c := c) a present
    · exact .inr (.inl ⟨id, k', there, same ▸ failing⟩)
    · rcases stride.stops failing with begun | ⟨still, _⟩
      · exact .inl begun
      · exact .inr (.inl ⟨id, k', there, still⟩)
  · rcases next_loop (c := c) a (by rw [leaves]; rfl) (by rw [leaves]; simp) with same | step
    · exact .inr (.inr (.inl (same.trans leaves)))
    · simp only [ConsumerRun.loopStep?, leaves, Option.some.injEq] at step
      rw [← step]
      exact .inl rfl
  · rcases next_loop (c := c) a (by rw [blames]; rfl) (by rw [blames]; simp) with same | step
    · exact .inr (.inr (.inr ⟨cause, same.trans blames⟩))
    · simp only [ConsumerRun.loopStep?, blames, Option.some.injEq] at step
      rw [← step]
      exact .inr (.inr (.inl rfl))

/-- A run in which a fault has come up is to stop, whatever happens. -/
theorem doomed_after (c : Consumer I ω) (outside : ω) (acts : List (Act ω))
    (faults : ∃ n ∈ (c.start outside).trace c acts, n.fault? ≠ none) :
    ((c.start outside).after c acts).Doomed := by
  refine trace_induction (P := fun x t => (∃ n ∈ t, n.fault? ≠ none) → x.Doomed) acts ?_ ?_
    (fun x t change doomed faults => (doomed faults).next (c := c) (.outside change)) faults
  · rintro ⟨n, among, _⟩
    cases among
  · rintro x t m later doomed step ⟨n, among, fault⟩
    rcases List.mem_append.mp among with before | now
    · have still := (doomed ⟨n, before, fault⟩).next (c := c) (.move m)
      rw [next_of_step step] at still
      exact still
    · rcases step_cases step with ⟨id, k, h, k', s', rfl, present, _, stepped, seen, rfl⟩ |
        ⟨ns, seen, shift⟩
      · rw [seen] at now
        obtain ⟨n, inside, rfl⟩ := List.mem_map.mp now
        refine .inr (.inl ⟨id, k', ?_, (Worker.step_stride stepped).fails inside fault⟩)
        exact List.getElem?_set_self (List.getElem?_eq_some_iff.mp present).1
      · rw [seen] at now
        obtain ⟨n, inside, rfl⟩ := List.mem_map.mp now
        cases shift with
        | fetch polls =>
            cases List.mem_singleton.mp inside
            obtain ⟨cause, found⟩ := Option.ne_none_iff_exists'.mp fault
            have blames := (LoopStage.ofFetched_shape (c.source.rings x.shared.outside)
              (c.source.fetch x.shared.outside).1).2.1
            exact .inr (.inr (.inr ⟨cause, LoopStage.eq_blaming (blames.trans found)⟩))
        | _ => simp_all [Notice.fault?]

variable {schedule : ℕ → Act ω}

/-- A worker that has met a fault begins the shutdown. -/
theorem Fair.stops (fair : r.Fair c schedule) (id : Nat) :
    r.Leads c schedule (fun x => x.Lively c ∧
        ∃ k : Worker I, x.workers[id]? = some k ∧ k.stage.isFailing = true)
      (fun x => x.shared.shutdown.begun = true) := by
  refine fair.descends Nat.lt_wfRel.wf (fun x => x.workers[id]?.elim 0 fun k => k.stage.level)
    (m := .worker id) (by simp) ?_ ?_
  · rintro x ⟨lively, k, present, failing⟩
    have active : k.hasEnded = false ∧ k.stage ≠ .idle := by
      unfold Worker.hasEnded
      cases stage : k.stage with
      | failing d cause | blaming d cause | stopping d => simp
      | _ =>
          rw [stage] at failing
          cases failing
    obtain ⟨h, ns, k', s', stride, step⟩ :=
      worker_ready lively.staffed present active.1 fun idle _ => (active.2 idle).elim
    have there : (x.workers.set id k')[id]? = some k' :=
      List.getElem?_set_self (List.getElem?_eq_some_iff.mp present).1
    refine ⟨_, step, (stride.stops failing).imp_right fun holds => ?_⟩
    obtain ⟨still, lower⟩ := holds
    refine ⟨⟨lively.step step, k', there, still⟩, ?_⟩
    simp only [there, present, Option.elim_some]
    exact lower
  · rintro x a ⟨lively, k, present, failing⟩
    obtain ⟨k', there, same | ⟨h, ns, stride⟩⟩ := next_stage (c := c) a present
    · refine .inr ⟨⟨lively.next a, k', there, same ▸ failing⟩, .inl ?_⟩
      simp only [there, present, Option.elim_some, same]
    · refine (stride.stops failing).imp_right fun holds => ?_
      obtain ⟨still, lower⟩ := holds
      refine ⟨⟨lively.next a, k', there, still⟩, .inr ?_⟩
      simp only [there, present, Option.elim_some]
      exact lower

/-- After a fault, the shutdown begins. -/
theorem Fair.dooms (fair : r.Fair c schedule) :
    r.Leads c schedule (fun x => x.Lively c ∧ x.Doomed)
      (fun x => x.shared.shutdown.begun = true) := by
  have leaves : r.Leads c schedule (fun x => x.Lively c ∧ x.loop = .leaving)
      (fun x => x.shared.shutdown.begun = true) :=
    fair.leaves.mono (fun _ holds => holds) fun _ holds => holds.1.staffed.begun holds.2
  rintro n ⟨lively, begun | ⟨id, failing⟩ | leaving | ⟨cause, blames⟩⟩
  · exact ⟨n, Nat.le_refl n, begun⟩
  · exact fair.stops id n ⟨lively, failing⟩
  · exact leaves n ⟨lively, leaving⟩
  · obtain ⟨k, later, still, near⟩ := fair.onward (.blaming cause) (by simp) rfl (by simp)
      (fun x here => by
        simp only [ConsumerRun.loopStep?, here]
        exact ⟨_, rfl⟩) n ⟨lively, blames⟩
    rcases LoopStage.near_cases near with leaving | closed
    · obtain ⟨k', last, begun⟩ := leaves k ⟨still, leaving⟩
      exact ⟨k', Nat.le_trans later last, begun⟩
    · exact ⟨k, later, still.staffed.begun closed⟩

/-! ## The result of a run -/

/-- After a fault, it is another worker that calls its handler. -/
theorem Halting.apart (halting : r.Halting t) {first rest : List Notice} {id other : Nat}
    {n n' : WorkerNotice} {d : Delivery} (same : t = first ++ .worker id n :: rest)
    (fault : n.fault? ≠ none) (among : Notice.worker other n' ∈ rest)
    (begins : n'.begins? = some d) : other ≠ id := by
  rintro rfl
  have calls := halting.calls
  rw [same] at calls
  have after := (List.pairwise_cons.mp (List.pairwise_append.mp calls).2.1).1
  rw [after _ among other n n' rfl rfl fault] at begins
  cases begins

/-- The deliveries for which a worker calls its handler are of its own partitions. -/
theorem routed_of_begins (account : r.Account c t) (halting : r.Halting t)
    (staffed : r.Staffed c) {id : Nat} {n : WorkerNotice} {d : Delivery}
    (among : Notice.worker id n ∈ t) (begins : n.begins? = some d) :
    d.record.topicPartition.worker c.handlers.length = id := by
  have began : Notice.worker id (.began d) ∈ t := by
    cases n with
    | began x =>
        cases begins
        exact among
    | beganAside x reason =>
        cases begins
        exact halting.aside id d reason among
    | _ => cases begins
  have inside := account.known id _ among
  rw [← staffed.length] at inside
  have met : d ∈ t.filterMap (Notice.reports id WorkerNotice.met?) :=
    mem_reports.mpr ⟨_, began, rfl⟩
  have sent := (account.workers id _ (List.getElem?_eq_getElem inside)).met
  have there := List.mem_append_left (r.workers[id].unmet) met
  rw [sent] at there
  obtain ⟨notice, given, found⟩ := List.mem_filterMap.mp there
  cases notice with
  | worker other n => cases found
  | loop notice =>
      cases notice with
      | sent other x =>
          simp only [Notice.sentTo] at found
          split at found <;> cases found
          next same =>
          subst same
          exact (account.routed other d given).symm
      | _ => cases found

/-- A run returns an error if and only if there was a fault, and this is the first one that was
stored. Each fault is stored by the worker that met it, or by the loop, in order. After a fault of a
worker, no handler is called for anything of the partitions of that worker. In a fair schedule, a
run with a fault does return, and returns an error. -/
theorem fails_iff_fault (c : Consumer I ω) (outside : ω) (check : c.check = .ok ()) :
    let run := c.start outside
    (∀ acts result, (run.after c acts).loop = .returned result →
      let t := run.trace c acts
      ((∃ cause, result = .error cause) ↔ ∃ n ∈ t, n.fault? ≠ none) ∧
        (∀ cause, result = .error cause → (t.filterMap Notice.blamed?).head? = some cause) ∧
        ∀ who, t.filterMap (Notice.heard who Notice.fault?) =
          t.filterMap (Notice.heard who Notice.blamed?)) ∧
    (∀ acts first rest id n, run.trace c acts = first ++ .worker id n :: rest → n.fault? ≠ none →
      ∀ other n' d, Notice.worker other n' ∈ rest → n'.begins? = some d →
        other ≠ id ∧ d.record.topicPartition.worker c.handlers.length ≠ id) ∧
    ∀ schedule, run.Fair c schedule → ∀ n,
      (∃ notice ∈ run.trace c ((List.range n).map schedule), notice.fault? ≠ none) →
        ∃ k, n ≤ k ∧ ∃ cause, (run.along c schedule k).loop = .returned (.error cause) := by
  intro run
  have iff : ∀ acts result, (run.after c acts).loop = .returned result →
      let t := run.trace c acts
      ((∃ cause, result = .error cause) ↔ ∃ n ∈ t, n.fault? ≠ none) ∧
        (∀ cause, result = .error cause → (t.filterMap Notice.blamed?).head? = some cause) ∧
        ∀ who, t.filterMap (Notice.heard who Notice.fault?) =
          t.filterMap (Notice.heard who Notice.blamed?) := by
    intro acts result returned t
    have blamed := blamed_after c outside acts
    have account := account_after c outside acts
    have staffed := staffed_after c outside acts
    obtain ⟨fails, first⟩ := blamed.fails account staffed returned
    exact ⟨fails, first, blamed.stored account staffed returned⟩
  refine ⟨iff, ?_, ?_⟩
  · intro acts first rest id n same fault other n' d among begins
    have halting := halting_after c outside acts
    have here : Notice.worker other n' ∈ run.trace c acts := by
      rw [same]
      exact List.mem_append_right _ (List.mem_cons_of_mem _ among)
    have apart := halting.apart same fault among begins
    refine ⟨apart, ?_⟩
    rw [routed_of_begins (account_after c outside acts) halting (staffed_after c outside acts) here
      begins]
    exact apart
  · intro schedule fair n fault
    have lively := lively_start c outside
    have room := Nat.zero_lt_of_lt (ConsumerConfig.room_of_validate (Consumer.check_ok check).1)
    obtain ⟨k, later, begun⟩ :=
      fair.dooms n ⟨lively.along n, doomed_after c outside _ fault⟩
    obtain ⟨k', last, result, returned⟩ := fair.returns lively room k begun
    have le := Nat.le_trans later last
    refine ⟨k', le, ?_⟩
    obtain ⟨notice, among, fault⟩ := fault
    obtain ⟨cause, rfl⟩ := ((iff ((List.range k').map schedule) result returned).1).mpr
      ⟨notice, trace_along_subset le among, fault⟩
    exact ⟨cause, returned⟩

/-- A consumer whose handler fails on every record. -/
def failingConsumer : Consumer Interface.silent (List Fetched) :=
  .scripted { ConsumerConfig.standard with groupId := "group", topics := ["events"] }
    [.constant (.error (.broker (.fatal "fenced")))]

theorem fails_iff_fault_fenced :
    let run := failingConsumer.start [.record default, .record default]
    failingConsumer.check = .ok () ∧ run.Fair failingConsumer Act.rota ∧
      (∃ notice ∈ run.trace failingConsumer ((List.range 200).map Act.rota),
        notice.fault? ≠ none) ∧
      ∃ k, 200 ≤ k ∧ ∃ cause,
        (run.along failingConsumer Act.rota k).loop = .returned (.error cause) := by
  intro run
  have fair := run.fair_rota failingConsumer
  have fault : ∃ notice ∈ run.trace failingConsumer ((List.range 200).map Act.rota),
      notice.fault? ≠ none := by
    decide +kernel
  exact ⟨rfl, fair, fault, (fails_iff_fault failingConsumer _ rfl).2.2 _ fair 200 fault⟩

end ConsumerRun

end AlertRelay
