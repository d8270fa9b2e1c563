import AlertRelay.Proofs.Delivery.Account

/-!
# Faults

A fault is an error that ends a run: the handler fails on a record, or fails to set one aside, a
partition cannot be rewound, or a poll fails for good. Each fault is stored after it has come up, by
the worker that met it or by the loop, and the first one that is stored is the result of the run
(`ConsumerRun.Blamed`).
-/

namespace AlertRelay

namespace WorkerNotice

def blamed? : WorkerNotice → Option RelayError
  | blamed cause => some cause
  | _ => none

end WorkerNotice

namespace Notice

/-- The worker that a notice is about; otherwise it is about the loop. -/
def speaker : Notice → Option Nat
  | loop _ => none
  | worker id _ => some id

/-- The fault that comes up. -/
def fault? : Notice → Option RelayError
  | loop (.polled answer) => answer.fault?
  | worker _ n => n.fault?
  | _ => none

/-- The error that is stored. -/
def blamed? : Notice → Option RelayError
  | loop (.blamed cause) => some cause
  | worker _ n => n.blamed?
  | _ => none

/-- What a worker, or the loop, has to say. -/
def heard {α : Type} (who : Option Nat) (f : Notice → Option α) (n : Notice) : Option α :=
  if n.speaker = who then f n else none

variable {α : Type} {who : Option Nat} {id : Nat} {f : Notice → Option α}

/-- All that a worker notices is heard of it. -/
theorem filterMap_heard_worker (ns : List WorkerNotice) :
    (ns.map (worker id)).filterMap (heard (some id) f) = ns.filterMap fun n => f (worker id n) := by
  simp [heard, speaker, List.filterMap_map, Function.comp_def]

/-- What a worker notices is not heard of anyone else. -/
theorem filterMap_heard_other (different : who ≠ some id) (ns : List WorkerNotice) :
    (ns.map (worker id)).filterMap (heard who f) = [] := by
  simp [heard, speaker, List.filterMap_map, Function.comp_def, different.symm]

/-- All that the loop notices is heard of it. -/
theorem filterMap_heard_loop (ns : List LoopNotice) :
    (ns.map loop).filterMap (heard none f) = (ns.map loop).filterMap f := by
  simp [heard, speaker, List.filterMap_map, Function.comp_def]

/-- What the loop notices is not heard of a worker. -/
theorem filterMap_unheard_loop (ns : List LoopNotice) :
    (ns.map loop).filterMap (heard (some id) f) = [] := by
  simp [heard, speaker, List.filterMap_map, Function.comp_def]

end Notice

variable {I : Interface} {ω : Type}

/-- An error is stored only if none was stored before. -/
theorem Shared.blame_fatal (s : Shared ω) (cause : RelayError) :
    (s.blame cause).fatal = s.fatal.or (some cause) := by
  unfold Shared.blame
  cases s.fatal <;> rfl

/-- The error that a worker has still to store. -/
def WorkerStage.blame? : WorkerStage I → Option RelayError
  | failing _ cause | blaming _ cause => some cause
  | _ => none

namespace Worker.Stride

variable {c : Consumer I ω} {h : RecordHandler I} {id : Nat} {closed : Bool}
  {k later : Worker I} {s after : Shared ω} {ns : List WorkerNotice}

/-- Each fault is stored after it has come up. -/
theorem faults (stride : Stride c id h closed k s ns later after) :
    k.stage.blame?.toList ++ ns.filterMap WorkerNotice.fault? =
      ns.filterMap WorkerNotice.blamed? ++ later.stage.blame?.toList := by
  cases stride with
  | crash d stage => rcases stage with stage | ⟨_, stage⟩ <;> simp [stage, WorkerStage.blame?]
  | settle d outcome redeliveries stage failed faultless =>
      simp [stage, faultless, List.filterMap_cons, WorkerStage.blame?, WorkerNotice.blamed?]
  | fail d cause stage fault =>
      simp [stage, fault, List.filterMap_cons, WorkerStage.blame?, WorkerNotice.blamed?]
  | _ => simp [*, List.filterMap_cons, WorkerStage.blame?, WorkerNotice.fault?,
      WorkerNotice.blamed?]

/-- A step of a worker stores the error that it tells of, unless one was stored before. -/
theorem fatal (stride : Stride c id h closed k s ns later after) :
    after.fatal = s.fatal.or (ns.filterMap WorkerNotice.blamed?).head? := by
  cases stride with
  | blame d cause stage => exact s.blame_fatal cause
  | _ => exact Option.or_none.symm

end Worker.Stride

namespace ConsumerRun

variable {c : Consumer I ω} {r later : ConsumerRun I ω} {m : Move} {t : List Notice}

/-- A fault that comes up in a poll is stored after that. -/
theorem Shift.faults {ns : List LoopNotice} (shift : Shift c r ns later) :
    r.loop.blame?.toList ++ (ns.map .loop).filterMap Notice.fault? =
      (ns.map .loop).filterMap Notice.blamed? ++ later.loop.blame?.toList := by
  cases shift with
  | quiet alike =>
      rw [alike.blame]
      exact List.append_nil _
  | evaluate evaluates =>
      change _ = _ ++ (LoopStage.ofTransition r.shared.gate.evaluate.1).blame?.toList
      rw [evaluates, (LoopStage.ofTransition_shape _).2.1]
      rfl
  | fetch polls =>
      change _ = _ ++ (LoopStage.ofFetched _ (c.source.fetch r.shared.outside).1).blame?.toList
      rw [(LoopStage.polling_shape polls).2.1, (LoopStage.ofFetched_shape _ _).2.1]
      cases brings : (c.source.fetch r.shared.outside).1.fault? <;>
        simp [Notice.fault?, Notice.blamed?, brings]
  | refuse d same | send d k same | enqueue d same | blame cause same | close same | abandon same
  | settle traffic same =>
      rw [same]
      rfl
  | stop => exact List.append_nil _

/-- A move of the loop stores the error that it tells of, unless one was stored before. -/
theorem Shift.fatal {ns : List LoopNotice} (shift : Shift c r ns later) :
    later.shared.fatal = r.shared.fatal.or ((ns.map .loop).filterMap Notice.blamed?).head? := by
  cases shift with
  | quiet alike => exact alike.fatal.trans Option.or_none.symm
  | blame cause blames => exact r.shared.blame_fatal cause
  | _ => exact Option.or_none.symm

/-- A run returns its first fatal error. -/
theorem Shift.returns {ns : List LoopNotice} (shift : Shift c r ns later)
    (before : ∀ result, r.loop = .returned result → result = r.result)
    {result : Except RelayError Unit} (returned : later.loop = .returned result) :
    result = later.result := by
  rcases shift.returned_cases returned with ⟨same, rfl⟩ | ⟨_, same, traffic, _, rfl⟩
  · exact before result same
  · exact same

/-- Whether each fault that has come up is stored, but for those that are about to be, and whether
the first one that was stored is kept. -/
structure Blamed (r : ConsumerRun I ω) (t : List Notice) : Prop where
  workers : ∀ id (k : Worker I), r.workers[id]? = some k →
    t.filterMap (Notice.heard (some id) Notice.fault?) =
      t.filterMap (Notice.heard (some id) Notice.blamed?) ++ k.stage.blame?.toList
  polls : t.filterMap (Notice.heard none Notice.fault?) =
    t.filterMap (Notice.heard none Notice.blamed?) ++ r.loop.blame?.toList
  fatal : r.shared.fatal = (t.filterMap Notice.blamed?).head?
  returns : ∀ result, r.loop = .returned result → result = r.result

/-- A step of a worker stores the faults that have come up, or is about to. -/
theorem Blamed.stride {id : Nat} {k k' : Worker I} {h : RecordHandler I} {closed : Bool}
    {ns : List WorkerNotice} {s' : Shared ω} (blamed : r.Blamed t) (staffed : r.Staffed c)
    (present : r.workers[id]? = some k)
    (stride : Worker.Stride c id h closed k r.shared ns k' s') :
    Blamed { r with workers := r.workers.set id k', shared := s' } (t ++ ns.map (.worker id)) := by
  refine ⟨fun other x there => ?_, ?_, ?_, fun result returned => ?_⟩
  · rw [List.filterMap_append, List.filterMap_append]
    rcases getElem?_set_cases there with ⟨rfl, rfl⟩ | ⟨different, there⟩
    · rw [Notice.filterMap_heard_worker, Notice.filterMap_heard_worker,
        blamed.workers id k present, List.append_assoc]
      refine Eq.trans ?_ (List.append_assoc _ _ _).symm
      exact congrArg _ stride.faults
    · have apart : some other ≠ some id := fun same => different (Option.some.inj same).symm
      rw [Notice.filterMap_heard_other apart, Notice.filterMap_heard_other apart,
        List.append_nil, List.append_nil]
      exact blamed.workers other x there
  · rw [List.filterMap_append, List.filterMap_append, Notice.filterMap_heard_other (by simp),
      Notice.filterMap_heard_other (by simp), List.append_nil, List.append_nil]
    exact blamed.polls
  · rw [List.filterMap_append, List.head?_append, ← blamed.fatal, List.filterMap_map]
    exact stride.fatal
  · -- A run that has returned has no worker that could make a step.
    have past : r.loop.isOver = true := by
      rw [show r.loop = .returned result from returned]
      rfl
    have ended := ended_of_workersEnded (staffed.past past) present
    rw [stride.active] at ended
    cases ended

/-- A move of the loop stores the faults that have come up, or is about to. -/
theorem Blamed.shift {ns : List LoopNotice} (blamed : r.Blamed t) (shift : Shift c r ns later) :
    later.Blamed (t ++ ns.map .loop) := by
  refine ⟨fun id x there => ?_, ?_, ?_,
    fun result returned => shift.returns blamed.returns returned⟩
  · obtain ⟨k, present, stage, _⟩ := shift.crew there
    rw [List.filterMap_append, List.filterMap_append, Notice.filterMap_unheard_loop,
      Notice.filterMap_unheard_loop, List.append_nil, List.append_nil, stage]
    exact blamed.workers id k present
  · rw [List.filterMap_append, List.filterMap_append, Notice.filterMap_heard_loop,
      Notice.filterMap_heard_loop, blamed.polls, List.append_assoc, shift.faults,
      List.append_assoc]
  · rw [List.filterMap_append, List.head?_append, ← blamed.fatal]
    exact shift.fatal

/-- After any acts, each fault is stored or about to be, and the first stored one is kept. -/
theorem blamed_after (c : Consumer I ω) (outside : ω) (acts : List (Act ω)) :
    ((c.start outside).after c acts).Blamed ((c.start outside).trace c acts) := by
  refine (trace_induction (P := fun x t => x.Staffed c ∧ x.Blamed t) acts
    ⟨staffed_start c outside, ?_⟩ ?_ ?_).2
  · refine ⟨fun id k there => ?_, rfl, rfl, (fun result returned => by cases returned)⟩
    obtain ⟨h, _, rfl⟩ := List.mem_map.mp (List.mem_of_getElem? there)
    rfl
  · rintro x t m later ⟨staffed, blamed⟩ step
    refine ⟨staffed.step step, ?_⟩
    rcases step_cases step with ⟨id, k, h, k', s', rfl, present, handler, stepped, seen, rfl⟩ |
      ⟨ns, seen, shift⟩
    · rw [seen]
      exact blamed.stride staffed present (Worker.step_stride stepped)
    · rw [seen]
      exact blamed.shift shift
  · rintro x t change ⟨staffed, blamed⟩
    exact ⟨staffed.next (.outside change),
      ⟨blamed.workers, blamed.polls, blamed.fatal, blamed.returns⟩⟩

/-! ## The result of a run -/

/-- A run ends with an error just if that error is stored. -/
theorem result_eq_error_iff {cause : RelayError} :
    r.result = .error cause ↔ r.shared.fatal = some cause := by
  unfold ConsumerRun.result
  cases r.shared.fatal <;> simp

/-- When a run has returned, each fault that came up has been stored by who met it. -/
theorem Blamed.stored (blamed : r.Blamed t) (account : r.Account c t) (staffed : r.Staffed c)
    {result : Except RelayError Unit} (returned : r.loop = .returned result) (who : Option Nat) :
    t.filterMap (Notice.heard who Notice.fault?) =
      t.filterMap (Notice.heard who Notice.blamed?) := by
  cases who with
  | none =>
      have polls := blamed.polls
      rw [returned] at polls
      exact polls.trans (List.append_nil _)
  | some id =>
      cases present : r.workers[id]? with
      | some k =>
          have ended := ended_of_workersEnded (staffed.past (by rw [returned]; rfl)) present
          have stored := blamed.workers id k present
          have done : k.stage.blame? = none := by
            cases stage : k.stage with
            | failing d cause | blaming d cause =>
                unfold Worker.hasEnded at ended
                rw [stage] at ended
                cases ended
            | _ => rfl
          rw [done] at stored
          exact stored.trans (List.append_nil _)
      | none =>
          have silent : ∀ f : Notice → Option RelayError,
              t.filterMap (Notice.heard (some id) f) = [] := by
            refine fun f => List.filterMap_eq_nil_iff.mpr fun n among => if_neg fun same => ?_
            cases n with
            | loop n => cases same
            | worker other n =>
                cases same
                have inside := account.known id n among
                rw [← staffed.length] at inside
                rw [List.getElem?_eq_getElem inside] at present
                cases present
          rw [silent, silent]

/-- So something was stored if and only if there was a fault. -/
theorem exists_of_heard {f g : Notice → Option RelayError}
    (same : ∀ who, t.filterMap (Notice.heard who f) = t.filterMap (Notice.heard who g))
    (found : ∃ n ∈ t, f n ≠ none) : ∃ n ∈ t, g n ≠ none := by
  obtain ⟨n, among, fault⟩ := found
  obtain ⟨cause, fault⟩ := Option.ne_none_iff_exists'.mp fault
  have inside : cause ∈ t.filterMap (Notice.heard n.speaker f) :=
    List.mem_filterMap.mpr ⟨n, among, (if_pos rfl).trans fault⟩
  rw [same] at inside
  obtain ⟨other, there, gives⟩ := List.mem_filterMap.mp inside
  unfold Notice.heard at gives
  split at gives
  · exact ⟨other, there, by rw [gives]; exact Option.some_ne_none _⟩
  · cases gives

/-- A run returns an error if and only if there was a fault, and this is the first one that was
stored. -/
theorem Blamed.fails (blamed : r.Blamed t) (account : r.Account c t) (staffed : r.Staffed c)
    {result : Except RelayError Unit} (returned : r.loop = .returned result) :
    ((∃ cause, result = .error cause) ↔ ∃ n ∈ t, n.fault? ≠ none) ∧
      ∀ cause, result = .error cause → (t.filterMap Notice.blamed?).head? = some cause := by
  have stored := blamed.stored account staffed returned
  have fails : ∀ cause, result = .error cause ↔
      (t.filterMap Notice.blamed?).head? = some cause := by
    intro cause
    rw [blamed.returns result returned, result_eq_error_iff, blamed.fatal]
  refine ⟨⟨?_, fun fault => ?_⟩, fun cause => (fails cause).mp⟩
  · rintro ⟨cause, failed⟩
    obtain ⟨n, among, blames⟩ :=
      List.mem_filterMap.mp (List.mem_of_head? ((fails cause).mp failed))
    refine exists_of_heard (fun who => (stored who).symm) ⟨n, among, ?_⟩
    rw [blames]
    exact Option.some_ne_none _
  · obtain ⟨n, among, blames⟩ := exists_of_heard stored fault
    obtain ⟨cause, blames⟩ := Option.ne_none_iff_exists'.mp blames
    have inside : cause ∈ t.filterMap Notice.blamed? :=
      List.mem_filterMap.mpr ⟨n, among, blames⟩
    cases found : (t.filterMap Notice.blamed?).head? with
    | some cause => exact ⟨cause, (fails cause).mpr found⟩
    | none =>
        rw [List.head?_eq_none_iff.mp found] at inside
        cases inside

end ConsumerRun

end AlertRelay
