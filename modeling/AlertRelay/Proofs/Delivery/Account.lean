import AlertRelay.Proofs.Delivery.Crew
import AlertRelay.Proofs.Delivery.Load

/-!
# What becomes of deliveries

Each record that a poll brings is put into one queue, and each delivery of a queue is passed to the
handler once or dropped once, with a reason. This is read off the trace of a run: each worker is to
meet what its queue was given, less what it has not met yet (`Worker.Accounts`).
-/

namespace AlertRelay

namespace WorkerNotice

def admitted? : WorkerNotice → Option Delivery
  | admitted d => some d
  | _ => none

def began? : WorkerNotice → Option Delivery
  | began d => some d
  | _ => none

def ended? : WorkerNotice → Option Delivery
  | ended d _ => some d
  | _ => none

/-- The delivery that is passed to the handler or dropped. -/
def met? : WorkerNotice → Option Delivery
  | began d | dropped d _ => some d
  | _ => none

end WorkerNotice

namespace Notice

/-- The record that the source has handed out. -/
def polled? : Notice → Option Record
  | loop (.polled answer) => answer.record?
  | _ => none

/-- The delivery that was put into a queue, with the worker whose queue it is. -/
def sent? : Notice → Option (Nat × Delivery)
  | loop (.sent id d) => some (id, d)
  | _ => none

/-- The delivery that was put into the queue of a worker. -/
def sentTo (id : Nat) : Notice → Option Delivery
  | loop (.sent i d) => if i = id then some d else none
  | _ => none

/-- What a worker has to say. -/
def reports {α : Type} (id : Nat) (f : WorkerNotice → Option α) (n : Notice) : Option α :=
  (n.byWorker id).bind f

variable {α : Type} {id other : Nat} {f : WorkerNotice → Option α}

@[simp] theorem filterMap_reports_worker (ns : List WorkerNotice) :
    (ns.map (worker id)).filterMap (reports id f) = ns.filterMap f := by
  simp [reports, byWorker, List.filterMap_map, Function.comp_def]

/-- What one worker says is nothing that another one reports. -/
theorem filterMap_reports_other (different : other ≠ id) (ns : List WorkerNotice) :
    (ns.map (worker other)).filterMap (reports id f) = [] := by
  simp [reports, byWorker, List.filterMap_map, Function.comp_def, different]

@[simp] theorem filterMap_reports_loop (ns : List LoopNotice) :
    (ns.map loop).filterMap (reports id f) = [] := by
  simp [reports, byWorker, List.filterMap_map, Function.comp_def]

@[simp] theorem filterMap_sentTo_worker (ns : List WorkerNotice) :
    (ns.map (worker other)).filterMap (sentTo id) = [] := by
  simp [sentTo, List.filterMap_map, Function.comp_def]

@[simp] theorem filterMap_sent_worker (ns : List WorkerNotice) :
    (ns.map (worker id)).filterMap sent? = [] := by
  simp [sent?, List.filterMap_map, Function.comp_def]

@[simp] theorem filterMap_polled_worker (ns : List WorkerNotice) :
    (ns.map (worker id)).filterMap polled? = [] := by
  simp [polled?, List.filterMap_map, Function.comp_def]

end Notice

variable {I : Interface} {ω : Type}

namespace WorkerStage

/-- The delivery that a worker has taken, but neither passed to its handler nor dropped. -/
def unmet? : WorkerStage I → Option Delivery
  | taken d | admitted d => some d
  | _ => none

/-- The delivery that is to be worked on, but was not passed to the handler yet. -/
def unbegun? : WorkerStage I → Option Delivery
  | admitted d => some d
  | _ => none

/-- The delivery that the handler works on. -/
def unended? : WorkerStage I → Option Delivery
  | handling d _ => some d
  | _ => none

/-- Whether a worker is on the way to stop after a fatal error. -/
def isFailing : WorkerStage I → Bool
  | failing _ _ | blaming _ _ | stopping _ => true
  | _ => false

end WorkerStage

namespace Worker

/-- The deliveries that a worker has got, but neither passed to its handler nor dropped. -/
def unmet (k : Worker I) : List Delivery := k.stage.unmet?.toList ++ k.queue

/-- Whether a worker has met a fatal error. -/
def hasFailed (k : Worker I) : Bool := k.failed || k.stage.isFailing

variable {c : Consumer I ω} {h : RecordHandler I} {id : Nat} {closed : Bool}
  {k later : Worker I} {s after : Shared ω} {ns : List WorkerNotice}

namespace Stride

/-- By a step, the first of the deliveries that a worker has got is passed to its handler or
dropped, or none is. -/
theorem met (stride : Stride c id h closed k s ns later after) :
    ns.filterMap WorkerNotice.met? ++ later.unmet = k.unmet := by
  unfold Worker.unmet
  cases stride with
  | crash d stage => rcases stage with stage | ⟨_, stage⟩ <;> simp [stage, WorkerStage.unmet?]
  | _ => simp [*, List.filterMap_cons, WorkerStage.unmet?, WorkerNotice.met?]

/-- A delivery is passed to the handler just if it was to be worked on. -/
theorem admitted (stride : Stride c id h closed k s ns later after) :
    k.stage.unbegun?.toList ++ ns.filterMap WorkerNotice.admitted? =
      ns.filterMap WorkerNotice.began? ++ later.stage.unbegun?.toList := by
  cases stride with
  | crash d stage => rcases stage with stage | ⟨_, stage⟩ <;> simp [stage, WorkerStage.unbegun?]
  | _ => simp [*, List.filterMap_cons, WorkerStage.unbegun?, WorkerNotice.admitted?,
      WorkerNotice.began?]

/-- The work on a delivery ends just if the handler worked on it. -/
theorem ended (stride : Stride c id h closed k s ns later after) (intact : later.stage ≠ .crashed) :
    k.stage.unended?.toList ++ ns.filterMap WorkerNotice.began? =
      ns.filterMap WorkerNotice.ended? ++ later.stage.unended?.toList := by
  cases stride with
  | crash d stage => exact (intact rfl).elim
  | _ => simp [*, List.filterMap_cons, WorkerStage.unended?, WorkerNotice.began?,
      WorkerNotice.ended?]

/-- A worker waits for a record after it has rewound the partition to it. -/
theorem awaiting (stride : Stride c id h closed k s ns later after) {tp : TopicPartition}
    {w : Rewind} (awaits : later.redeliveries.awaiting.get? tp = some w) :
    k.redeliveries.awaiting.get? tp = some w ∨
      ∃ d, WorkerNotice.sought d (.ok ()) ∈ ns ∧ d.record.topicPartition = tp ∧
        w = ⟨d.record.offset, d.generation⟩ := by
  cases stride with
  | accept d awaiting stage active kept fewer => exact .inl (fewer tp w awaits)
  | settle d outcome redeliveries stage failed faultless same =>
      rw [← same]
      exact .inl awaits
  | rewind d outside stage sought =>
      change (k.redeliveries.awaiting.put _ _).get? tp = some w at awaits
      rw [Table.get?_put] at awaits
      split at awaits
      · next here =>
        cases awaits
        exact .inr ⟨d, List.mem_singleton_self _, here, rfl⟩
      · exact .inl awaits
  | _ => exact .inl awaits

/-- A worker that has failed had failed before, or says now that it has met a fault. -/
theorem failed (stride : Stride c id h closed k s ns later after) (fails : later.hasFailed = true) :
    k.hasFailed = true ∨ ∃ n ∈ ns, n.fault? ≠ none := by
  unfold Worker.hasFailed at *
  cases stride with
  | crash d stage =>
      left
      simpa [WorkerStage.isFailing] using Or.inl fails
  | fail d cause stage fault =>
      refine .inr ⟨_, List.mem_singleton_self _, ?_⟩
      rw [fault]
      exact Option.some_ne_none _
  | failAside d cause stage | failRewind d cause outside stage =>
      exact .inr ⟨_, List.mem_singleton_self _, Option.some_ne_none _⟩
  | _ => simp_all [WorkerStage.isFailing]

/-- A delivery is dropped by a step of its own, and for a reason that the worker has. -/
theorem drops (stride : Stride c id h closed k s ns later after) {d : Delivery} {why : DropCause}
    (among : WorkerNotice.dropped d why ∈ ns) :
    ns = [.dropped d why] ∧ k.Drops d s.shutdown.abandoning why := by
  cases stride with
  | drop x cause stage reason =>
      cases List.mem_singleton.mp among
      exact ⟨rfl, reason⟩
  | _ => simp at among

end Stride

/-- How a worker stands to what was put into its queue and to what was seen of it. -/
structure Accounts (k : Worker I) (id : Nat) (t : List Notice) : Prop where
  met : t.filterMap (Notice.reports id WorkerNotice.met?) ++ k.unmet =
    t.filterMap (Notice.sentTo id)
  admitted : t.filterMap (Notice.reports id WorkerNotice.admitted?) =
    t.filterMap (Notice.reports id WorkerNotice.began?) ++ k.stage.unbegun?.toList
  ended : k.stage ≠ .crashed → t.filterMap (Notice.reports id WorkerNotice.began?) =
    t.filterMap (Notice.reports id WorkerNotice.ended?) ++ k.stage.unended?.toList
  awaiting : ∀ tp w, k.redeliveries.awaiting.get? tp = some w →
    ∃ d, Notice.worker id (.sought d (.ok ())) ∈ t ∧ d.record.topicPartition = tp ∧
      w = ⟨d.record.offset, d.generation⟩
  failed : k.hasFailed = true → ∃ n, Notice.worker id n ∈ t ∧ n.fault? ≠ none

variable {t : List Notice}

/-- A worker that has got nothing accounts for nothing. -/
theorem Accounts.new (id : Nat) : (.new : Worker I).Accounts id [] :=
  ⟨rfl, rfl, fun _ => rfl, (fun _ _ awaits => by cases awaits), (fun failed => by cases failed)⟩

/-- What others do is nothing to a worker, but for what is put into its queue. -/
theorem Accounts.beside (accounts : k.Accounts id t) {ms : List Notice} {added : List Delivery}
    (silent : ∀ f : WorkerNotice → Option Delivery, ms.filterMap (Notice.reports id f) = [])
    (sent : ms.filterMap (Notice.sentTo id) = added) :
    { k with queue := k.queue ++ added }.Accounts id (t ++ ms) := by
  refine ⟨?_, ?_, fun intact => ?_, fun tp w awaits => ?_, fun failed => ?_⟩
  · rw [List.filterMap_append, List.filterMap_append, silent, sent, List.append_nil,
      ← accounts.met]
    simp only [Worker.unmet, List.append_assoc]
  · rw [List.filterMap_append, List.filterMap_append, silent, silent, List.append_nil,
      List.append_nil]
    exact accounts.admitted
  · rw [List.filterMap_append, List.filterMap_append, silent, silent, List.append_nil,
      List.append_nil]
    exact accounts.ended intact
  · obtain ⟨d, among, found⟩ := accounts.awaiting tp w awaits
    exact ⟨d, List.mem_append_left ms among, found⟩
  · obtain ⟨n, among, fault⟩ := accounts.failed failed
    exact ⟨n, List.mem_append_left ms among, fault⟩

/-- What others do changes nothing about what a worker accounts for. -/
theorem Accounts.apart (accounts : k.Accounts id t) {ms : List Notice}
    (silent : ∀ f : WorkerNotice → Option Delivery, ms.filterMap (Notice.reports id f) = [])
    (unsent : ms.filterMap (Notice.sentTo id) = []) : k.Accounts id (t ++ ms) := by
  have beside := accounts.beside silent unsent
  rw [List.append_nil] at beside
  exact beside

/-- A worker accounts for what it does in a step. -/
theorem Stride.accounts (stride : Stride c id h closed k s ns later after)
    (accounts : k.Accounts id t) : later.Accounts id (t ++ ns.map (.worker id)) := by
  have uncrashed : later.stage ≠ .crashed → k.stage ≠ .crashed := by
    intro _ crashed
    have active := stride.active
    unfold Worker.hasEnded at active
    rw [crashed] at active
    cases active
  refine ⟨?_, ?_, fun intact => ?_, fun tp w awaits => ?_, fun failed => ?_⟩
  · rw [List.filterMap_append, List.filterMap_append, Notice.filterMap_reports_worker,
      Notice.filterMap_sentTo_worker, List.append_nil, List.append_assoc, stride.met]
    exact accounts.met
  · rw [List.filterMap_append, List.filterMap_append, Notice.filterMap_reports_worker,
      Notice.filterMap_reports_worker, accounts.admitted, List.append_assoc, stride.admitted,
      List.append_assoc]
  · rw [List.filterMap_append, List.filterMap_append, Notice.filterMap_reports_worker,
      Notice.filterMap_reports_worker, accounts.ended (uncrashed intact), List.append_assoc,
      stride.ended intact, List.append_assoc]
  · rcases stride.awaiting awaits with before | ⟨d, among, found⟩
    · obtain ⟨d, among, found⟩ := accounts.awaiting tp w before
      exact ⟨d, List.mem_append_left _ among, found⟩
    · exact ⟨d, List.mem_append_right _ (List.mem_map_of_mem among), found⟩
  · rcases stride.failed failed with before | ⟨n, among, fault⟩
    · obtain ⟨n, among, fault⟩ := accounts.failed before
      exact ⟨n, List.mem_append_left _ among, fault⟩
    · exact ⟨n, List.mem_append_right _ (List.mem_map_of_mem among), fault⟩

end Worker

namespace ConsumerRun

/-- Why a worker drops a delivery, by what was seen before: a fatal error of that worker, that
queued deliveries are dropped, or that the partition was rewound to an offset before that of the
delivery, under the same assignment. -/
def Explains (t : List Notice) (id : Nat) (d : Delivery) : DropCause → Prop
  | .failed => ∃ n, Notice.worker id n ∈ t ∧ n.fault? ≠ none
  | .abandoned => Notice.loop .abandoned ∈ t
  | .stale => ∃ e, Notice.worker id (.sought e (.ok ())) ∈ t ∧
      e.record.topicPartition = d.record.topicPartition ∧ e.generation = d.generation ∧
      e.record.offset < d.record.offset

variable {c : Consumer I ω} {r later : ConsumerRun I ω} {m : Move} {t : List Notice}

/-- What a run has done with deliveries so far. -/
structure Account (c : Consumer I ω) (r : ConsumerRun I ω) (t : List Notice) : Prop where
  known : ∀ id n, Notice.worker id n ∈ t → id < c.handlers.length
  routed : ∀ id d, Notice.loop (.sent id d) ∈ t →
    id = d.record.topicPartition.worker c.handlers.length
  workers : ∀ id (k : Worker I), r.workers[id]? = some k → k.Accounts id t
  abandoned : r.shared.shutdown.abandoning = true → Notice.loop .abandoned ∈ t
  explained : ∀ first rest id d why, t = first ++ .worker id (.dropped d why) :: rest →
    Explains first id d why

/-- A drop among more notices is among the first or among the others. -/
theorem split_append {α : Type} {first rest l more : List α} {x : α}
    (same : l ++ more = first ++ x :: rest) :
    (∃ rest', l = first ++ x :: rest') ∨ ∃ mid, first = l ++ mid ∧ more = mid ++ x :: rest := by
  rcases List.append_eq_append_iff.mp same with ⟨mid, before, after⟩ | ⟨mid, before, after⟩
  · exact .inr ⟨mid, before, after⟩
  · cases mid with
    | nil =>
        rw [List.append_nil] at before
        exact .inr ⟨[], by rw [before, List.append_nil], after.symm⟩
    | cons y rest' =>
        rw [List.cons_append, List.cons.injEq] at after
        rw [← after.1] at before
        exact .inl ⟨rest', before⟩

/-- The account of a run goes on through the step of a worker. -/
theorem Account.stride {id : Nat} {k k' : Worker I} {h : RecordHandler I} {closed : Bool}
    {ns : List WorkerNotice} {s' : Shared ω} (account : r.Account c t)
    (present : r.workers[id]? = some k) (handler : c.handlers[id]? = some h)
    (stride : Worker.Stride c id h closed k r.shared ns k' s') :
    Account c { r with workers := r.workers.set id k', shared := s' }
      (t ++ ns.map (.worker id)) := by
  have accounts := account.workers id k present
  refine ⟨fun other n among => ?_, fun other d among => ?_, fun other x there => ?_,
    fun abandoning => ?_, fun first rest other d why same => ?_⟩
  · rcases List.mem_append.mp among with before | now
    · exact account.known other n before
    · obtain ⟨_, _, same⟩ := List.mem_map.mp now
      cases same
      exact (List.getElem?_eq_some_iff.mp handler).1
  · rcases List.mem_append.mp among with before | now
    · exact account.routed other d before
    · obtain ⟨_, _, same⟩ := List.mem_map.mp now
      cases same
  · rcases getElem?_set_cases there with ⟨rfl, rfl⟩ | ⟨different, there⟩
    · exact stride.accounts accounts
    · exact (account.workers other x there).apart
        (fun f => Notice.filterMap_reports_other (f := f) different ns)
        (Notice.filterMap_sentTo_worker ns)
  · rw [stride.flags.2] at abandoning
    exact List.mem_append_left _ (account.abandoned abandoning)
  · rcases split_append same with ⟨rest', before⟩ | ⟨mid, before, now⟩
    · exact account.explained first rest' other d why before
    · have among : Notice.worker other (.dropped d why) ∈ ns.map (.worker id) := by
        rw [now]
        simp
      obtain ⟨_, among, same⟩ := List.mem_map.mp among
      cases same
      obtain ⟨alone, reason⟩ := stride.drops among
      have start : first = t := by
        rw [alone, List.map_singleton] at now
        cases mid with
        | nil => rw [before, List.append_nil]
        | cons y rest' =>
            have lengths := congrArg List.length now
            simp at lengths
      rw [start]
      cases why with
      | failed =>
          refine accounts.failed ?_
          unfold Worker.hasFailed
          rw [show k.failed = true from reason, Bool.true_or]
      | abandoned => exact account.abandoned reason.2
      | stale =>
          obtain ⟨w, awaits, stale⟩ := reason
          obtain ⟨e, sought, there, rfl⟩ := accounts.awaiting _ w awaits
          unfold Rewind.makesStale at stale
          simp only [Bool.and_eq_true, beq_iff_eq, decide_eq_true_eq] at stale
          exact ⟨e, sought, there, stale.1.symm, stale.2⟩

/-- A step of the loop that puts nothing into a queue. -/
theorem Account.onward (account : r.Account c t) {ns : List LoopNotice}
    (workers : later.workers = r.workers) (unsent : ∀ id d, LoopNotice.sent id d ∉ ns)
    (abandoned : later.shared.shutdown.abandoning = true →
      r.shared.shutdown.abandoning = true ∨ LoopNotice.abandoned ∈ ns) :
    later.Account c (t ++ ns.map .loop) := by
  refine ⟨fun id n among => ?_, fun id d among => ?_, fun id k there => ?_,
    fun abandoning => ?_, fun first rest id d why same => ?_⟩
  · rcases List.mem_append.mp among with before | now
    · exact account.known id n before
    · obtain ⟨_, _, same⟩ := List.mem_map.mp now
      cases same
  · rcases List.mem_append.mp among with before | now
    · exact account.routed id d before
    · obtain ⟨_, among, same⟩ := List.mem_map.mp now
      cases same
      exact (unsent id d among).elim
  · rw [workers] at there
    have nothing : (ns.map Notice.loop).filterMap (Notice.sentTo id) = [] := by
      refine List.filterMap_eq_nil_iff.mpr fun n among => ?_
      obtain ⟨notice, inside, rfl⟩ := List.mem_map.mp among
      cases notice with
      | sent i d => exact (unsent i d inside).elim
      | _ => rfl
    have beside := (account.workers id k there).beside
      (fun f => Notice.filterMap_reports_loop (f := f) ns) nothing
    rw [List.append_nil] at beside
    exact beside
  · rcases abandoned abandoning with before | now
    · exact List.mem_append_left _ (account.abandoned before)
    · exact List.mem_append_right _ (List.mem_map_of_mem now)
  · rcases split_append same with ⟨rest', before⟩ | ⟨mid, _, now⟩
    · exact account.explained first rest' id d why before
    · have among : Notice.worker id (.dropped d why) ∈ ns.map .loop := by
        rw [now]
        simp
      obtain ⟨_, _, same⟩ := List.mem_map.mp among
      cases same

/-- The account of a run goes on when a delivery is put into a queue. -/
theorem Account.send (account : r.Account c t) (staffed : r.Staffed c) {d : Delivery}
    {k : Worker I} (present : r.workers[r.workerOf d]? = some k) :
    Account c { r with
        loop := .checking
        workers := r.workers.set (r.workerOf d) { k with queue := k.queue ++ [d] } }
      (t ++ [.loop (.sent (r.workerOf d) d)]) := by
  refine ⟨fun id n among => ?_, fun id x among => ?_, fun id x there => ?_,
    fun abandoning => List.mem_append_left _ (account.abandoned abandoning),
    fun first rest id x why same => ?_⟩
  · rcases List.mem_append.mp among with before | now
    · exact account.known id n before
    · cases List.mem_singleton.mp now
  · rcases List.mem_append.mp among with before | now
    · exact account.routed id x before
    · cases List.mem_singleton.mp now
      unfold ConsumerRun.workerOf
      rw [staffed.length]
  · rcases getElem?_set_cases there with ⟨rfl, rfl⟩ | ⟨different, there⟩
    · exact (account.workers _ k present).beside (fun f => rfl) (by simp [Notice.sentTo])
    · exact (account.workers id x there).apart (fun f => rfl)
        (by simp [Notice.sentTo, different])
  · rcases split_append same with ⟨rest', before⟩ | ⟨mid, _, now⟩
    · exact account.explained first rest' id x why before
    · have among : Notice.worker id (.dropped x why) ∈ [Notice.loop (.sent (r.workerOf d) d)] := by
        rw [now]
        simp
      cases List.mem_singleton.mp among

/-- The account of a run goes on through every move. -/
theorem Account.step (account : r.Account c t) (staffed : r.Staffed c)
    (step : r.step? c m = some later) : later.Account c (t ++ r.notices c m) := by
  rcases step_cases step with ⟨id, k, h, k', s', rfl, present, handler, stepped, seen, rfl⟩ |
    ⟨ns, seen, shift⟩
  · rw [seen]
    exact account.stride present handler (Worker.step_stride stepped)
  · rw [seen]
    cases shift with
    | send d k sends present active room => exact account.send staffed present
    | quiet alike =>
        refine account.onward alike.workers (fun id d among => by cases among) fun abandoning => ?_
        rw [alike.shutdown] at abandoning
        exact .inl abandoning
    | abandon abandons =>
        exact account.onward rfl (fun id d among => by simp at among) fun _ => .inr (by simp)
    | _ => exact account.onward rfl (fun id d among => by simp at among) fun abandoning =>
        .inl abandoning

/-- Nothing is known of a worker that there is not. -/
theorem Account.absent {α : Type} {id : Nat} (account : r.Account c t)
    (absent : c.handlers.length ≤ id) (f : WorkerNotice → Option α) :
    t.filterMap (Notice.reports id f) = [] := by
  refine List.filterMap_eq_nil_iff.mpr fun n among => ?_
  cases n with
  | loop n => rfl
  | worker other n =>
      have inside := account.known other n among
      have different : other ≠ id := by omega
      simp [Notice.reports, Notice.byWorker, different]

/-- Every run accounts for its deliveries. -/
theorem account_after (c : Consumer I ω) (outside : ω) (acts : List (Act ω)) :
    ((c.start outside).after c acts).Account c ((c.start outside).trace c acts) := by
  refine (trace_induction (P := fun x t => x.Staffed c ∧ x.Account c t) acts
    ⟨staffed_start c outside, ?_⟩ ?_ ?_).2
  · refine ⟨(fun id n among => by cases among), (fun id d among => by cases among), ?_,
      (fun abandoning => by cases abandoning), fun first rest id d why same => ?_⟩
    · intro id k there
      obtain ⟨h, _, rfl⟩ := List.mem_map.mp (List.mem_of_getElem? there)
      exact .new id
    · have lengths := congrArg List.length same
      simp at lengths
  · rintro x t m later ⟨staffed, account⟩ step
    exact ⟨staffed.step step, account.step staffed step⟩
  · rintro x t change ⟨staffed, account⟩
    exact ⟨staffed.next (.outside change),
      ⟨account.known, account.routed, account.workers, account.abandoned, account.explained⟩⟩

end ConsumerRun

end AlertRelay
