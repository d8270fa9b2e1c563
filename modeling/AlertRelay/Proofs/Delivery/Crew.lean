import AlertRelay.Proofs.Delivery.Strides
import AlertRelay.Proofs.Gate

/-!
# The workers of a run

There is a worker for each handler. None exits before the queues are closed, or with something left
in its queue, and the run goes on to its end only when all of them have ended
(`ConsumerRun.Staffed`). Workers whose handlers never break off do not crash
(`ConsumerRun.Completes`), so that the loop always finds a worker for what it has polled.
-/

namespace AlertRelay

variable {I : Interface} {ω : Type}

/-- Whether a program comes to its end, whatever the replies to its calls are. -/
def Program.Completes {α : Type} : Program I α → Prop
  | .done _ => True
  | .call _ next => ∀ reply, (next reply).Completes
  | .pause _ next => next.Completes
  | .crash => False

/-- Whether the work of a handler always comes to its end. -/
structure RecordHandler.Completes (h : RecordHandler I) : Prop where
  handle : ∀ r, (h.handle r).Completes
  deadLetter : ∀ r reason, (h.deadLetter r reason).Completes

/-- Whether a worker has not crashed, and the work it does comes to its end. -/
def WorkerStage.Completes : WorkerStage I → Prop
  | .handling _ work => work.Completes
  | .settingAside _ _ work => work.Completes
  | .crashed => False
  | _ => True

/-- A consumer that is accepted has accepted settings and somebody to work. -/
theorem Consumer.check_ok {c : Consumer I ω} (check : c.check = .ok ()) :
    c.config.validate = .ok () ∧ c.handlers ≠ [] := by
  unfold Consumer.check at check
  split at check
  · cases check
  · next valid =>
    split at check
    · cases check
    · next some => exact ⟨valid, fun none => some (List.isEmpty_iff.mpr none)⟩

/-- Every partition belongs to a worker that there is. -/
theorem TopicPartition.worker_lt {α : Type} (tp : TopicPartition) {crew : List α}
    (some : crew ≠ []) : tp.worker crew.length < crew.length := by
  have positive := List.length_pos_iff.mpr some
  unfold TopicPartition.worker
  rw [Nat.max_eq_left positive]
  exact Nat.mod_lt _ positive

/-- An entry of a list after a change is the changed one, or as it was. -/
theorem getElem?_set_cases {α : Type} {l : List α} {i j : Nat} {a b : α}
    (there : (l.set i a)[j]? = some b) : i = j ∧ a = b ∨ i ≠ j ∧ l[j]? = some b := by
  rw [List.getElem?_set] at there
  split at there
  · next same =>
    split at there <;> cases there
    exact .inl ⟨same, rfl⟩
  · next different => exact .inr ⟨different, there⟩

/-- The end of a unit neither begins a shutdown nor cuts it short. -/
theorem Shutdown.endUnit_flags (s : Shutdown) :
    s.endUnit.begun = s.begun ∧ s.endUnit.abandoning = s.abandoning := by
  unfold Shutdown.endUnit
  dsimp only
  split <;> exact ⟨rfl, rfl⟩

namespace Worker

variable {c : Consumer I ω} {h : RecordHandler I} {id : Nat} {closed : Bool}
  {k later : Worker I} {s after : Shared ω} {ns : List WorkerNotice}

/-- A worker waits only for deliveries. -/
theorem step_none (waits : k.step? c id h closed s = none) :
    k.hasEnded = true ∨ k.stage = .idle ∧ k.queue = [] ∧ closed = false := by
  obtain ⟨stage, queue, redeliveries, failed⟩ := k
  cases stage with
  | idle =>
      cases queue with
      | cons d rest => cases waits
      | nil =>
          cases closed with
          | true => cases waits
          | false => exact .inr ⟨rfl, rfl, rfl⟩
  | handling d work | settingAside d _ work => cases work <;> cases waits
  | exited | crashed => exact .inl rfl
  | _ => cases waits

namespace Stride

/-- A worker that makes a step has not ended before. -/
theorem active (stride : Stride c id h closed k s ns later after) : k.hasEnded = false := by
  unfold Worker.hasEnded
  cases stride with
  | crash d stage => rcases stage with stage | ⟨_, stage⟩ <;> rw [stage]
  | take d rest stage | exit stage | drop d why stage | accept d awaiting stage | enter d stage
  | call d request next stage | pause d nanos next stage | settle d outcome redeliveries stage
  | retry d stage | giveUp d stage | fail d cause stage | callAside d request next stage
  | pauseAside d nanos next stage | settleAside d stage | failAside d cause stage
  | rewind d outside stage | failRewind d cause outside stage | seekBack d cause stage
  | blame d cause stage | stop d stage | leave d stage | finish stage
  | display count traffic stage => rw [stage]

/-- A stride leads to no crash, if the handler completes. -/
theorem completes (stride : Stride c id h closed k s ns later after) (handler : h.Completes)
    (completes : k.stage.Completes) : later.stage.Completes := by
  cases stride with
  | enter d stage => exact handler.handle d.record
  | giveUp d stage => exact handler.deadLetter d.record .processingFailure
  | call d request next stage =>
      rw [stage] at completes
      exact completes (c.reply id request s.outside).1
  | callAside d request next stage =>
      rw [stage] at completes
      exact completes (c.reply id request s.outside).1
  | pause d nanos next stage =>
      rw [stage] at completes
      exact completes
  | pauseAside d nanos next stage =>
      rw [stage] at completes
      exact completes
  | crash d stage =>
      rcases stage with stage | ⟨_, stage⟩
      · rw [stage] at completes
        exact completes
      · rw [stage] at completes
        exact completes
  | _ => trivial

/-- The gate hears of a worker only when a delivery is done with. -/
theorem gate (stride : Stride c id h closed k s ns later after) : s.gate.Relieved after.gate := by
  cases stride with
  | finish stage => exact s.gate.relieved_completed
  | _ => exact .refl s.gate

/-- What every reply and every seek does to the state outside, a stride does. -/
theorem outside (stride : Stride c id h closed k s ns later after) (relates : ω → ω → Prop)
    (refl : ∀ w, relates w w) (reply : ∀ id request w, relates w (c.reply id request w).2)
    (seek : ∀ tp offset w, relates w (c.source.seek tp offset w).2) :
    relates s.outside after.outside := by
  cases stride with
  | call d request next stage => exact reply id request s.outside
  | callAside d request next stage => exact reply id request s.outside
  | rewind d outside stage sought =>
      have related := seek d.record.topicPartition d.record.offset s.outside
      rw [sought] at related
      exact related
  | failRewind d cause outside stage sought =>
      have related := seek d.record.topicPartition d.record.offset s.outside
      rw [sought] at related
      exact related
  | seekBack d cause stage => exact seek d.record.topicPartition d.record.offset s.outside
  | _ => exact refl s.outside

/-- A shutdown that has begun does not end, and workers do not have deliveries dropped. -/
theorem flags (stride : Stride c id h closed k s ns later after) :
    (s.shutdown.begun = true → after.shutdown.begun = true) ∧
      after.shutdown.abandoning = s.shutdown.abandoning := by
  cases stride with
  | stop d stage => exact ⟨fun _ => rfl, rfl⟩
  | crash d stage | leave d stage =>
      obtain ⟨begun, abandoning⟩ := s.shutdown.endUnit_flags
      exact ⟨begun.trans, abandoning⟩
  | _ => exact ⟨fun begun => begun, rfl⟩

/-- A worker exits when the queues are closed and its own one is empty. -/
theorem exits (stride : Stride c id h closed k s ns later after)
    (exited : later.stage = .exited) : closed = true ∧ later.queue = [] := by
  cases stride with
  | exit stage queue isClosed => exact ⟨isClosed, queue⟩
  | _ => cases exited

end Stride

end Worker

namespace ConsumerRun

variable {c : Consumer I ω} {r later : ConsumerRun I ω} {m : Move}

/-- A shift leaves workers where they are, be it that one has more in its queue. -/
theorem Shift.crew {ns : List LoopNotice} (shift : Shift c r ns later) {id : Nat} {k' : Worker I}
    (present : later.workers[id]? = some k') :
    ∃ k, r.workers[id]? = some k ∧ k'.stage = k.stage ∧ k'.failed = k.failed := by
  cases shift with
  | quiet alike =>
      rw [alike.workers] at present
      exact ⟨k', present, rfl, rfl⟩
  | send d k sends there active room =>
      rcases getElem?_set_cases present with ⟨rfl, rfl⟩ | ⟨_, present⟩
      · exact ⟨k, there, rfl, rfl⟩
      · exact ⟨k', present, rfl, rfl⟩
  | _ => exact ⟨k', present, rfl, rfl⟩

/-- What holds of the workers of every run. -/
structure Staffed (c : Consumer I ω) (r : ConsumerRun I ω) : Prop where
  length : r.workers.length = c.handlers.length
  exits : ∀ k ∈ r.workers, k.stage = .exited → r.loop.queuesClosed = true ∧ k.queue = []
  begun : r.loop.queuesClosed = true → r.shared.shutdown.begun = true
  past : r.loop.isOver = true → r.workersEnded = true

/-- When all workers have ended, each one has. -/
theorem ended_of_workersEnded (ended : r.workersEnded = true) {id : Nat} {k : Worker I}
    (present : r.workers[id]? = some k) : k.hasEnded = true :=
  List.all_eq_true.mp ended k (List.mem_of_getElem? present)

/-- The worker of a delivery is there, since there are workers. -/
theorem Staffed.workerOf_lt (staffed : r.Staffed c) (handlers : c.handlers ≠ []) (d : Delivery) :
    r.workerOf d < r.workers.length := by
  unfold ConsumerRun.workerOf
  rw [staffed.length]
  exact TopicPartition.worker_lt _ handlers

/-- Where there is no worker, there is no handler. -/
theorem Staffed.absent (staffed : r.Staffed c) {id : Nat} (absent : r.workers[id]? = none) :
    c.handlers.length ≤ id := by
  rw [← staffed.length]
  exact List.getElem?_eq_none_iff.mp absent

/-- A step of the loop that leaves the queues open and the workers alone. -/
theorem Staffed.onward (staffed : r.Staffed c) (opened : r.loop.queuesClosed = false)
    (workers : later.workers = r.workers) (still : later.loop.queuesClosed = false) :
    later.Staffed c := by
  refine ⟨?_, fun k among exited => ?_, fun closed => ?_, fun past => ?_⟩
  · rw [workers]
    exact staffed.length
  · rw [workers] at among
    have closed := (staffed.exits k among exited).1
    rw [opened] at closed
    cases closed
  · rw [still] at closed
    cases closed
  · have closed := later.loop.closed_of_isOver past
    rw [still] at closed
    cases closed

/-- Every move leaves the workers as a run has them. -/
theorem Staffed.step (staffed : r.Staffed c) (step : r.step? c m = some later) :
    later.Staffed c := by
  obtain ⟨length, exits, begun, past⟩ := staffed
  rcases step_cases step with ⟨id, k, h, k', s', rfl, present, _, stepped, _, rfl⟩ | ⟨ns, _, shift⟩
  · have stride := Worker.step_stride stepped
    refine ⟨?_, fun x among exited => ?_, fun closed => stride.flags.1 (begun closed), fun isOver =>
      ?_⟩
    · rw [List.length_set]
      exact length
    · rcases List.mem_or_eq_of_mem_set among with before | rfl
      · exact exits x before exited
      · exact stride.exits exited
    · have ended := ended_of_workersEnded (past isOver) present
      rw [stride.active] at ended
      cases ended
  · cases shift with
    | quiet alike =>
        refine ⟨?_, ?_, ?_, fun isOver => ?_⟩
        · rw [alike.workers]
          exact length
        · rw [alike.workers, alike.closed]
          exact exits
        · rw [alike.closed, alike.shutdown]
          exact begun
        · unfold ConsumerRun.workersEnded
          rw [alike.workers]
          exact (alike.past isOver).elim past fun ended => ended
    | evaluate evaluates =>
        exact Staffed.onward ⟨length, exits, begun, past⟩ (by rw [evaluates]; rfl) rfl
          (LoopStage.ofTransition_shape _).2.2.2
    | fetch polls =>
        exact Staffed.onward ⟨length, exits, begun, past⟩ (LoopStage.polling_shape polls).2.2.2 rfl
          (LoopStage.ofFetched_shape _ _).2.2.2
    | enqueue d same | refuse d same | blame cause same =>
        exact Staffed.onward ⟨length, exits, begun, past⟩ (by rw [same]; rfl) rfl rfl
    | send d k sends present active room =>
        rw [sends] at exits
        refine ⟨?_, fun x among exited => ?_, (fun closed => by cases closed),
          (fun isOver => by cases isOver)⟩
        · rw [List.length_set]
          exact length
        · rcases List.mem_or_eq_of_mem_set among with before | rfl
          · exact exits x before exited
          · have ended : k.hasEnded = true := by
              unfold Worker.hasEnded
              rw [exited]
            rw [active] at ended
            cases ended
    | close leaves =>
        exact ⟨length, fun x among exited => ⟨rfl, (exits x among exited).2⟩, fun _ => rfl,
          (fun isOver => by cases isOver)⟩
    | abandon abandons =>
        rw [abandons] at exits begun
        exact ⟨length, exits, begun, (fun isOver => by cases isOver)⟩
    | settle traffic settles shown =>
        rw [settles] at exits begun past
        exact ⟨length, exits, begun, past⟩
    | stop => exact ⟨length, exits, fun _ => rfl, past⟩

/-- A run begins with one worker for each handler. -/
theorem staffed_start (c : Consumer I ω) (outside : ω) : (c.start outside).Staffed c := by
  refine ⟨List.length_map _, fun k among exited => ?_, (fun closed => by cases closed),
    (fun past => by cases past)⟩
  obtain ⟨h, _, rfl⟩ := List.mem_map.mp among
  cases exited

/-- Every act leaves the workers as a run has them. -/
theorem Staffed.next (staffed : r.Staffed c) (a : Act ω) : (r.next c a).Staffed c :=
  next_cases a staffed (fun _ _ _ step => staffed.step step)
    fun _ _ => ⟨staffed.length, staffed.exits, staffed.begun, staffed.past⟩

/-- The workers of a run are as they should be after any acts. -/
theorem staffed_after (c : Consumer I ω) (outside : ω) (acts : List (Act ω)) :
    ((c.start outside).after c acts).Staffed c :=
  after_induction acts (staffed_start c outside) fun _ a _ staffed => staffed.next a

/-- Whether no worker has crashed, and the work of each one comes to its end. -/
def Completes (r : ConsumerRun I ω) : Prop := ∀ k ∈ r.workers, k.stage.Completes

/-- A move crashes no worker if the work of all handlers comes to its end. -/
theorem Completes.step (handlers : ∀ h ∈ c.handlers, h.Completes) (completes : r.Completes)
    (step : r.step? c m = some later) : later.Completes := by
  rcases step_cases step with ⟨id, k, h, k', s', rfl, present, handler, stepped, _, rfl⟩ |
    ⟨ns, _, shift⟩
  · intro x among
    rcases List.mem_or_eq_of_mem_set among with before | rfl
    · exact completes x before
    · exact (Worker.step_stride stepped).completes (handlers h (List.mem_of_getElem? handler))
        (completes k (List.mem_of_getElem? present))
  · intro x among
    obtain ⟨id, there⟩ := List.mem_iff_getElem?.mp among
    obtain ⟨k, present, stage, _⟩ := shift.crew there
    rw [stage]
    exact completes k (List.mem_of_getElem? present)

/-- No worker crashes, whatever happens, if the work of all handlers comes to its end. -/
theorem completes_after (handlers : ∀ h ∈ c.handlers, h.Completes) (outside : ω)
    (acts : List (Act ω)) : ((c.start outside).after c acts).Completes := by
  refine after_induction acts ?_ fun x a _ completes => ?_
  · intro k among
    obtain ⟨h, _, rfl⟩ := List.mem_map.mp among
    trivial
  · exact next_cases a completes (fun _ _ _ step => completes.step handlers step)
      fun _ _ => completes

/-- While the queues are open, a worker that completes has not ended. -/
theorem Staffed.active (staffed : r.Staffed c) (completes : r.Completes)
    (opened : r.loop.queuesClosed = false) {id : Nat} {k : Worker I}
    (present : r.workers[id]? = some k) : k.hasEnded = false := by
  have among := List.mem_of_getElem? present
  have exits := staffed.exits k among
  have crashed := completes k among
  unfold Worker.hasEnded
  split
  · next exited =>
    have closed := (exits exited).1
    rw [opened] at closed
    cases closed
  · next crash =>
    rw [crash] at crashed
    exact crashed.elim
  · rfl

/-- A worker that completes and has ended has exited. -/
theorem exited_of_hasEnded (completes : r.Completes) {id : Nat} {k : Worker I}
    (present : r.workers[id]? = some k) (ended : k.hasEnded = true) : k.stage = .exited := by
  have crashed := completes k (List.mem_of_getElem? present)
  unfold Worker.hasEnded at ended
  split at ended
  · next exited => exact exited
  · next crash =>
    rw [crash] at crashed
    exact crashed.elim
  · cases ended

end ConsumerRun

end AlertRelay
