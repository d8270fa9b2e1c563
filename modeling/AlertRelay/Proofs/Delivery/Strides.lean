import AlertRelay.Proofs.Delivery.Notices

/-!
# What a worker can do

A step of a worker, in the order in which a delivery passes through it (`Worker.Stride`), with what
is to be seen of it. All that is proved of workers is proved stride by stride.
-/

namespace AlertRelay

variable {I : Interface} {ω : Type}

namespace WorkerNotice

/-- The fatal error that comes up: a handler fails on a record, but for an offset that is committed
already, or fails to set it aside, or a partition cannot be rewound. -/
def fault? : WorkerNotice → Option RelayError
  | ended _ (.error (.offset _)) => none
  | ended _ (.error cause) | endedAside _ (.error cause) => some cause
  | sought _ (.error cause) => some (.broker cause)
  | _ => none

end WorkerNotice

/-- A delivery is stale, or ends the wait of its partition. -/
theorem Redeliveries.accept_cases (r : Redeliveries) (d : Delivery) :
    (r.accept d = (false, r) ∧ ∃ w, r.awaiting.get? d.record.topicPartition = some w ∧
        w.makesStale d = true) ∨
      ∃ awaiting, r.accept d = (true, { r with awaiting := awaiting }) ∧
        ∀ tp w, awaiting.get? tp = some w → r.awaiting.get? tp = some w := by
  unfold Redeliveries.accept
  split
  · next w awaits =>
    by_cases stale : w.makesStale d = true
    · exact .inl ⟨if_pos stale, w, awaits, stale⟩
    · refine .inr ⟨r.awaiting.erase d.record.topicPartition, if_neg stale, fun tp v found => ?_⟩
      rw [Table.get?_erase] at found
      split at found
      · cases found
      · exact found
  · exact .inr ⟨r.awaiting, rfl, fun _ _ found => found⟩

namespace Worker

@[simp] theorem goTo_stage (k : Worker I) (stage : WorkerStage I) : (k.goTo stage).stage = stage :=
  rfl

@[simp] theorem goTo_queue (k : Worker I) (stage : WorkerStage I) :
    (k.goTo stage).queue = k.queue := rfl

@[simp] theorem goTo_redeliveries (k : Worker I) (stage : WorkerStage I) :
    (k.goTo stage).redeliveries = k.redeliveries := rfl

@[simp] theorem goTo_failed (k : Worker I) (stage : WorkerStage I) :
    (k.goTo stage).failed = k.failed := rfl

/-- Why a worker does not work on a delivery. -/
def Drops (k : Worker I) (d : Delivery) (abandoning : Bool) : DropCause → Prop
  | .failed => k.failed = true
  | .abandoned => k.failed = false ∧ abandoning = true
  | .stale => ∃ w, k.redeliveries.awaiting.get? d.record.topicPartition = some w ∧
      w.makesStale d = true

/-- A step of a worker. -/
inductive Stride (c : Consumer I ω) (id : Nat) (h : RecordHandler I) (closed : Bool)
    (k : Worker I) (s : Shared ω) : List WorkerNotice → Worker I → Shared ω → Prop where
  | take (d : Delivery) (rest : List Delivery) (stage : k.stage = .idle)
      (queue : k.queue = d :: rest) :
      Stride c id h closed k s [] { k with stage := .taken d, queue := rest } s
  | exit (stage : k.stage = .idle) (queue : k.queue = []) (isClosed : closed = true) :
      Stride c id h closed k s [] (k.goTo .exited) s
  | drop (d : Delivery) (why : DropCause) (stage : k.stage = .taken d)
      (reason : k.Drops d s.shutdown.abandoning why) :
      Stride c id h closed k s [.dropped d why] (k.goTo .finishing) s
  | accept (d : Delivery) (awaiting : Table TopicPartition Rewind) (stage : k.stage = .taken d)
      (active : k.failed = false) (kept : s.shutdown.abandoning = false)
      (fewer : ∀ tp w, awaiting.get? tp = some w → k.redeliveries.awaiting.get? tp = some w) :
      Stride c id h closed k s [.admitted d]
        { k with
          stage := .admitted d
          redeliveries := { k.redeliveries with awaiting := awaiting } } s
  | enter (d : Delivery) (stage : k.stage = .admitted d) :
      Stride c id h closed k s [.began d] (k.goTo (.handling d (h.handle d.record)))
        { s with shutdown := s.shutdown.enterUnit }
  | call (d : Delivery) (request : I.Call)
      (next : I.Reply request → Program I (Except RelayError Outcome))
      (stage : k.stage = .handling d (.call request next)) :
      Stride c id h closed k s []
        (k.goTo (.handling d (next (c.reply id request s.outside).1)))
        { s with outside := (c.reply id request s.outside).2 }
  | pause (d : Delivery) (nanos : Nat) (next : Program I (Except RelayError Outcome))
      (stage : k.stage = .handling d (.pause nanos next)) :
      Stride c id h closed k s [] (k.goTo (.handling d next)) s
  | crash (d : Delivery)
      (stage : k.stage = .handling d .crash ∨ ∃ reason, k.stage = .settingAside d reason .crash) :
      Stride c id h closed k s [] (k.goTo .crashed) { s with shutdown := s.shutdown.endUnit }
  /-- The work on a record is done, or turns out to have been done before. -/
  | settle (d : Delivery) (outcome : Except RelayError Outcome) (redeliveries : Redeliveries)
      (stage : k.stage = .handling d (.done outcome)) (failed : outcome ≠ .ok .failed)
      (faultless : (WorkerNotice.ended d outcome).fault? = none)
      (awaiting : redeliveries.awaiting = k.redeliveries.awaiting)
      (failures : redeliveries.failures = k.redeliveries.failures ∨
        (∃ done, outcome = .ok done) ∧ redeliveries = k.redeliveries.settle d.record) :
      Stride c id h closed k s [.ended d outcome]
        { k with stage := .leaving d, redeliveries := redeliveries } s
  | retry (d : Delivery) (stage : k.stage = .handling d (.done (.ok .failed)))
      (left : (k.redeliveries.countFailure d.record).1 ≤ c.config.maxRedeliveries) :
      Stride c id h closed k s [.ended d (.ok .failed)]
        { k with
          stage := .rewinding d
          redeliveries := (k.redeliveries.countFailure d.record).2 } s
  | giveUp (d : Delivery) (stage : k.stage = .handling d (.done (.ok .failed)))
      (spent : c.config.maxRedeliveries < (k.redeliveries.countFailure d.record).1) :
      Stride c id h closed k s [.ended d (.ok .failed), .beganAside d .processingFailure]
        { k with
          stage := .settingAside d .processingFailure
            (h.deadLetter d.record .processingFailure)
          redeliveries := (k.redeliveries.countFailure d.record).2 } s
  | fail (d : Delivery) (cause : RelayError) (stage : k.stage = .handling d (.done (.error cause)))
      (fault : (WorkerNotice.ended d (.error cause)).fault? = some cause) :
      Stride c id h closed k s [.ended d (.error cause)] (k.goTo (.failing d cause)) s
  | callAside (d : Delivery) {reason : DeadLetterReason} (request : I.Call)
      (next : I.Reply request → Program I (Except RelayError Unit))
      (stage : k.stage = .settingAside d reason (.call request next)) :
      Stride c id h closed k s []
        (k.goTo (.settingAside d reason (next (c.reply id request s.outside).1)))
        { s with outside := (c.reply id request s.outside).2 }
  | pauseAside (d : Delivery) {reason : DeadLetterReason} (nanos : Nat)
      (next : Program I (Except RelayError Unit))
      (stage : k.stage = .settingAside d reason (.pause nanos next)) :
      Stride c id h closed k s [] (k.goTo (.settingAside d reason next)) s
  | settleAside (d : Delivery) {reason : DeadLetterReason}
      (stage : k.stage = .settingAside d reason (.done (.ok ()))) :
      Stride c id h closed k s [.endedAside d (.ok ())]
        { k with stage := .leaving d, redeliveries := k.redeliveries.settle d.record } s
  | failAside (d : Delivery) {reason : DeadLetterReason} (cause : RelayError)
      (stage : k.stage = .settingAside d reason (.done (.error cause))) :
      Stride c id h closed k s [.endedAside d (.error cause)] (k.goTo (.failing d cause)) s
  | rewind (d : Delivery) (outside : ω) (stage : k.stage = .rewinding d)
      (sought :
        c.source.seek d.record.topicPartition d.record.offset s.outside = (.ok (), outside)) :
      Stride c id h closed k s [.sought d (.ok ())]
        { k with stage := .leaving d, redeliveries := k.redeliveries.await d }
        { s with outside := outside }
  | failRewind (d : Delivery) (cause : BrokerError) (outside : ω) (stage : k.stage = .rewinding d)
      (sought : c.source.seek d.record.topicPartition d.record.offset s.outside =
        (.error cause, outside)) :
      Stride c id h closed k s [.sought d (.error cause)] (k.goTo (.failing d (.broker cause)))
        { s with outside := outside }
  | seekBack (d : Delivery) (cause : RelayError) (stage : k.stage = .failing d cause) :
      Stride c id h closed k s [] (k.goTo (.blaming d cause))
        { s with
          outside := (c.source.seek d.record.topicPartition d.record.offset s.outside).2 }
  | blame (d : Delivery) (cause : RelayError) (stage : k.stage = .blaming d cause) :
      Stride c id h closed k s [.blamed cause] (k.goTo (.stopping d)) (s.blame cause)
  | stop (d : Delivery) (stage : k.stage = .stopping d) :
      Stride c id h closed k s [] { k with stage := .leaving d, failed := true } s.beginShutdown
  | leave (d : Delivery) (stage : k.stage = .leaving d) :
      Stride c id h closed k s [] (k.goTo .finishing) { s with shutdown := s.shutdown.endUnit }
  | finish (stage : k.stage = .finishing) :
      Stride c id h closed k s [] (k.goTo (.showing s.gate.completed.inFlight))
        { s with gate := s.gate.completed }
  | display (count : Nat) (traffic : Traffic) (stage : k.stage = .showing count) :
      Stride c id h closed k s [] (k.goTo .idle) { s with traffic := traffic }

variable {c : Consumer I ω} {h : RecordHandler I} {id : Nat} {closed : Bool}
  {k later : Worker I} {s after : Shared ω}

/-- To look at a delivery is a step of a worker. -/
theorem consider_stride (d : Delivery) (stage : k.stage = .taken d) :
    Stride c id h closed k s (k.notices c h s) (k.consider d s.shutdown.abandoning) s := by
  unfold Worker.notices Worker.consider
  rw [stage]
  by_cases failed : k.failed = true
  · simp only [failed, Bool.true_or, ↓reduceIte]
    exact .drop d .failed stage failed
  by_cases abandoning : s.shutdown.abandoning = true
  · simp only [failed, abandoning, Bool.or_true, Bool.false_eq_true, ↓reduceIte]
    exact .drop d .abandoned stage ⟨Bool.eq_false_iff.mpr failed, abandoning⟩
  have keeps : ¬(k.failed || s.shutdown.abandoning) = true := by simp [failed, abandoning]
  simp only [if_neg failed, if_neg abandoning, if_neg keeps]
  rcases k.redeliveries.accept_cases d with ⟨same, w, awaits, stale⟩ | ⟨awaiting, same, fewer⟩
  · simp only [same, Bool.false_eq_true, ↓reduceIte]
    exact .drop d .stale stage ⟨w, awaits, stale⟩
  · simp only [same, ↓reduceIte]
    exact .accept d awaiting stage (Bool.eq_false_iff.mpr failed)
      (Bool.eq_false_iff.mpr abandoning) fewer

/-- To go on from the outcome of the handler is a step of a worker. -/
theorem concluded_stride (d : Delivery) (outcome : Except RelayError Outcome)
    (stage : k.stage = .handling d (.done outcome)) :
    Stride c id h closed k s (k.notices c h s) (k.concluded c h d outcome) s := by
  unfold Worker.notices
  rw [stage]
  cases outcome with
  | ok outcome =>
      cases outcome with
      | processed | deadLettered =>
          exact .settle d _ _ stage (fun same => by cases same) rfl rfl (.inr ⟨⟨_, rfl⟩, rfl⟩)
      | failed =>
          simp only [Worker.concluded]
          by_cases spent : c.config.maxRedeliveries < (k.redeliveries.countFailure d.record).1
          · simp only [spent, ↓reduceIte]
            exact .giveUp d stage spent
          · simp only [spent, ↓reduceIte]
            exact .retry d stage (Nat.le_of_not_lt spent)
  | error cause =>
      cases cause with
      | offset detail =>
          exact .settle d _ _ stage (fun same => by cases same) rfl rfl (.inl rfl)
      | _ => exact .fail d _ stage rfl

/-- To rewind a partition is a step of a worker. -/
theorem rewinding_stride (d : Delivery) (stage : k.stage = .rewinding d) :
    let found := c.source.seek d.record.topicPartition d.record.offset s.outside
    Stride c id h closed k s [.sought d found.1] (k.wasRewound d found.1)
      { s with outside := found.2 } := by
  generalize sought : c.source.seek d.record.topicPartition d.record.offset s.outside = found
  obtain ⟨answer, outside⟩ := found
  cases answer with
  | ok => exact .rewind d outside stage sought
  | error cause => exact .failRewind d cause outside stage sought

/-- Each step of a worker is one of the strides. -/
theorem step_stride (step : k.step? c id h closed s = some (later, after)) :
    Stride c id h closed k s (k.notices c h s) later after := by
  unfold Worker.step? at step
  cases stage : k.stage with
  | idle =>
      simp only [stage] at step
      simp only [Worker.notices, stage]
      split at step
      · next d rest queue =>
        cases step
        exact .take d rest stage queue
      · next queue =>
        split at step
        · next isClosed =>
          cases step
          exact .exit stage queue isClosed
        · cases step
  | taken d =>
      simp only [stage, Option.some.injEq, Prod.mk.injEq] at step
      obtain ⟨rfl, rfl⟩ := step
      exact consider_stride d stage
  | admitted d =>
      simp only [stage, Option.some.injEq, Prod.mk.injEq] at step
      obtain ⟨rfl, rfl⟩ := step
      simp only [Worker.notices, stage]
      exact .enter d stage
  | handling d work =>
      cases work with
      | done outcome =>
          simp only [stage, Option.some.injEq, Prod.mk.injEq] at step
          obtain ⟨rfl, rfl⟩ := step
          exact concluded_stride d outcome stage
      | crash =>
          simp only [stage, Worker.crash, Option.some.injEq, Prod.mk.injEq] at step
          obtain ⟨rfl, rfl⟩ := step
          simp only [Worker.notices, stage]
          exact .crash d (.inl stage)
      | call request next =>
          simp only [stage, Program.advance, Option.some.injEq, Prod.mk.injEq] at step
          obtain ⟨rfl, rfl⟩ := step
          simp only [Worker.notices, stage]
          exact .call d request next stage
      | pause nanos next =>
          simp only [stage, Program.advance, Option.some.injEq, Prod.mk.injEq] at step
          obtain ⟨rfl, rfl⟩ := step
          simp only [Worker.notices, stage]
          exact .pause d nanos next stage
  | settingAside d reason work =>
      cases work with
      | done result =>
          simp only [stage, Option.some.injEq, Prod.mk.injEq] at step
          obtain ⟨rfl, rfl⟩ := step
          simp only [Worker.notices, stage]
          cases result with
          | ok => exact .settleAside d stage
          | error cause => exact .failAside d cause stage
      | crash =>
          simp only [stage, Worker.crash, Option.some.injEq, Prod.mk.injEq] at step
          obtain ⟨rfl, rfl⟩ := step
          simp only [Worker.notices, stage]
          exact .crash d (.inr ⟨reason, stage⟩)
      | call request next =>
          simp only [stage, Program.advance, Option.some.injEq, Prod.mk.injEq] at step
          obtain ⟨rfl, rfl⟩ := step
          simp only [Worker.notices, stage]
          exact .callAside d request next stage
      | pause nanos next =>
          simp only [stage, Program.advance, Option.some.injEq, Prod.mk.injEq] at step
          obtain ⟨rfl, rfl⟩ := step
          simp only [Worker.notices, stage]
          exact .pauseAside d nanos next stage
  | rewinding d =>
      simp only [stage, Option.some.injEq, Prod.mk.injEq] at step
      obtain ⟨rfl, rfl⟩ := step
      simp only [Worker.notices, stage]
      exact rewinding_stride d stage
  | failing d cause =>
      simp only [stage, Option.some.injEq, Prod.mk.injEq] at step
      obtain ⟨rfl, rfl⟩ := step
      simp only [Worker.notices, stage]
      exact .seekBack d cause stage
  | blaming d cause =>
      simp only [stage, Option.some.injEq, Prod.mk.injEq] at step
      obtain ⟨rfl, rfl⟩ := step
      simp only [Worker.notices, stage]
      exact .blame d cause stage
  | stopping d =>
      simp only [stage, Option.some.injEq, Prod.mk.injEq] at step
      obtain ⟨rfl, rfl⟩ := step
      simp only [Worker.notices, stage]
      exact .stop d stage
  | leaving d =>
      simp only [stage, Option.some.injEq, Prod.mk.injEq] at step
      obtain ⟨rfl, rfl⟩ := step
      simp only [Worker.notices, stage]
      exact .leave d stage
  | finishing =>
      simp only [stage, Option.some.injEq, Prod.mk.injEq] at step
      obtain ⟨rfl, rfl⟩ := step
      simp only [Worker.notices, stage]
      exact .finish stage
  | showing count =>
      simp only [stage, Option.some.injEq, Prod.mk.injEq] at step
      obtain ⟨rfl, rfl⟩ := step
      obtain ⟨traffic, shown⟩ := s.showInFlight_eq count
      rw [shown]
      simp only [Worker.notices, stage]
      exact .display count traffic stage
  | exited | crashed =>
      simp only [stage] at step
      cases step

end Worker

end AlertRelay
