import AlertRelay.Proofs.Delivery.Chronicle
import AlertRelay.Proofs.Delivery.Watch

/-!
# The budget of a record

A record that fails is worked on again until its redeliveries are used up, and is set aside then.
However often it lies in the queue, under whatever assignments, and whatever else fails meanwhile:
it fails at most once more than there are redeliveries, and it is set aside once it has failed that
often, and only once (`Deployment.budget_kept`).

A worker forgets how often a record has failed when the record is settled. By then the ledger knows
its offset, so that another copy of it is not admitted (`Course.Passed`). Until then, the worker of
its partition remembers exactly the failures that the trace tells of (`Deployment.Budget`).
-/

namespace AlertRelay

namespace Course

/-- Whether the ledger knows that an offset lies behind. -/
def Passed (c : Course) (offset : Int) : Prop := ∃ last, c.ledger = some last ∧ offset < last

/-- Whether the ledger knows the offset of a record whose commit has been noted. -/
def Noted (c : Course) : Prop :=
  ∀ a t, c.hold = some (a, .recorded t) → c.ledger = some (a.offset + 1)

variable {c next : Course} {orderly : Prop} {a : Tag}

/-- The ledger of a partition changes only when a commit is noted in it, and then goes up. -/
theorem Next.ledger_cases (happens : Next orderly c next) (floor : c.Floor) :
    next.ledger = c.ledger ∨ ∃ a t, c.hold = some (a, .committed t) ∧
      next.hold = some (a, .recorded t) ∧ next.ledger = some (a.offset + 1) ∧
      ∀ last, c.ledger = some last → last ≤ a.offset := by
  cases happens with
  | record a t ledger holds noted =>
      have below := (floor.held a _ holds).2
      have knows : ledger = some (a.offset + 1) := noted fun last before =>
        Int.lt_add_one_of_le (below last before)
      exact .inr ⟨a, t, holds, rfl, knows, below⟩
  | _ => exact .inl rfl

/-- The ledger goes on knowing what has been noted. -/
theorem Next.noted (happens : Next orderly c next) (floor : c.Floor) (noted : c.Noted) :
    next.Noted := by
  rcases happens.ledger_cases floor with same | ⟨a, t, _, holds, knows, _⟩
  · intro b u held
    rw [same]
    cases happens with
    | record a t ledger holds ahead =>
        have below := (floor.held a _ holds).2
        cases held
        rw [← same]
        exact ahead fun last before => Int.lt_add_one_of_le (below last before)
    | accept | pass | refuse | commit | finish | again | rewind | fail => cases held
    | _ => exact noted b u held
  · intro b u held
    cases holds.symm.trans held
    exact knows

/-- What lies behind stays behind. -/
theorem Next.passed (happens : Next orderly c next) (floor : c.Floor) {offset : Int}
    (passed : c.Passed offset) : next.Passed offset := by
  obtain ⟨last, knows, behind⟩ := passed
  rcases happens.ledger_cases floor with same | ⟨a, t, _, _, later, below⟩
  · exact ⟨last, same.trans knows, behind⟩
  · have := below last knows
    exact ⟨a.offset + 1, later, by omega⟩

/-- A record whose commit has been noted lies behind for the ledger. -/
theorem Noted.passed {t : Transaction} (noted : c.Noted) (holds : c.hold = some (a, .recorded t)) :
    c.Passed a.offset := ⟨_, noted a t holds, Int.lt_add_one_of_le (Int.le_refl _)⟩

/-- A record that is admitted does not lie behind. -/
theorem Floor.not_passed (floor : c.Floor) (holds : c.hold = some (a, .admitted)) :
    ¬c.Passed a.offset := by
  rintro ⟨last, knows, behind⟩
  have settled : ¬c.Midway := not_midway holds fun _ _ same => by cases same
  have least : c.committed ≤ a.offset := floor.held a _ holds
  have := floor.known last knows settled
  omega

end Course

/-! ## What a worker remembers -/

namespace WorkerNotice

/-- The delivery of an attempt that has failed. -/
def failed? : WorkerNotice → Option Delivery
  | ended d (.ok .failed) => some d
  | _ => none

/-- The delivery whose record is to be set aside for a reason. -/
def beganAside? (reason : DeadLetterReason) : WorkerNotice → Option Delivery
  | beganAside d why => if why = reason then some d else none
  | _ => none

end WorkerNotice

namespace Worker

variable {I : Interface} {ω : Type} {c : Consumer I ω} {h : RecordHandler I} {id : Nat}
  {closed : Bool} {k later : Worker I} {s after : Shared ω} {ns : List WorkerNotice}

/-- What a step of a worker means for the failures that it remembers. -/
inductive Reckons (c : Consumer I ω) (k later : Worker I) : List WorkerNotice → Prop where
  | quiet (ns : List WorkerNotice)
      (failures : later.redeliveries.failures = k.redeliveries.failures)
      (silent : ∀ n ∈ ns, n.failed? = none ∧ ∀ reason, n.beganAside? reason = none) :
      Reckons c k later ns
  | settle (ns : List WorkerNotice) (d : Delivery)
      (stage : (∃ done, done ≠ .failed ∧ k.stage = .handling d (.done (.ok done))) ∨
        ∃ reason, k.stage = .settingAside d reason (.done (.ok ())))
      (failures : later.redeliveries = k.redeliveries.settle d.record)
      (silent : ∀ n ∈ ns, n.failed? = none ∧ ∀ reason, n.beganAside? reason = none) :
      Reckons c k later ns
  | retry (d : Delivery) (stage : k.stage = .handling d (.done (.ok .failed)))
      (failures : later.redeliveries = (k.redeliveries.countFailure d.record).2)
      (left : (k.redeliveries.countFailure d.record).1 ≤ c.config.maxRedeliveries) :
      Reckons c k later [.ended d (.ok .failed)]
  | giveUp (d : Delivery) (work : Program I (Except RelayError Unit))
      (stage : k.stage = .handling d (.done (.ok .failed)))
      (onward : later.stage = .settingAside d .processingFailure work)
      (failures : later.redeliveries = (k.redeliveries.countFailure d.record).2)
      (spent : c.config.maxRedeliveries < (k.redeliveries.countFailure d.record).1) :
      Reckons c k later [.ended d (.ok .failed), .beganAside d .processingFailure]

namespace Stride

/-- Every step of a worker has one of these meanings for the failures that it remembers. -/
theorem reckons (stride : Stride c id h closed k s ns later after) : Reckons c k later ns := by
  have silent : ∀ n : WorkerNotice, n.failed? = none → (∀ reason, n.beganAside? reason = none) →
      ∀ m ∈ [n], m.failed? = none ∧ ∀ reason, m.beganAside? reason = none := by
    intro n failed aside m among
    rw [List.mem_singleton.mp among]
    exact ⟨failed, aside⟩
  cases stride with
  | settle d outcome redeliveries stage failed faultless awaiting failures =>
      have ended : (WorkerNotice.ended d outcome).failed? = none := by
        unfold WorkerNotice.failed?
        split
        · next x same =>
          cases same
          exact (failed rfl).elim
        · rfl
      rcases failures with same | ⟨⟨done, rfl⟩, same⟩
      · exact .quiet _ same (silent _ ended fun _ => rfl)
      · exact .settle _ d (.inl ⟨done, fun is => failed (congrArg Except.ok is), stage⟩) same
          (silent _ ended fun _ => rfl)
  | retry d stage left => exact .retry d stage rfl left
  | giveUp d stage spent => exact .giveUp d _ stage rfl rfl spent
  | settleAside d stage => exact .settle _ d (.inr ⟨_, stage⟩) rfl (silent _ rfl fun _ => rfl)
  | take | exit | call | pause | crash | callAside | pauseAside | seekBack | stop | leave | finish
  | display =>
      exact .quiet _ rfl fun n among => (by cases among)
  | _ => exact .quiet _ rfl (silent _ rfl fun _ => rfl)

/-- A record is being set aside until this is done, or has met a fatal error. -/
theorem setting_aside (stride : Stride c id h closed k s ns later after) {d : Delivery}
    {reason : DeadLetterReason} {work : Program I (Except RelayError Unit)}
    (stage : k.stage = .settingAside d reason work) :
    later.stage = .crashed ∨ (∃ work, later.stage = .settingAside d reason work) ∨ later.Halted ∨
      k.stage = .settingAside d reason (.done (.ok ())) := by
  cases stride with
  | crash x at_ => exact .inl rfl
  | callAside x request next at_ =>
      cases stage.symm.trans at_
      exact .inr (.inl ⟨_, rfl⟩)
  | pauseAside x nanos next at_ =>
      cases stage.symm.trans at_
      exact .inr (.inl ⟨_, rfl⟩)
  | settleAside x at_ =>
      cases stage.symm.trans at_
      exact .inr (.inr (.inr at_))
  | failAside x cause at_ => exact .inr (.inr (.inl (.of_failing rfl)))
  | take _ _ at_ | exit at_ | drop _ _ at_ | accept _ _ at_ | enter _ at_ | call _ _ _ at_
  | pause _ _ _ at_ | settle _ _ _ at_ | retry _ at_ | giveUp _ at_ | fail _ _ at_
  | rewind _ _ at_ | failRewind _ _ _ at_ | seekBack _ _ at_ | blame _ _ at_ | stop _ at_
  | leave _ at_ | finish at_ | display _ _ at_ =>
      cases stage.symm.trans at_

end Stride

end Worker

/-! ## The invariant -/

/-- Whether a record lies at some place of the log. -/
def Record.LiesAt (r : Record) (tp : TopicPartition) (offset : Int) : Prop :=
  r.topicPartition = tp ∧ r.offset = offset

instance (r : Record) (tp : TopicPartition) (offset : Int) : Decidable (r.LiesAt tp offset) :=
  inferInstanceAs (Decidable (_ ∧ _))

theorem Record.liesAt_iff {r : Record} {tp : TopicPartition} {offset : Int} :
    r.LiesAt tp offset ↔ (r.topicPartition, r.offset) = (tp, offset) := Prod.mk_inj.symm

namespace Notice

/-- Whether a worker tells of the record at some place of the log. -/
def tells (f : WorkerNotice → Option Delivery) (tp : TopicPartition) (offset : Int) :
    Notice → Bool
  | worker _ n => (f n).any fun d => d.record.LiesAt tp offset
  | loop _ => false

/-- How many attempts at a record have failed. -/
def failures (t : List Notice) (tp : TopicPartition) (offset : Int) : Nat :=
  t.countP (tells WorkerNotice.failed? tp offset)

/-- How often a record was to be set aside for a reason. -/
def asides (reason : DeadLetterReason) (t : List Notice) (tp : TopicPartition) (offset : Int) :
    Nat :=
  t.countP (tells (WorkerNotice.beganAside? reason) tp offset)

variable {t : List Notice} {tp : TopicPartition} {offset : Int} {f : WorkerNotice → Option Delivery}

theorem countP_tells_loop (ns : List LoopNotice) :
    (ns.map loop).countP (tells f tp offset) = 0 := by
  rw [List.countP_map, List.countP_eq_zero]
  intro n _ told
  cases told

/-- Notices that tell of no record are not counted. -/
theorem countP_tells_none {id : Nat} {ns : List WorkerNotice} (silent : ∀ n ∈ ns, f n = none) :
    (ns.map (worker id)).countP (tells f tp offset) = 0 := by
  rw [List.countP_map, List.countP_eq_zero]
  intro n among told
  simp only [Function.comp_apply, Notice.tells, silent n among, Option.any_none,
    Bool.false_eq_true] at told

end Notice

/-- Whether a worker will not work on a record as before: it sets the record aside, or has met a
fatal error. -/
def Worker.Spent (k : Worker Interface.relay) (tp : TopicPartition) (offset : Int) : Prop :=
  (∃ x reason work, k.stage = .settingAside x reason work ∧ x.record.LiesAt tp offset) ∨ k.Halted

/-- A worker that is done with a record stays so, or begins to set it aside. -/
theorem Worker.Stride.spent {c : Consumer Interface.relay Site} {h : RecordHandler Interface.relay}
    {id : Nat} {closed : Bool} {k later : Worker Interface.relay} {s after : Shared Site}
    {ns : List WorkerNotice} {tp : TopicPartition} {offset : Int}
    (stride : Stride c id h closed k s ns later after) (whole : later.stage ≠ .crashed)
    (spent : k.Spent tp offset) : later.Spent tp offset ∨
      ∃ x reason, x.record.LiesAt tp offset ∧
        k.stage = .settingAside x reason (.done (.ok ())) := by
  rcases spent with ⟨x, reason, work, stage, here⟩ | halted
  · rcases stride.setting_aside stage with crashed | ⟨onward, goes⟩ | halted | done
    · exact (whole crashed).elim
    · exact .inl (.inl ⟨x, reason, onward, goes, here⟩)
    · exact .inl (.inr halted)
    · exact .inr ⟨x, reason, here, done⟩
  · exact .inl (.inr (stride.halted halted).1)

namespace Deployment

/-- What is known of the failures of the record at some place, from the trace and by the workers. -/
structure Budget (d : Deployment) (t : List Notice) (tp : TopicPartition) (offset : Int) :
    Prop where
  bound : Notice.failures t tp offset ≤ d.config.maxRedeliveries + 1
  aside : ∀ reason, Notice.asides reason t tp offset =
    if reason = .processingFailure ∧
      Notice.failures t tp offset = d.config.maxRedeliveries + 1 then 1 else 0
  remembered : ∀ (id : Nat) (k : Worker Interface.relay), d.run.workers[id]? = some k →
    ∀ count, k.redeliveries.failures.get? (tp, offset) = some count →
      tp.worker d.run.workers.length = id ∧ count = Notice.failures t tp offset
  counted : ¬(d.course tp).Passed offset → ∀ k : Worker Interface.relay,
    d.run.workers[tp.worker d.run.workers.length]? = some k →
      (k.redeliveries.failures.get? (tp, offset)).getD 0 = Notice.failures t tp offset
  spent : ¬(d.course tp).Passed offset →
    Notice.failures t tp offset = d.config.maxRedeliveries + 1 → ∀ k : Worker Interface.relay,
      d.run.workers[tp.worker d.run.workers.length]? = some k → k.Spent tp offset

variable {d later : Deployment} {t ns : List Notice} {tp : TopicPartition} {offset : Int}

/-- Failed attempts are counted notice by notice. -/
theorem failures_append : Notice.failures (t ++ ns) tp offset =
    Notice.failures t tp offset + Notice.failures ns tp offset := List.countP_append

/-- Records set aside are counted notice by notice. -/
theorem asides_append {reason : DeadLetterReason} : Notice.asides reason (t ++ ns) tp offset =
    Notice.asides reason t tp offset + Notice.asides reason ns tp offset := List.countP_append

/-- What does not tell of a record leaves its budget as it is. A worker may forget a record that
lies behind. -/
theorem Budget.beside (budget : d.Budget t tp offset) (config : later.config = d.config)
    (count : later.run.workers.length = d.run.workers.length)
    (passed : (d.course tp).Passed offset → (later.course tp).Passed offset)
    (failures : Notice.failures ns tp offset = 0)
    (asides : ∀ reason, Notice.asides reason ns tp offset = 0)
    (workers : ∀ (id : Nat) (k' : Worker Interface.relay), later.run.workers[id]? = some k' →
      ∃ k : Worker Interface.relay, d.run.workers[id]? = some k ∧
        (k'.redeliveries.failures.get? (tp, offset) = k.redeliveries.failures.get? (tp, offset) ∨
          (later.course tp).Passed offset ∧
            k'.redeliveries.failures.get? (tp, offset) = none) ∧
        (k.Spent tp offset → k'.Spent tp offset ∨ (later.course tp).Passed offset)) :
    later.Budget (t ++ ns) tp offset := by
  have same : Notice.failures (t ++ ns) tp offset = Notice.failures t tp offset := by
    rw [failures_append, failures, Nat.add_zero]
  refine ⟨?_, fun reason => ?_, fun id k' present n knows => ?_, fun ahead k' present => ?_,
    fun ahead all k' present => ?_⟩
  · rw [same, config]
    exact budget.bound
  · rw [same, config, asides_append, asides, Nat.add_zero]
    exact budget.aside reason
  · obtain ⟨k, before, memory, _⟩ := workers id k' present
    rw [same, count]
    rcases memory with kept | ⟨_, forgotten⟩
    · exact budget.remembered id k before n (kept ▸ knows)
    · rw [forgotten] at knows
      cases knows
  · rw [count] at present
    obtain ⟨k, before, memory, _⟩ := workers _ k' present
    rcases memory with kept | ⟨behind, _⟩
    · rw [same, kept]
      exact budget.counted (fun behind => ahead (passed behind)) k before
    · exact (ahead behind).elim
  · rw [count] at present
    rw [same, config] at all
    obtain ⟨k, before, _, goes⟩ := workers _ k' present
    have spent := budget.spent (fun behind => ahead (passed behind)) all k before
    exact (goes spent).resolve_right ahead

/-- An attempt that fails counts for the record it was made at. -/
theorem Budget.spend {id : Nat} {k k' : Worker Interface.relay} {x : Delivery}
    (budget : d.Budget t tp offset) (small : d.config.maxRedeliveries < 0xffffffff)
    (config : later.config = d.config) (owner : tp.worker d.run.workers.length = id)
    (present : d.run.workers[id]? = some k) (workers : later.run.workers = d.run.workers.set id k')
    (ahead : ¬(d.course tp).Passed offset) (stage : k.stage = .handling x (.done (.ok .failed)))
    (here : x.record.LiesAt tp offset)
    (memory : k'.redeliveries = (k.redeliveries.countFailure x.record).2)
    (failures : Notice.failures ns tp offset = 1)
    (asides : ∀ reason, Notice.asides reason ns tp offset =
      if reason = .processingFailure ∧
        d.config.maxRedeliveries < (k.redeliveries.countFailure x.record).1 then 1 else 0)
    (spent : d.config.maxRedeliveries < (k.redeliveries.countFailure x.record).1 →
      k'.Spent tp offset) :
    later.Budget (t ++ ns) tp offset := by
  obtain ⟨rfl, rfl⟩ := here
  subst owner
  have bound := budget.bound
  have left : Notice.failures t x.record.topicPartition x.record.offset ≠
      d.config.maxRedeliveries + 1 := by
    intro all
    rcases budget.spent ahead all k present with ⟨_, _, _, aside, _⟩ | ⟨_, quiet⟩
    · cases stage.symm.trans aside
    · rw [stage] at quiet
      cases quiet
  have count : (k.redeliveries.countFailure x.record).1 =
      Notice.failures t x.record.topicPartition x.record.offset + 1 := by
    unfold Redeliveries.countFailure Redeliveries.failuresOf
    rw [budget.counted ahead k present]
    exact Nat.mod_eq_of_lt (by omega)
  have knows : k'.redeliveries.failures.get? (x.record.topicPartition, x.record.offset) =
      some (Notice.failures t x.record.topicPartition x.record.offset + 1) := by
    rw [memory, ← count]
    exact (Table.get?_put ..).trans (if_pos rfl)
  rw [count] at asides spent
  have length : later.run.workers.length = d.run.workers.length := by
    rw [workers, List.length_set]
  have total : Notice.failures (t ++ ns) x.record.topicPartition x.record.offset =
      Notice.failures t x.record.topicPartition x.record.offset + 1 := by
    rw [failures_append, failures]
  refine ⟨?_, fun reason => ?_, fun i k'' there n found => ?_, fun _ k'' there => ?_,
    fun _ all k'' there => ?_⟩
  · rw [total, config]
    omega
  · rw [total, config, asides_append, asides, budget.aside, if_neg fun both => left both.2,
      Nat.zero_add]
    exact if_congr (and_congr_right fun _ => by omega) rfl rfl
  · rw [length, total]
    rw [workers] at there
    rcases getElem?_set_cases there with ⟨rfl, rfl⟩ | ⟨apart, there⟩
    · exact ⟨rfl, Option.some.inj (found.symm.trans knows)⟩
    · exact (apart (budget.remembered i k'' there n found).1).elim
  · rw [length, workers] at there
    rcases getElem?_set_cases there with ⟨_, rfl⟩ | ⟨apart, _⟩
    · rw [knows, total]
      rfl
    · exact (apart rfl).elim
  · rw [length, workers] at there
    rcases getElem?_set_cases there with ⟨_, rfl⟩ | ⟨apart, _⟩
    · rw [total, config] at all
      exact spent (by omega)
    · exact (apart rfl).elim

/-- What holds of a deployment and its trace as long as the consumer is not started again. -/
structure Frugal (d : Deployment) (t : List Notice) : Prop where
  tracked : d.Tracked False
  noted : ∀ tp, (d.course tp).Noted
  budget : ∀ tp offset, d.Budget t tp offset

/-- To begin with, nothing has failed and no worker remembers any failure. -/
theorem frugal_start (config : ConsumerConfig) (workers : Nat) {w : World}
    (sound : w.log.WellFormed) (chronicle : List Entry) :
    (start config workers w chronicle).Frugal [] where
  tracked := tracked_start config workers sound chronicle
  noted tp a t holds := by
    rw [(fresh_start config workers w chronicle tp).hold] at holds
    cases holds
  budget tp offset := by
    have new : ∀ (id : Nat) (k : Worker Interface.relay),
        (start config workers w chronicle).run.workers[id]? = some k → k = .new := by
      intro id k present
      obtain ⟨_, _, rfl⟩ := List.mem_map.mp (List.mem_of_getElem? present)
      rfl
    refine ⟨Nat.zero_le _, fun reason => (if_neg fun both => by cases both.2).symm,
      fun id k present n knows => ?_, fun _ k present => ?_, fun _ all => ?_⟩
    · cases new id k present
      cases knows
    · cases new _ k present
      rfl
    · cases all

/-- A record whose work is done lies behind. -/
theorem Frugal.passed {id : Nat} {k : Worker Interface.relay} {x : Delivery}
    (frugal : d.Frugal t) (present : d.run.workers[id]? = some k)
    (stage : (∃ done, done ≠ .failed ∧ k.stage = .handling x (.done (.ok done))) ∨
      ∃ reason, k.stage = .settingAside x reason (.done (.ok ()))) :
    (d.course x.record.topicPartition).Passed x.record.offset := by
  have mine := frugal.tracked.sound.worker id k present
  have keeps := mine.keeps
  obtain ⟨busy, u, holding⟩ : k.stage.delivery? = some x ∧
      ∃ u, k.stage.holding (d.units id) = some (x, .recorded u) := by
    rcases stage with ⟨done, other, stage⟩ | ⟨reason, stage⟩
    · rw [stage] at keeps ⊢
      have finished : x.record.Finished d.settings (.ok done) (d.units id) := keeps.2
      have closed : Record.leavesOpen (.ok done) = false := by
        cases done with
        | failed => exact (other rfl).elim
        | processed | deadLettered => rfl
      obtain ⟨u, standing, _⟩ := finished.done closed
      exact ⟨rfl, u, congrArg (fun standing => some (x, standing)) standing⟩
    · rw [stage] at keeps ⊢
      have finished : x.record.Finished d.settings (.ok .deadLettered) (d.units id) := keeps.2
      obtain ⟨u, standing, _⟩ := finished.done rfl
      exact ⟨rfl, u, congrArg (fun standing => some (x, standing)) standing⟩
  exact (frugal.noted _).passed (course_hold frugal.tracked.sound present busy holding)

/-- A record whose work has failed does not lie behind. -/
theorem Frugal.not_passed {id : Nat} {k : Worker Interface.relay} {x : Delivery}
    (frugal : d.Frugal t) (present : d.run.workers[id]? = some k)
    (stage : k.stage = .handling x (.done (.ok .failed))) :
    ¬(d.course x.record.topicPartition).Passed x.record.offset := by
  have keeps := (frugal.tracked.sound.worker id k present).keeps
  rw [stage] at keeps
  have finished : x.record.Finished d.settings (.ok .failed) (d.units id) := keeps.2
  have holding : k.stage.holding (d.units id) = some (x, .admitted) := by
    rw [stage]
    exact congrArg (fun standing => some (x, standing)) (finished.failed rfl)
  have held := course_hold frugal.tracked.sound present (by rw [stage]; rfl) holding
  exact (frugal.tracked.floor _).not_passed held

/-- An attempt that has failed counts as one failure of its record. -/
theorem failures_told (id : Nat) (x : Delivery) {rest : List WorkerNotice}
    (silent : ∀ n ∈ rest, n.failed? = none) (tp : TopicPartition) (offset : Int) :
    Notice.failures ((WorkerNotice.ended x (.ok .failed) :: rest).map (.worker id)) tp offset =
      if x.record.LiesAt tp offset then 1 else 0 := by
  unfold Notice.failures
  rw [List.map_cons, List.countP_cons, Notice.countP_tells_none silent, Nat.zero_add]
  simp only [Notice.tells, WorkerNotice.failed?, Option.any_some, decide_eq_true_eq]

/-- A worker that gives up a record sets it aside because its processing has failed, and for no
other reason. -/
theorem asides_told (id : Nat) (x : Delivery) (reason : DeadLetterReason) (tp : TopicPartition)
    (offset : Int) :
    Notice.asides reason ([WorkerNotice.ended x (.ok .failed),
      .beganAside x .processingFailure].map (.worker id)) tp offset =
      if x.record.LiesAt tp offset ∧ reason = .processingFailure then 1 else 0 := by
  unfold Notice.asides
  by_cases why : reason = .processingFailure
  · simp [Notice.tells, WorkerNotice.beganAside?, List.countP_cons, why]
  · simp [Notice.tells, WorkerNotice.beganAside?, why, Ne.symm why]

section Stride

variable {id : Nat} {k k' : Worker Interface.relay} {after : Shared Site} {ms : List WorkerNotice}

/-- A step of a worker that tells nothing of a record keeps its budget. -/
theorem Frugal.still (frugal : d.Frugal t) (config : later.config = d.config)
    (present : d.run.workers[id]? = some k)
    (stride : k.Stride d.consumer id (Site.handler d.settings) d.run.loop.queuesClosed d.run.shared
      ms k' after) (workers : later.run.workers = d.run.workers.set id k')
    (whole : k'.stage ≠ .crashed)
    (passed : (d.course tp).Passed offset → (later.course tp).Passed offset)
    (failures : Notice.failures (ms.map (.worker id)) tp offset = 0)
    (asides : ∀ reason, Notice.asides reason (ms.map (.worker id)) tp offset = 0)
    (memory : k'.redeliveries.failures.get? (tp, offset) =
        k.redeliveries.failures.get? (tp, offset) ∨
      (later.course tp).Passed offset ∧ k'.redeliveries.failures.get? (tp, offset) = none) :
    later.Budget (t ++ ms.map (.worker id)) tp offset := by
  have count : later.run.workers.length = d.run.workers.length := by
    rw [workers, List.length_set]
  refine (frugal.budget tp offset).beside config count passed failures asides
    fun i k'' there => ?_
  rw [workers] at there
  rcases getElem?_set_cases there with ⟨rfl, rfl⟩ | ⟨_, there⟩
  · refine ⟨k, present, memory, fun spent => ?_⟩
    rcases stride.spent whole spent with spent | ⟨x, reason, ⟨rfl, rfl⟩, done⟩
    · exact .inl spent
    · exact .inr (passed (frugal.passed present (.inr ⟨reason, done⟩)))
  · exact ⟨k'', there, .inl rfl, .inl⟩

/-- A step of a worker whose attempt has failed keeps every budget: at the record it was made at it
counts, and it tells nothing of other records. -/
theorem Frugal.fails {x : Delivery} (frugal : d.Frugal t)
    (small : d.config.maxRedeliveries < 0xffffffff) (config : later.config = d.config)
    (present : d.run.workers[id]? = some k)
    (stride : k.Stride d.consumer id (Site.handler d.settings) d.run.loop.queuesClosed d.run.shared
      ms k' after) (workers : later.run.workers = d.run.workers.set id k')
    (whole : k'.stage ≠ .crashed)
    (passed : (d.course tp).Passed offset → (later.course tp).Passed offset)
    (stage : k.stage = .handling x (.done (.ok .failed)))
    (memory : k'.redeliveries = (k.redeliveries.countFailure x.record).2)
    (failures : Notice.failures (ms.map (.worker id)) tp offset =
      if x.record.LiesAt tp offset then 1 else 0)
    (asides : ∀ reason, Notice.asides reason (ms.map (.worker id)) tp offset =
      if x.record.LiesAt tp offset ∧ reason = .processingFailure ∧
        d.config.maxRedeliveries < (k.redeliveries.countFailure x.record).1 then 1 else 0)
    (spent : x.record.LiesAt tp offset →
      d.config.maxRedeliveries < (k.redeliveries.countFailure x.record).1 → k'.Spent tp offset) :
    later.Budget (t ++ ms.map (.worker id)) tp offset := by
  by_cases here : x.record.LiesAt tp offset
  · have owner : tp.worker d.run.workers.length = id := by
      rw [← here.1]
      exact (frugal.tracked.sound.worker id k present).owner (by rw [stage]; rfl)
    have ahead : ¬(d.course tp).Passed offset := by
      rw [← here.1, ← here.2]
      exact frugal.not_passed present stage
    rw [if_pos here] at failures
    simp only [here, true_and] at asides
    exact (frugal.budget tp offset).spend small config owner present workers ahead stage here memory
      failures asides (spent here)
  · rw [if_neg here] at failures
    have asides (reason : DeadLetterReason) :
        Notice.asides reason (ms.map (.worker id)) tp offset = 0 :=
      (asides reason).trans (if_neg fun both => here both.1)
    refine frugal.still config present stride workers whole passed failures asides (.inl ?_)
    rw [memory]
    exact (Table.get?_put ..).trans (if_neg fun same => here (Record.liesAt_iff.mpr same))

/-- A step of a worker keeps every budget. -/
theorem Frugal.stride (frugal : d.Frugal t) (small : d.config.maxRedeliveries < 0xffffffff)
    (config : later.config = d.config) (present : d.run.workers[id]? = some k)
    (stride : k.Stride d.consumer id (Site.handler d.settings) d.run.loop.queuesClosed d.run.shared
      ms k' after) (workers : later.run.workers = d.run.workers.set id k')
    (whole : k'.stage ≠ .crashed)
    (passed : (d.course tp).Passed offset → (later.course tp).Passed offset) :
    later.Budget (t ++ ms.map (.worker id)) tp offset := by
  cases stride.reckons with
  | quiet _ failures silent =>
      refine frugal.still config present stride workers whole passed
        (Notice.countP_tells_none fun n among => (silent n among).1)
        (fun reason => Notice.countP_tells_none fun n among => (silent n among).2 reason) (.inl ?_)
      rw [failures]
  | settle _ x stage failures silent =>
      refine frugal.still config present stride workers whole passed
        (Notice.countP_tells_none fun n among => (silent n among).1)
        (fun reason => Notice.countP_tells_none fun n among => (silent n among).2 reason) ?_
      rw [failures]
      by_cases here : x.record.LiesAt tp offset
      · obtain ⟨rfl, rfl⟩ := here
        exact .inr ⟨passed (frugal.passed present stage), (Table.get?_erase ..).trans (if_pos rfl)⟩
      · refine .inl ((Table.get?_erase ..).trans (if_neg fun same => ?_))
        exact here (Record.liesAt_iff.mpr same)
  | retry x stage memory left =>
      have within : ¬d.config.maxRedeliveries < (k.redeliveries.countFailure x.record).1 :=
        Nat.not_lt_of_le left
      refine frugal.fails small config present stride workers whole passed stage memory
        (failures_told id x (List.forall_mem_nil _) tp offset) (fun reason => ?_)
        fun _ spent => (within spent).elim
      rw [if_neg fun all => within all.2.2]
      rfl
  | giveUp x work stage onward memory spent =>
      have exceeded : d.config.maxRedeliveries < (k.redeliveries.countFailure x.record).1 := spent
      exact frugal.fails small config present stride workers whole passed stage memory
        (failures_told id x (List.forall_mem_singleton.mpr rfl) tp offset)
        (fun reason => (asides_told id x reason tp offset).trans
          (if_congr (and_congr_right fun _ => (and_iff_left exceeded).symm) rfl rfl))
        fun here _ => .inl ⟨x, _, work, onward, here⟩

end Stride

/-- The failures of every record stay within their bound as long as the consumer is not started
again. -/
theorem Frugal.step (frugal : d.Frugal t) (small : d.config.maxRedeliveries < 0xffffffff)
    {happening : Happening} (lasts : happening.lasts = true) :
    (d.step happening).Frugal (t ++ d.seen happening) := by
  have next := fun tp => course_step frugal.tracked.sound happening tp fun config workers w same =>
    by subst same; cases lasts
  have tracked := frugal.tracked.step happening fun never => never.elim
  refine ⟨tracked, fun tp => (next tp).noted (frugal.tracked.floor tp) (frugal.noted tp),
    fun tp offset => ?_⟩
  have passed : (d.course tp).Passed offset → ((d.step happening).course tp).Passed offset :=
    (next tp).passed (frugal.tracked.floor tp)
  have passes := d.passes_step lasts
  generalize d.seen happening = ns at passes ⊢
  cases passes with
  | stride id k k' after ms present stride workers =>
      obtain ⟨inside, _⟩ := List.getElem?_eq_some_iff.mp present
      have there : (d.step happening).run.workers[id]? = some k' := by
        rw [workers, List.getElem?_set_self inside]
      refine frugal.stride small (d.step_config lasts) present stride workers (fun crashed => ?_)
        passed
      have keeps := (tracked.sound.worker id k' there).keeps
      rw [crashed] at keeps
      exact keeps
  | around ms _ count alike =>
      refine (frugal.budget tp offset).beside (d.step_config lasts) count passed
        (Notice.countP_tells_loop ms) (fun _ => Notice.countP_tells_loop ms) fun id k' there => ?_
      obtain ⟨k, present, alike⟩ := alike id k' there
      refine ⟨k, present, .inl (by rw [alike.redeliveries]), fun spent => .inl ?_⟩
      rcases spent with ⟨x, reason, work, stage, here⟩ | halted
      · exact .inl ⟨x, reason, work, alike.stage.trans stage, here⟩
      · exact .inr (alike.halted halted)

/-- The failures of every record stay within their bound, whatever happens until the consumer is
started again. -/
theorem frugal_after (frugal : d.Frugal []) (small : d.config.maxRedeliveries < 0xffffffff)
    (happenings : List Happening) (lasts : ∀ happening ∈ happenings, happening.lasts = true) :
    (d.after happenings).config = d.config ∧ (d.after happenings).Frugal (d.trace happenings) := by
  refine trace_induction (P := fun x t => x.config = d.config ∧ x.Frugal t) happenings
    ⟨rfl, frugal⟩ fun x t happening among ⟨same, frugal⟩ => ?_
  have goes := lasts happening among
  exact ⟨(x.step_config goes).trans same, frugal.step (same ▸ small) goes⟩

/-- From whatever log a consumer begins, and whatever happens until it is started again: a record
fails at most once more than there are redeliveries. The handler is called to set it aside once that
has happened so often, neither earlier nor again, and with the reason that its processing has
failed and no other. What a worker remembers of it are its own
failures, so that other records do not use up its redeliveries. -/
theorem budget_kept (w : World) (history : List Entry) (config : ConsumerConfig) (workers : Nat)
    (small : config.maxRedeliveries < 0xffffffff) (happenings : List Happening)
    (lasts : ∀ happening ∈ happenings, happening.lasts = true) (tp : TopicPartition)
    (offset : Int) :
    let d := start config workers (w.founded history) []
    let failures := Notice.failures (d.trace happenings) tp offset
    failures ≤ config.maxRedeliveries + 1 ∧
      (∀ reason, Notice.asides reason (d.trace happenings) tp offset =
        if reason = .processingFailure ∧ failures = config.maxRedeliveries + 1 then 1 else 0) ∧
      ∀ (id : Nat) (k : Worker Interface.relay), (d.after happenings).run.workers[id]? = some k →
        ∀ count, k.redeliveries.failures.get? (tp, offset) = some count → count = failures := by
  intro d failures
  have begun : d.Frugal [] := frugal_start config workers (w.founded_wellFormed history) []
  obtain ⟨same, frugal⟩ := frugal_after begun small happenings lasts
  have budget := frugal.budget tp offset
  have kept : (d.after happenings).config.maxRedeliveries = config.maxRedeliveries :=
    congrArg ConsumerConfig.maxRedeliveries same
  refine ⟨?_, ?_, fun id k present count knows => (budget.remembered id k present count knows).2⟩
  · rw [← kept]
    exact budget.bound
  · intro reason
    rw [← kept]
    exact budget.aside reason

/-- Two records that cannot be scored, one redelivery, and a new assignment after the first failure.
The first record fails twice and is set aside, and the second one has its redelivery left. -/
theorem budget_kept_rebalanced :
    let history := [Entry.published (.plain "events" none (utf8 "\x7b\x7d")) 0,
      .published (.plain "events" none (utf8 "\x7b\x7d")) 0]
    let config := { ConsumerConfig.standard with
      groupId := "group", topics := ["events"], maxRedeliveries := 1 }
    let w := World.start [.new "results-0" "alerts-0" (fun _ => .error (.scoring "none"))
      fun _ _ _ => .error (.labeling "none" false)] fun _ => default
    let happenings := [List.replicate 18 (Happening.move .loop), .replicate 34 (.move (.worker 0)),
      [.rebalance], .replicate 20 (.move .loop), .replicate 64 (.move (.worker 0))].flatten
    let t := (start config 1 (w.founded history) []).trace happenings
    Notice.failures t ⟨"events", 0⟩ 0 = 2 ∧
      Notice.asides .processingFailure t ⟨"events", 0⟩ 0 = 1 ∧
      Notice.failures t ⟨"events", 0⟩ 1 = 1 ∧
      Notice.asides .processingFailure t ⟨"events", 0⟩ 1 = 0 ∧
      ∀ reason, Notice.asides reason t ⟨"events", 0⟩ 0 =
        if reason = .processingFailure ∧
          Notice.failures t ⟨"events", 0⟩ 0 = config.maxRedeliveries + 1 then 1 else 0 := by
  intro history config w happenings t
  have small : config.maxRedeliveries < 0xffffffff := by decide
  have lasts : ∀ happening ∈ happenings, happening.lasts = true := by decide +kernel
  have spent : Notice.failures t ⟨"events", 0⟩ 0 = 2 := by decide +kernel
  have aside : Notice.asides .processingFailure t ⟨"events", 0⟩ 0 = 1 := by decide +kernel
  have left : Notice.failures t ⟨"events", 0⟩ 1 = 1 := by decide +kernel
  have waits : Notice.asides .processingFailure t ⟨"events", 0⟩ 1 = 0 := by decide +kernel
  exact ⟨spent, aside, left, waits,
    (budget_kept w history config 1 small happenings lasts ⟨"events", 0⟩ 0).2.1⟩

end Deployment

end AlertRelay
