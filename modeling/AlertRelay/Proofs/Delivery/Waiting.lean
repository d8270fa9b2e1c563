import AlertRelay.Proofs.Delivery.Gapless
import AlertRelay.Proofs.Delivery.Watch

/-!
# Waiting for a record

When a record has failed and its partition is rewound to it, the worker waits for it: no later
record of the partition is admitted before the awaited one is processed or set aside
(`Deployment.awaited_settled_first`). A later record in the queue is dropped if it was fetched under
the assignment of the rewind. One of another assignment was fetched after its partition was read
again from the committed offset on, and then the awaited record comes first.

This holds if assignments are changed in order. If a new assignment falls between a poll and the
question which assignment its record belongs to, the record of the old assignment counts as one of
the new assignment, ends the wait and slips past the awaited one (`Deployment.awaited_passed`).
-/

namespace AlertRelay

/-- What matters to whoever waits for a record. -/
inductive Milestone where
  | admitted (tp : TopicPartition) (offset : Int)
  /-- The record has failed, and its partition was rewound to it. -/
  | awaited (tp : TopicPartition) (offset : Int)
  /-- The record was processed or set aside. -/
  | settled (tp : TopicPartition) (offset : Int)
  deriving DecidableEq

namespace WorkerNotice

def milestone? : WorkerNotice → Option Milestone
  | admitted d => some (.admitted d.record.topicPartition d.record.offset)
  | sought d (.ok ()) => some (.awaited d.record.topicPartition d.record.offset)
  | ended d (.ok .processed) | ended d (.ok .deadLettered) | endedAside d (.ok ()) =>
    some (.settled d.record.topicPartition d.record.offset)
  | _ => none

end WorkerNotice

namespace Notice

def milestone? : Notice → Option Milestone
  | loop _ => none
  | worker _ n => n.milestone?

/-- The milestones that a trace tells of. -/
def milestones (t : List Notice) : List Milestone := t.filterMap milestone?

/-- The loop passes no milestone. -/
theorem milestones_loop (ns : List LoopNotice) : milestones (ns.map loop) = [] := by
  unfold Notice.milestones
  rw [List.filterMap_map, List.filterMap_eq_nil_iff]
  exact fun _ _ => rfl

theorem milestones_worker (id : Nat) (ns : List WorkerNotice) :
    milestones (ns.map (worker id)) = ns.filterMap WorkerNotice.milestone? := by
  unfold Notice.milestones
  rw [List.filterMap_map]
  rfl

end Notice

/-! ## What the worker still owes -/

namespace Course

/-- Whether an offset is not committed yet, or has just been committed by the worker that holds its
record. -/
def Owes (c : Course) (offset : Int) : Prop :=
  c.committed ≤ offset ∨ ∃ a t, a.offset = offset ∧
    (c.hold = some (a, .committed t) ∨ c.hold = some (a, .recorded t))

variable {c next : Course} {orderly : Prop} {offset : Int}

/-- What is owed stays so until the worker lets the record go. -/
theorem Next.owes (happens : Next orderly c next) (order : orderly) (floor : c.Floor)
    (linked : c.Linked) (owes : c.Owes offset) :
    next.Owes offset ∨ ∃ a t, a.offset = offset ∧ c.hold = some (a, .recorded t) := by
  rcases owes with before | ⟨a, t, here, committed | recorded⟩
  · cases happens with
    | commit a t holds =>
        have atop : a.offset ≤ c.committed := linked.atop a _ holds (.inr rfl)
        have least : c.committed ≤ a.offset := floor.held a _ holds
        by_cases here : a.offset = offset
        · exact .inl (.inr ⟨a, t, here, .inl rfl⟩)
        · refine .inl (.inl ?_)
          dsimp only
          omega
    | _ => exact .inl (.inl before)
  · cases happens with
    | record b u ledger holds noted =>
        cases committed.symm.trans holds
        exact .inl (.inr ⟨a, t, here, .inr rfl⟩)
    | again b standing holds whole =>
        cases committed.symm.trans holds
        exact (whole t rfl).elim
    | finish b standing holds ended =>
        cases committed.symm.trans holds
        rcases ended with same | ⟨_, same⟩ <;> cases same
    | accept b rest first free => cases committed.symm.trans free
    | pass b holds | refuse b last holds | commit b u holds | rewind b positions holds
    | fail b positions holds =>
        cases committed.symm.trans holds
    | scatter positions generation halfway upcoming moved same disorder =>
        exact (disorder order).elim
    | _ => exact .inl (.inr ⟨a, t, here, .inl committed⟩)
  · exact .inr ⟨a, t, here, recorded⟩

/-- A record that is accepted is not ahead of what is committed. -/
theorem Next.accepts {a : Tag} {standing : Standing} (happens : Next orderly c next)
    (linked : c.Linked) (free : c.hold = none) (holds : next.hold = some (a, standing)) :
    a.offset ≤ c.committed := by
  cases happens with
  | accept b rest first _ alive fresh =>
      cases holds
      have line := linked.line alive [] (.inl rfl)
      unfold Course.Line at line
      rw [free, first] at line
      exact line.2.1 fresh
  | pass b before | refuse b last before | commit b t before | record b t ledger before
  | again b other before =>
      cases free.symm.trans before
  | finish | rewind | fail => cases holds
  | _ => cases free.symm.trans holds

end Course

/-! ## What workers do with what they owe -/

/-- A call of a unit leaves what is noted in the ledger. -/
theorem Record.Turn.recorded {s : RelaySettings} {r : Record} {w after : World}
    {before later : Standing} {t : Transaction} (turn : r.Turn s w after before later)
    (noted : before = .recorded t) : later = .recorded t := by
  cases turn with
  | still standing => exact noted
  | pass | refuse | commit | record => cases noted

/-- A unit that ends with its commit noted has succeeded. -/
theorem Record.Finished.succeeds {s : RelaySettings} {r : Record}
    {outcome : Except RelayError Outcome} {v : UnitView} {t : Transaction}
    (finished : r.Finished s outcome v) (noted : v.standing = .recorded t) :
    ∃ done, outcome = .ok done ∧ done ≠ .failed := by
  cases outcome with
  | ok done =>
      refine ⟨done, rfl, ?_⟩
      rintro rfl
      cases noted.symm.trans (finished.failed rfl)
  | error e =>
      rcases (finished.error e rfl).2 with ⟨other, _⟩ | ⟨other, _⟩
      · cases noted.symm.trans other
      · cases noted.symm.trans other

namespace Worker

variable {config : ConsumerConfig} {s : RelaySettings} {workers : Nat} {closed : Bool} {id : Nat}
  {shared after : Shared Site} {v : UnitView} {k later : Worker Interface.relay}
  {ns : List WorkerNotice} {x : Delivery} {t : Transaction}

/-- A record whose commit is noted is held until it is settled. -/
theorem Stride.recorded (stride : Stride (Site.consumer config workers) id (Site.handler s) closed k
      shared ns later after) (sound : k.Sound s workers closed id shared.outside.world v)
    (holding : k.stage.holding v = some (x, .recorded t)) :
    later.stage.holding (k.stage.viewAfter id shared.outside.world v) = some (x, .recorded t) ∨
      .settled x.record.topicPartition x.record.offset ∈
        ns.filterMap WorkerNotice.milestone? := by
  have keeps := sound.keeps
  cases stride with
  | call d request next stage | callAside d request next stage =>
      rw [stage] at holding keeps ⊢
      obtain ⟨reads, obeys⟩ := keeps
      obtain ⟨rfl, standing⟩ := Prod.mk.inj (Option.some.inj holding)
      refine .inl (congrArg (fun standing => some (d, standing)) ?_)
      exact (Record.turn_reply obeys.1 reads).recorded standing
  | pause d nanos next stage | pauseAside d nanos next stage =>
      rw [stage] at holding ⊢
      exact .inl holding
  | settle d outcome redeliveries stage =>
      rw [stage] at holding keeps
      obtain ⟨rfl, standing⟩ := Prod.mk.inj (Option.some.inj holding)
      obtain ⟨done, rfl, other⟩ := Record.Finished.succeeds keeps.2 standing
      cases done with
      | failed => exact (other rfl).elim
      | processed | deadLettered => exact .inr (List.mem_singleton_self _)
  | settleAside d stage =>
      rw [stage] at holding
      obtain ⟨rfl, standing⟩ := Prod.mk.inj (Option.some.inj holding)
      exact .inr (List.mem_singleton_self _)
  | retry d stage | giveUp d stage =>
      rw [stage] at holding keeps
      obtain ⟨rfl, standing⟩ := Prod.mk.inj (Option.some.inj holding)
      obtain ⟨done, same, other⟩ := Record.Finished.succeeds keeps.2 standing
      cases same
      exact (other rfl).elim
  | fail d cause stage | failAside d cause stage =>
      rw [stage] at holding keeps
      obtain ⟨rfl, standing⟩ := Prod.mk.inj (Option.some.inj holding)
      obtain ⟨done, same, _⟩ := Record.Finished.succeeds keeps.2 standing
      cases same
  | crash d stage =>
      rcases stage with stage | ⟨_, stage⟩
      · rw [stage] at keeps
        exact keeps.2.elim
      · rw [stage] at keeps
        exact keeps.2.elim
  | take _ _ stage | exit stage | drop _ _ stage | accept _ _ stage | enter _ stage
  | rewind _ _ stage | failRewind _ _ _ stage | seekBack _ _ stage | blame _ _ stage | stop _ stage
  | leave _ stage | finish stage | display _ _ stage =>
      rw [stage] at holding
      cases holding

/-- The milestones of a stride: a record is admitted, awaited or settled. -/
theorem Stride.milestones {I : Interface} {ω : Type} {c : Consumer I ω} {h : RecordHandler I}
    {k later : Worker I} {s after : Shared ω} {m : Milestone}
    (stride : Stride c id h closed k s ns later after)
    (told : m ∈ ns.filterMap WorkerNotice.milestone?) :
    (∃ d, k.stage = .taken d ∧ later.stage = .admitted d ∧
        m = .admitted d.record.topicPartition d.record.offset ∧
        ns.filterMap WorkerNotice.milestone? = [m]) ∨
      (∃ d, k.stage = .rewinding d ∧ m = .awaited d.record.topicPartition d.record.offset ∧
        ns.filterMap WorkerNotice.milestone? = [m]) ∨
      ∃ tp offset, m = .settled tp offset := by
  cases stride with
  | accept d awaiting stage =>
      cases List.mem_singleton.mp told
      exact .inl ⟨d, stage, rfl, rfl, rfl⟩
  | rewind d outside stage =>
      cases List.mem_singleton.mp told
      exact .inr (.inl ⟨d, stage, rfl, rfl⟩)
  | settle d outcome redeliveries stage failed =>
      cases outcome with
      | ok done =>
          cases done with
          | failed => exact (failed rfl).elim
          | processed | deadLettered =>
              exact .inr (.inr ⟨_, _, List.mem_singleton.mp told⟩)
      | error e => cases told
  | settleAside d stage => exact .inr (.inr ⟨_, _, List.mem_singleton.mp told⟩)
  | _ => cases told

end Worker

/-! ## What the consumer does -/

namespace Deployment

variable {d later : Deployment} {tp : TopicPartition}

/-- A partition holds a record just if its worker works on a delivery of that partition. -/
theorem hold_iff {a : Tag} {standing : Standing} :
    (d.course tp).hold = some (a, standing) ↔ ∃ (k : Worker Interface.relay) (x : Delivery),
      d.run.workers[tp.worker d.run.workers.length]? = some k ∧
      k.stage.holding (d.units (tp.worker d.run.workers.length)) = some (x, standing) ∧
      x.record.topicPartition = tp ∧ x.tag = a := by
  constructor
  · intro holds
    have held : Course.held tp (d.run.workers[tp.worker d.run.workers.length]?.bind fun k =>
        k.stage.holding (d.units (tp.worker d.run.workers.length))) = some (a, standing) := holds
    unfold Course.held at held
    split at held
    · next x other holding =>
      obtain ⟨k, present, holding⟩ := Option.bind_eq_some_iff.mp holding
      split at held
      · next here =>
        cases held
        exact ⟨k, x, present, holding, here, rfl⟩
      · cases held
    · cases held
  · rintro ⟨k, x, present, holding, rfl, rfl⟩
    unfold Deployment.course
    rw [present]
    exact Worker.hold_here holding

/-- What the next milestones mean to whoever waits for a record. -/
structure Heeds (d later : Deployment) (ms : List Milestone) : Prop where
  admits : ∀ tp offset, .admitted tp offset ∈ ms → ms = [.admitted tp offset] ∧
    ∀ owed, (d.course tp).Owes owed → offset ≤ owed
  awaits : ∀ tp offset, .awaited tp offset ∈ ms → ms = [.awaited tp offset] ∧
    (later.course tp).Owes offset
  owes : ∀ tp offset, (d.course tp).Owes offset → .settled tp offset ∉ ms →
    (later.course tp).Owes offset

/-- An offset that is owed stays so until the worker that holds its record has committed it. -/
theorem owes_next {offset : Int} (tracked : d.Tracked True)
    (next : ∀ tp, Course.Next True (d.course tp) (later.course tp))
    (owed : (d.course tp).Owes offset) : (later.course tp).Owes offset ∨
      ∃ a t, a.offset = offset ∧ (d.course tp).hold = some (a, .recorded t) :=
  (next tp).owes trivial (tracked.floor tp) (tracked.linked trivial tp) owed

section Stride

variable {id : Nat} {k k' : Worker Interface.relay} {after : Shared Site} {ns : List WorkerNotice}
  {x : Delivery} {offset : Int}

/-- A record that a worker accepts is not ahead of what is owed. -/
theorem admits_stride (tracked : d.Tracked True)
    (next : ∀ tp, Course.Next True (d.course tp) (later.course tp))
    (present : d.run.workers[id]? = some k) (workers : later.run.workers = d.run.workers.set id k')
    (taken : k.stage = .taken x) (onward : k'.stage = .admitted x)
    (owes : (d.course x.record.topicPartition).Owes offset) : x.record.offset ≤ offset := by
  have owner := (tracked.sound.worker id k present).owner (x := x) (by rw [taken]; rfl)
  obtain ⟨inside, _⟩ := List.getElem?_eq_some_iff.mp present
  have free : (d.course x.record.topicPartition).hold = none := by
    refine Option.eq_none_iff_forall_ne_some.mpr fun held holds => ?_
    obtain ⟨other, y, there, holding, _⟩ := hold_iff.mp holds
    rw [owner, present] at there
    cases there
    rw [taken] at holding
    cases holding
  have holds : (later.course x.record.topicPartition).hold = some (x.tag, .entered) := by
    refine hold_iff.mpr ⟨k', x, ?_, ?_, rfl, rfl⟩
    · rw [workers, List.length_set, owner, List.getElem?_set_self inside]
    · rw [onward]
      rfl
  have least : x.record.offset ≤ (d.course x.record.topicPartition).committed :=
    (next _).accepts (tracked.linked trivial _) free holds
  rcases owes with above | ⟨a, t, _, holds | holds⟩
  · exact Int.le_trans least above
  · cases free.symm.trans holds
  · cases free.symm.trans holds

/-- A record that a worker is going to wait for is owed. -/
theorem awaits_stride (tracked : d.Tracked True)
    (next : ∀ tp, Course.Next True (d.course tp) (later.course tp))
    (present : d.run.workers[id]? = some k) (stage : k.stage = .rewinding x) :
    (later.course x.record.topicPartition).Owes x.record.offset := by
  have holds : (d.course x.record.topicPartition).hold = some (x.tag, .admitted) :=
    course_hold tracked.sound present (by rw [stage]; rfl) (by rw [stage]; rfl)
  have least : (d.course x.record.topicPartition).committed ≤ x.record.offset :=
    (tracked.floor _).held x.tag _ holds
  rcases owes_next tracked next (.inl least) with owing | ⟨a, t, _, other⟩
  · exact owing
  · cases holds.symm.trans other

/-- What is owed stays so unless a worker settles it. -/
theorem owes_stride (tracked : d.Tracked True)
    (next : ∀ tp, Course.Next True (d.course tp) (later.course tp))
    (present : d.run.workers[id]? = some k)
    (stride : k.Stride d.consumer id (Site.handler d.settings) d.run.loop.queuesClosed d.run.shared
      ns k' after) (workers : later.run.workers = d.run.workers.set id k')
    (units : ∀ i, later.units i =
      if i = id then k.stage.viewAfter id d.site.world (d.units id) else d.units i)
    (owed : (d.course tp).Owes offset)
    (unsettled : .settled tp offset ∉ ns.filterMap WorkerNotice.milestone?) :
    (later.course tp).Owes offset := by
  obtain ⟨inside, _⟩ := List.getElem?_eq_some_iff.mp present
  rcases owes_next tracked next owed with owing | ⟨a, t, rfl, holds⟩
  · exact owing
  · obtain ⟨other, x, there, holding, rfl, rfl⟩ := hold_iff.mp holds
    refine .inr ⟨x.tag, t, rfl, .inr (hold_iff.mpr ?_)⟩
    rw [workers, List.length_set]
    by_cases here : x.record.topicPartition.worker d.run.workers.length = id
    · rw [here, present] at there
      cases there
      rw [here] at holding ⊢
      rw [units, if_pos rfl]
      refine ⟨k', x, List.getElem?_set_self inside, ?_, rfl, rfl⟩
      exact (stride.recorded (tracked.sound.worker id k present) holding).resolve_right unsettled
    · rw [units, if_neg here]
      refine ⟨other, x, ?_, holding, rfl, rfl⟩
      rw [List.getElem?_set_ne (Ne.symm here)]
      exact there

/-- A step of a worker heeds what is owed. -/
theorem heeds_stride (tracked : d.Tracked True)
    (next : ∀ tp, Course.Next True (d.course tp) (later.course tp))
    (present : d.run.workers[id]? = some k)
    (stride : k.Stride d.consumer id (Site.handler d.settings) d.run.loop.queuesClosed d.run.shared
      ns k' after) (workers : later.run.workers = d.run.workers.set id k')
    (units : ∀ i, later.units i =
      if i = id then k.stage.viewAfter id d.site.world (d.units id) else d.units i) :
    d.Heeds later (ns.filterMap WorkerNotice.milestone?) := by
  refine ⟨fun tp offset told => ?_, fun tp offset told => ?_, fun tp offset owed unsettled =>
    owes_stride tracked next present stride workers units owed unsettled⟩
  · rcases stride.milestones told with ⟨x, taken, onward, same, only⟩ | ⟨_, _, same, _⟩ |
      ⟨_, _, same⟩
    · cases same
      exact ⟨only, fun _ owes => admits_stride tracked next present workers taken onward owes⟩
    · cases same
    · cases same
  · rcases stride.milestones told with ⟨_, _, _, same, _⟩ | ⟨x, stage, same, only⟩ | ⟨_, _, same⟩
    · cases same
    · cases same
      exact ⟨only, awaits_stride tracked next present stage⟩
    · cases same

end Stride

/-- Whatever happens in order heeds what is owed, until the consumer is started again. -/
theorem heeds_step (tracked : d.Tracked True) {happening : Happening}
    (order : d.keepsOrder happening = true) (lasts : happening.lasts = true) :
    d.Heeds (d.step happening) (Notice.milestones (d.seen happening)) := by
  have next : ∀ tp, Course.Next True (d.course tp) ((d.step happening).course tp) := by
    intro tp
    have happens := course_step tracked.sound happening tp fun config workers w same => by
      subst same
      cases lasts
    rw [order] at happens
    simpa only [eq_self_iff_true] using happens
  have passes := d.passes_step lasts
  generalize d.seen happening = ns at passes ⊢
  cases passes with
  | stride id k k' after ms present stride workers units =>
      rw [Notice.milestones_worker]
      exact heeds_stride tracked next present stride workers units
  | around ms units count alike =>
      rw [Notice.milestones_loop]
      refine ⟨fun _ _ told => (by cases told), fun _ _ told => (by cases told),
        fun tp offset owed _ => ?_⟩
      rcases owes_next tracked next owed with owing | ⟨a, t, rfl, holds⟩
      · exact owing
      · obtain ⟨k, x, there, holding, rfl, rfl⟩ := hold_iff.mp holds
        obtain ⟨inside, _⟩ := List.getElem?_eq_some_iff.mp there
        obtain ⟨k', present⟩ : ∃ k', (d.step happening).run.workers[
            x.record.topicPartition.worker d.run.workers.length]? = some k' :=
          ⟨_, List.getElem?_eq_getElem (count ▸ inside)⟩
        obtain ⟨other, same, alike⟩ := alike _ k' present
        cases there.symm.trans same
        refine .inr ⟨x.tag, t, rfl, .inr (hold_iff.mpr ⟨k', x, ?_, ?_, rfl, rfl⟩)⟩
        · rw [count]
          exact present
        · rw [count, units, alike.stage]
          exact holding

/-! ## The whole run -/

/-- Whether no awaited record of a list of milestones was passed, and those that are not settled are
still owed. -/
structure Patient (d : Deployment) (ms : List Milestone) : Prop where
  tracked : d.Tracked True
  owes : ∀ tp offset before between, ms = before ++ .awaited tp offset :: between →
    .settled tp offset ∉ between → (d.course tp).Owes offset
  settled : ∀ tp earlier later before between rest,
    ms = before ++ .awaited tp earlier :: between ++ .admitted tp later :: rest →
      earlier < later → .settled tp earlier ∈ between

/-- Whatever happens in order, no awaited record is passed. -/
theorem Patient.step {ms : List Milestone} (patient : d.Patient ms) {happening : Happening}
    (order : d.keepsOrder happening = true) (lasts : happening.lasts = true) :
    (d.step happening).Patient (ms ++ Notice.milestones (d.seen happening)) := by
  have heeds := heeds_step patient.tracked order lasts
  generalize Notice.milestones (d.seen happening) = new at heeds ⊢
  refine ⟨patient.tracked.step happening fun _ => order, ?_, ?_⟩
  · intro tp offset before between same open_
    rcases ConsumerRun.split_append same with ⟨rest, known⟩ | ⟨mid, _, told⟩
    · have between_eq : between = rest ++ new := by
        rw [known, List.append_assoc, List.append_cancel_left_eq, List.cons_append,
          List.cons.injEq] at same
        exact same.2.symm
      rw [between_eq, List.mem_append, not_or] at open_
      exact heeds.owes tp offset (patient.owes tp offset before rest known open_.1) open_.2
    · have among : .awaited tp offset ∈ new :=
        told ▸ List.mem_append_right mid List.mem_cons_self
      exact (heeds.awaits tp offset among).2
  · intro tp earlier later before between rest same past
    rcases ConsumerRun.split_append same with ⟨rest, known⟩ | ⟨mid, known, told⟩
    · exact patient.settled tp earlier later before between rest known past
    · have among : .admitted tp later ∈ new :=
        told ▸ List.mem_append_right mid List.mem_cons_self
      obtain ⟨only, least⟩ := heeds.admits tp later among
      -- The record is the only milestone of its step, so all others are known already.
      have alone : mid = [] := by
        have sizes : (mid ++ .admitted tp later :: rest).length = 1 := by
          rw [← told, only]
          rfl
        rw [List.length_append, List.length_cons] at sizes
        exact List.length_eq_zero_iff.mp (by omega)
      rw [alone, List.append_nil] at known
      by_contra open_
      have bound := least earlier (patient.owes tp earlier before between known.symm open_)
      omega

/-- However much happens in order, no awaited record is passed. -/
theorem Patient.after {ms : List Milestone} (patient : d.Patient ms) (happenings : List Happening)
    (order : d.Orderly happenings) (lasts : ∀ happening ∈ happenings, happening.lasts = true) :
    (d.after happenings).Patient (ms ++ Notice.milestones (d.trace happenings)) := by
  induction happenings generalizing d ms with
  | nil =>
      rw [Deployment.trace, Notice.milestones, List.filterMap_nil, List.append_nil]
      exact patient
  | cons happening rest ih =>
      have once := patient.step order.1 (lasts happening List.mem_cons_self)
      have onward := ih once order.2 fun other among => lasts other (List.mem_cons_of_mem _ among)
      rw [Deployment.trace, Notice.milestones, List.filterMap_append, ← List.append_assoc]
      exact onward

/-- From whatever log a consumer begins, and whatever happens to it in order until it is started
again: between the rewind of a partition to a record that has failed and the admission of a later
record of the partition, the awaited record is processed or set aside. -/
theorem awaited_settled_first (w : World) (history : List Entry) (config : ConsumerConfig)
    (workers : Nat) (happenings : List Happening)
    (order : (start config workers (w.founded history) []).Orderly happenings)
    (lasts : ∀ happening ∈ happenings, happening.lasts = true) (tp : TopicPartition)
    (earlier later : Int) (before between rest : List Milestone)
    (told : Notice.milestones ((start config workers (w.founded history) []).trace happenings) =
      before ++ .awaited tp earlier :: between ++ .admitted tp later :: rest)
    (past : earlier < later) : .settled tp earlier ∈ between := by
  have begun : (start config workers (w.founded history) []).Patient [] := by
    refine ⟨tracked_start config workers (w.founded_wellFormed history) [], ?_, ?_⟩
    · intro tp offset before between same
      cases before <;> cases same
    · intro tp earlier later before between rest same
      cases before <;> cases same
  exact (begun.after happenings order lasts).settled tp earlier later before between rest told past

/-- Two records that cannot be scored. Between the failures of the first one, partitions are
assigned anew; the second one is admitted when the first one is set aside. -/
theorem awaited_settled_first_rebalanced :
    let history := [Entry.published (.plain "events" none (utf8 "\x7b\x7d")) 0,
      .published (.plain "events" none (utf8 "\x7b\x7d")) 0]
    let config := { ConsumerConfig.standard with
      groupId := "group", topics := ["events"], maxRedeliveries := 1 }
    let w := World.start [.new "results-0" "alerts-0" (fun _ => .error (.scoring "none"))
      fun _ _ _ => .error (.labeling "none" false)] fun _ => default
    let happenings := [List.replicate 18 (Happening.move .loop), .replicate 34 (.move (.worker 0)),
      [.rebalance], .replicate 20 (.move .loop), .replicate 64 (.move (.worker 0))].flatten
    let d := start config 1 (w.founded history) []
    let tp : TopicPartition := ⟨"events", 0⟩
    d.Orderly happenings ∧
      Notice.milestones (d.trace happenings) = [.admitted tp 0, .awaited tp 0, .admitted tp 0,
        .settled tp 0, .admitted tp 1, .awaited tp 1] ∧
      .settled tp 0 ∈ [Milestone.admitted tp 0, .settled tp 0] := by
  intro history config w happenings d tp
  have order : d.Orderly happenings := by decide +kernel
  have lasts : ∀ happening ∈ happenings, happening.lasts = true := by decide +kernel
  have told : Notice.milestones (d.trace happenings) = [.admitted tp 0, .awaited tp 0,
      .admitted tp 0, .settled tp 0, .admitted tp 1, .awaited tp 1] := by decide +kernel
  exact ⟨order, told, awaited_settled_first w history config 1 happenings order lasts tp 0 1
    [.admitted tp 0] [.admitted tp 0, .settled tp 0] [.awaited tp 1] told Int.zero_lt_one⟩

/-- Two records that cannot be scored. The second one is polled, then partitions are assigned anew,
and only then it is asked which assignment the record belongs to: it slips past the first one, which
has failed meanwhile. So it does if only the first one is polled in the middle of a new assignment.
-/
theorem awaited_passed :
    let history := [Entry.published (.plain "events" none (utf8 "\x7b\x7d")) 0,
      .published (.plain "events" none (utf8 "\x7b\x7d")) 0]
    let config := { ConsumerConfig.standard with groupId := "group", topics := ["events"] }
    let w := World.start [.new "results-0" "alerts-0" (fun _ => .error (.scoring "none"))
      fun _ _ _ => .error (.labeling "none" false)] fun _ => default
    let d := start config 1 (w.founded history) []
    let torn := [List.replicate 11 (Happening.move .loop), .replicate 16 (.move (.worker 0)),
      [.rebalance], .replicate 7 (.move .loop), .replicate 6 (.move (.worker 0))].flatten
    let halved := [[Happening.resetPositions], .replicate 9 (.move .loop), [.bumpGeneration],
      .replicate 9 (.move .loop), .replicate 20 (.move (.worker 0))].flatten
    let tp : TopicPartition := ⟨"events", 0⟩
    Notice.milestones (d.trace torn) = [.admitted tp 0, .awaited tp 0, .admitted tp 1] ∧
      Notice.milestones (d.trace halved) = [.admitted tp 0, .awaited tp 0, .admitted tp 1] ∧
      ¬∀ before between rest : List Milestone, Notice.milestones (d.trace torn) =
        before ++ (Milestone.awaited tp 0 :: between) ++ Milestone.admitted tp 1 :: rest →
          .settled tp 0 ∈ between := by
  intro history config w d torn halved tp
  have told : Notice.milestones (d.trace torn) =
      [.admitted tp 0, .awaited tp 0, .admitted tp 1] := by decide +kernel
  have halfway : Notice.milestones (d.trace halved) =
      [.admitted tp 0, .awaited tp 0, .admitted tp 1] := by decide +kernel
  refine ⟨told, halfway, fun settled => ?_⟩
  have among : .settled tp 0 ∈ ([] : List Milestone) := settled [.admitted tp 0] [] [] told
  exact List.not_mem_nil among

end Deployment

end AlertRelay
