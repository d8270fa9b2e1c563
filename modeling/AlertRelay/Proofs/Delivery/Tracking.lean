import AlertRelay.Proofs.Delivery.Course
import AlertRelay.Proofs.Delivery.Soundness

/-!
# The courses of a deployment

What a deployment is for one partition (`Deployment.course`): what the loop has in hand and the
queue of the worker are the records on their way, and the stage of the worker says which record it
holds. A call of a unit makes one turn of the offsets (`Record.turn_reply`), and a turn is one step
of the course (`Course.next_of_turn`).
-/

namespace AlertRelay

/-! ## What a call changes of the offsets -/

/-- How a call of a unit changes the committed offsets and the ledger, by how far the unit has come
before and after it. -/
inductive Record.Turn (s : RelaySettings) (r : Record) (w after : World) :
    Standing → Standing → Prop where
  | still (standing : Standing) (ledger : after.ledger = w.ledger)
      (offsets : ∀ tp, Subscription.startOffset after.log s.group tp =
        Subscription.startOffset w.log s.group tp) : Turn s r w after standing standing
  | pass (admits : w.ledger.Admits (.forRecord r s.group)) (ledger : after.ledger = w.ledger)
      (offsets : ∀ tp, Subscription.startOffset after.log s.group tp =
        Subscription.startOffset w.log s.group tp) : Turn s r w after .entered .admitted
  | refuse (last : Int) (knows : w.ledger.last? s.group r.topicPartition = some last)
      (behind : r.nextOffset ≤ last) (ledger : after.ledger = w.ledger)
      (offsets : ∀ tp, Subscription.startOffset after.log s.group tp =
        Subscription.startOffset w.log s.group tp) : Turn s r w after .entered .refused
  | commit (t : Transaction) (ledger : after.ledger = w.ledger)
      (offsets : ∀ tp, Subscription.startOffset after.log s.group tp =
        if r.topicPartition = tp then r.nextOffset
        else Subscription.startOffset w.log s.group tp) :
      Turn s r w after .admitted (.committed t)
  | record (t : Transaction) (ledger : after.ledger = w.ledger.record (.forRecord r s.group))
      (offsets : ∀ tp, Subscription.startOffset after.log s.group tp =
        Subscription.startOffset w.log s.group tp) :
      Turn s r w after (.committed t) (.recorded t)

namespace Record

variable {s : RelaySettings} {r : Record} {w : World} {id : Nat} {v : UnitView}
  {request : RelayCall}

/-- Where a partition is to be read from changes by what a call makes visible and by nothing else.
-/
theorem startOffset_reply (reads : v.Reads w id) (request : RelayCall) (group : String)
    (tp : TopicPartition) :
    Subscription.startOffset (World.reply id request w).2.log group tp =
      Subscription.startOffset
        (w.logAfter (request.posting? v.held (World.reply id request w).1)) group tp := by
  rw [← reads.posting]
  exact (World.reply_accounts w id request).log.startOffset group tp

/-- What commits no offset leaves alone where a partition is to be read from. -/
theorem startOffset_offsetless {posting : Option Posting}
    (offsetless : ∀ p, posting = some p → p.offsets = []) (group : String) (tp : TopicPartition) :
    Subscription.startOffset (w.logAfter posting) group tp =
      Subscription.startOffset w.log group tp := by
  cases posting with
  | none => rfl
  | some p =>
      unfold World.logAfter Subscription.startOffset Log.committed?
      rw [Option.elim_some, p.post_committed (offsetless p rfl)]

/-- Every call of a unit makes one turn. -/
theorem turn_reply (allowed : r.Allows s v request) (reads : v.Reads w id) :
    Turn s r w (World.reply id request w).2 v.standing
      (v.note request (World.reply id request w).1).standing := by
  have ledger := World.reply_ledger w id request
  have offsets := fun tp => startOffset_reply reads request s.group tp
  have quiet : (∀ p, request.posting? v.held (World.reply id request w).1 = some p →
      p.offsets = []) → ∀ tp,
        Subscription.startOffset (World.reply id request w).2.log s.group tp =
          Subscription.startOffset w.log s.group tp :=
    fun offsetless tp => (offsets tp).trans (startOffset_offsetless offsetless s.group tp)
  cases request with
  | checkOffset c =>
      obtain ⟨entered, rfl⟩ := allowed
      have quiet := quiet fun p posted => by cases posted
      change Turn s r w _ v.standing
        (v.standing.after v.results (.checkOffset _) (w.ledger.check _))
      rw [entered]
      cases checked : w.ledger.check (OffsetCommit.forRecord r s.group) with
      | error e =>
          obtain ⟨_, last, knows, behind⟩ := Ledger.check_error checked
          exact .refuse last knows behind ledger quiet
      | ok => exact .pass (Ledger.check_eq_ok_iff.mp checked) ledger quiet
  | recordOffset c =>
      obtain ⟨⟨t, standing⟩, rfl⟩ := allowed
      have same : (v.note (.recordOffset (.forRecord r s.group)) ()).standing = .recorded t := by
        simp only [UnitView.note, Standing.after, standing]
      change Turn s r w _ v.standing (v.note (.recordOffset (.forRecord r s.group)) ()).standing
      rw [same, standing]
      exact .record t ledger (quiet fun p posted => by cases posted)
  | commit lane =>
      cases answer : (World.reply id (.commit lane) w).1 with
      | error cause =>
          have quiet := quiet fun p posted => by rw [answer] at posted; cases posted
          cases lane <;> exact .still _ ledger quiet
      | ok =>
          cases lane with
          | alerts =>
              refine .still _ ledger (quiet fun p posted => ?_)
              rw [answer] at posted
              obtain ⟨t, held, rfl⟩ := Option.map_eq_some_iff.mp posted
              exact (allowed t held).offsets
          | results =>
              obtain ⟨standing, t, held, fits⟩ := allowed
              have same : (v.note (.commit .results) (.ok ())).standing = .committed t := by
                simp only [UnitView.note, Standing.after, held, Option.elim_some]
              rw [same, standing]
              refine .commit t ledger fun tp => ?_
              have posted : RelayCall.posting? v.held (.commit .results) (.ok ()) =
                  some (.transaction .results t) := congrArg (Option.map _) held
              rw [offsets, answer, posted]
              change Subscription.startOffset (w.log.applyTransaction t.messages t.offsets) _ _ = _
              rw [fits.offsets, Log.startOffset_applyTransaction]
              simp only [OffsetCommit.forRecord, true_and]
              rfl
  | sendDeadLetter m =>
      refine .still _ ledger (quiet fun p posted => ?_)
      cases answer : (World.reply id (.sendDeadLetter m) w).1 with
      | error cause =>
          rw [answer] at posted
          cases posted
      | ok =>
          rw [answer] at posted
          cases posted
          rfl
  | _ => exact .still _ ledger (quiet fun p posted => by cases posted)

end Record

/-! ## The course of a partition -/

namespace WorkerStage

/-- The delivery that a worker has taken and not looked at yet. -/
def taken? : WorkerStage Interface.relay → Option Delivery
  | taken d => some d
  | _ => none

/-- The delivery that a worker works on, and how far it has come. -/
def holding (v : UnitView) : WorkerStage Interface.relay → Option (Delivery × Standing)
  | admitted d | failing d _ => some (d, .entered)
  | handling d _ | settingAside d _ _ => some (d, v.standing)
  | rewinding d => some (d, .admitted)
  | _ => none

/-- Whether a worker that has met no fatal error before meets none now. -/
def active : WorkerStage Interface.relay → Bool
  | blaming _ _ | stopping _ => false
  | _ => true

end WorkerStage

namespace Worker

/-- The deliveries that a worker has still to look at. -/
def upcoming (k : Worker Interface.relay) : List Delivery := k.stage.taken?.toList ++ k.queue

/-- Whether a worker still works on what it is given. -/
def alive (k : Worker Interface.relay) : Bool := k.stage.active && !k.failed

end Worker

namespace Course

/-- The tags of the deliveries that belong to a partition. -/
def tags (tp : TopicPartition) (deliveries : List Delivery) : List Tag :=
  (deliveries.filter fun d => d.record.topicPartition = tp).map Delivery.tag

/-- What is held, if it belongs to a partition. -/
def held (tp : TopicPartition) : Option (Delivery × Standing) → Option (Tag × Standing)
  | some (d, standing) => if d.record.topicPartition = tp then some (d.tag, standing) else none
  | none => none

/-- The course of a partition, from the site, the worker of the partition with its view, and what
the loop has in hand. -/
def of (group : String) (site : Site) (worker : Option (Worker Interface.relay)) (v : UnitView)
    (carried : Option Delivery) (abandoning : Bool) (halfway : Nat) (tp : TopicPartition) :
    Course where
  committed := Subscription.startOffset site.world.log group tp
  ledger := site.world.ledger.last? group tp
  positions := site.subscription.positionsOf tp
  generation := site.subscription.generation
  halfway := halfway
  upcoming := tags tp (worker.elim [] Worker.upcoming ++ carried.toList)
  hold := held tp (worker.bind fun k => k.stage.holding v)
  awaited := worker.bind fun k => k.redeliveries.awaiting.get? tp
  alive := worker.any Worker.alive && !abandoning

end Course

/-- The course of a partition in a deployment. -/
def Deployment.course (d : Deployment) (tp : TopicPartition) : Course :=
  Course.of d.config.groupId d.site d.run.workers[tp.worker d.run.workers.length]?
    (d.units (tp.worker d.run.workers.length)) d.run.carried d.run.shared.shutdown.abandoning
    d.halfway tp

/-- Whether a step of a site leaves a partition as it was. -/
structure Site.Beside (group : String) (tp : TopicPartition) (before after : Site) : Prop where
  committed : Subscription.startOffset after.world.log group tp =
    Subscription.startOffset before.world.log group tp
  ledger : after.world.ledger.last? group tp = before.world.ledger.last? group tp
  positions : after.subscription.positionsOf tp = before.subscription.positionsOf tp
  generation : after.subscription.generation = before.subscription.generation

namespace Site

variable {group : String} {tp : TopicPartition} {s : Site}

theorem Beside.refl (group : String) (tp : TopicPartition) (s : Site) : s.Beside group tp s :=
  ⟨rfl, rfl, rfl, rfl⟩

/-- A step that is calm leaves every partition as it was. -/
theorem Calm.beside {after : Site} (calm : s.Calm after) : s.Beside group tp after where
  committed := calm.log.startOffset group tp
  ledger := by rw [calm.ledger]
  positions := by rw [Subscription.positionsOf, Subscription.positionsOf, calm.positions]
  generation := calm.generation

/-- A seek in one partition leaves the others as they were. -/
theorem beside_seek {other : TopicPartition} (different : tp ≠ other) (offset : Int) :
    s.Beside group tp (source.seek other offset s).2 := by
  have same : (source.seek other offset s).2 =
      s.put (s.subscription.seek s.world.log other offset).2.1
        (s.subscription.seek s.world.log other offset).2.2 := rfl
  rw [same]
  unfold Subscription.seek
  split
  · exact ⟨rfl, rfl, Subscription.positionsOf_setPosition_other different, rfl⟩
  · exact .refl group tp s

/-- After a seek, a partition is read from the offset on, or it is not assigned. -/
theorem seek_cases (s : Site) (tp : TopicPartition) (offset : Int) :
    (source.seek tp offset s).2.world.log.Agrees s.world.log ∧
      (source.seek tp offset s).2.world.ledger = s.world.ledger ∧
      (source.seek tp offset s).2.subscription.generation = s.subscription.generation ∧
      ((source.seek tp offset s).1 = .ok () ∧
          (∀ q ∈ (source.seek tp offset s).2.subscription.positionsOf tp, q = offset) ∨
        (∃ cause, (source.seek tp offset s).1 = .error cause) ∧
          (source.seek tp offset s).2.subscription = s.subscription) := by
  have same : source.seek tp offset s = ((s.subscription.seek s.world.log tp offset).1,
      s.put (s.subscription.seek s.world.log tp offset).2.1
        (s.subscription.seek s.world.log tp offset).2.2) := rfl
  rw [same]
  unfold Subscription.seek
  split
  · exact ⟨s.world.log.ring_agrees, rfl, rfl, .inl ⟨rfl, fun q there =>
      Subscription.positionsOf_setPosition_self there⟩⟩
  · exact ⟨.refl _, rfl, rfl, .inr ⟨⟨_, rfl⟩, rfl⟩⟩

/-- A call for a record of one partition leaves the others as they were. -/
theorem beside_reply {settings : RelaySettings} {r : Record} {id : Nat} {v : UnitView}
    {request : RelayCall} (allowed : r.Allows settings v request) (reads : v.Reads s.world id)
    (different : r.topicPartition ≠ tp) :
    s.Beside settings.group tp (Site.reply id request s).2 := by
  obtain ⟨before, later, turn⟩ : ∃ before later, Record.Turn settings r s.world
      (World.reply id request s.world).2 before later := ⟨_, _, Record.turn_reply allowed reads⟩
  have other : ¬((OffsetCommit.forRecord r settings.group).consumerGroup = settings.group ∧
      (OffsetCommit.forRecord r settings.group).topicPartition = tp) := fun both => different both.2
  refine ⟨?_, ?_, rfl, rfl⟩
  · change Subscription.startOffset (World.reply id request s.world).2.log settings.group tp = _
    cases turn with
    | commit t ledger offsets => rw [offsets tp, if_neg different]
    | still _ _ offsets | pass _ _ offsets | refuse _ _ _ _ offsets | record _ _ offsets =>
        exact offsets tp
  · change (World.reply id request s.world).2.ledger.last? settings.group tp = _
    cases turn with
    | record t ledger offsets => rw [ledger, Ledger.last?_record_other other]
    | still _ ledger | pass _ ledger | refuse _ _ _ ledger | commit _ ledger => rw [ledger]

end Site

namespace Course

variable {group : String} {site after : Site} {worker : Option (Worker Interface.relay)}
  {v : UnitView} {carried : Option Delivery} {abandoning : Bool} {halfway : Nat}
  {tp : TopicPartition}

theorem Next.of_eq {orderly : Prop} {c next other : Course} (happens : Next orderly c next)
    (same : other = next) : Next orderly c other := same ▸ happens

/-- A step beside a partition leaves its course as it was. -/
theorem of_beside (beside : site.Beside group tp after) :
    of group after worker v carried abandoning halfway tp =
      of group site worker v carried abandoning halfway tp := by
  unfold Course.of
  rw [beside.committed, beside.ledger, beside.positions, beside.generation]

theorem held_self {d : Delivery} {standing : Standing} (here : d.record.topicPartition = tp) :
    held tp (some (d, standing)) = some (d.tag, standing) := if_pos here

theorem held_other {d : Delivery} {standing : Standing} (elsewhere : d.record.topicPartition ≠ tp) :
    held tp (some (d, standing)) = none := if_neg elsewhere

theorem tags_cons_self {d : Delivery} {rest : List Delivery}
    (here : d.record.topicPartition = tp) : tags tp (d :: rest) = d.tag :: tags tp rest := by
  unfold Course.tags
  rw [List.filter_cons_of_pos (by simpa using here), List.map_cons]

theorem tags_cons_other {d : Delivery} {rest : List Delivery}
    (elsewhere : d.record.topicPartition ≠ tp) : tags tp (d :: rest) = tags tp rest := by
  unfold Course.tags
  rw [List.filter_cons_of_neg (by simpa using elsewhere)]

theorem tags_append (first second : List Delivery) :
    tags tp (first ++ second) = tags tp first ++ tags tp second := by
  unfold Course.tags
  rw [List.filter_append, List.map_append]

theorem tags_subset {some all : List Delivery} (fewer : some ⊆ all) : tags tp some ⊆ tags tp all :=
  List.map_subset _ (List.filter_subset _ fewer)

/-- What the loop has in hand for another partition is not part of the course. -/
theorem of_carried_other {x : Delivery} (apart : x.record.topicPartition ≠ tp) :
    of group site worker v (some x) abandoning halfway tp =
      of group site worker v none abandoning halfway tp := by
  unfold Course.of
  rw [tags_append, tags_append, Option.toList_some, Option.toList_none, tags_cons_other apart]

/-- A seek changes the course of its partition in the position only. -/
theorem of_seek (offset : Int) :
    of group (Site.source.seek tp offset site).2 worker v carried abandoning halfway tp =
      { of group site worker v carried abandoning halfway tp with
        positions := (Site.source.seek tp offset site).2.subscription.positionsOf tp } := by
  obtain ⟨log, ledger, generation, _⟩ := site.seek_cases tp offset
  unfold Course.of
  rw [log.startOffset, ledger, generation]

/-- The worker makes a turn with the record that it holds. -/
theorem next_of_turn {orderly : Prop} {s : RelaySettings} {r : Record} {c next : Course} {a : Tag}
    {before standing : Standing} (turn : r.Turn s site.world after.world before standing)
    (holds : c.hold = some (a, before)) (place : r.nextOffset = a.offset + 1)
    (committed : c.committed = Subscription.startOffset site.world.log s.group r.topicPartition)
    (ledger : c.ledger = site.world.ledger.last? s.group r.topicPartition)
    (same : next = { c with
      committed := Subscription.startOffset after.world.log s.group r.topicPartition
      ledger := after.world.ledger.last? s.group r.topicPartition
      hold := some (a, standing) }) :
    Next orderly c next := by
  subst same
  cases turn with
  | still standing known offsets =>
      rw [offsets, known, ← committed, ← ledger, ← holds]
      exact .stay
  | pass admits known offsets =>
      rw [offsets, known, ← committed, ← ledger]
      refine .pass a holds fun last knows => ?_
      rw [← place]
      exact admits last (ledger.symm.trans knows)
  | refuse last knows behind known offsets =>
      rw [offsets, known, ← committed, ← ledger]
      exact .refuse a last holds (ledger.trans knows) (place ▸ behind)
  | commit t known offsets =>
      rw [offsets, if_pos rfl, known, ← ledger, place]
      exact .commit a t holds
  | record t known offsets =>
      rw [offsets, ← committed]
      refine .record a t _ holds fun below => ?_
      rw [known, ← place]
      refine Ledger.last?_record_self (c := .forRecord r s.group) fun last knows => ?_
      rw [← place] at below
      exact below last (ledger.trans knows)

/-- What the step of a worker is for a partition that it does not concern. -/
theorem next_of_same {orderly : Prop} {k later : Worker Interface.relay} {view : UnitView}
    (beside : site.Beside group tp after)
    (upcoming : tags tp later.upcoming = tags tp k.upcoming)
    (hold : held tp (later.stage.holding view) = held tp (k.stage.holding v))
    (awaited : later.redeliveries.awaiting.get? tp = k.redeliveries.awaiting.get? tp)
    (alive : later.alive = k.alive ∨ later.alive = false) :
    Next orderly (of group site (some k) v carried abandoning halfway tp)
      (of group after (some later) view carried abandoning halfway tp) := by
  rw [of_beside beside]
  have coming : tags tp (later.upcoming ++ carried.toList) =
      tags tp (k.upcoming ++ carried.toList) := by
    rw [tags_append, tags_append, upcoming]
  have same : of group site (some later) view carried abandoning halfway tp =
      { of group site (some k) v carried abandoning halfway tp with
        alive := later.alive && !abandoning } := by
    unfold Course.of
    simp only [Option.elim_some, Option.bind_some, Option.any_some, coming, hold, awaited]
  rw [same]
  rcases alive with keeps | ends
  · rw [keeps]
    exact .stay
  · rw [ends]
    exact .die

end Course

end AlertRelay
