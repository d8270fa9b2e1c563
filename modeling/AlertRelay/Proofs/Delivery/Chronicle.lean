import AlertRelay.Proofs.Delivery.Progress

/-!
# The chronicle of a deployment

What comes into the log is due: it commits no offset, or one that lies behind the committed one
(`Entry.Due`). If the order of assignments is kept, it is the next one. Of entries that are due one
after the other, the offsets of a partition ascend (`Entry.ascending_replay`), and in order they
leave no gap (`Entry.gapless_replay`).
-/

namespace AlertRelay

namespace Entry

/-- Whether an entry commits nothing, or one offset behind the committed one; in order, it is the
next one. -/
def Due (orderly : Prop) (l : Log) (e : Entry) : Prop :=
  e.offsets = [] ∨ ∃ c, e.offsets = [c] ∧
    Subscription.startOffset l c.consumerGroup c.topicPartition < c.offset ∧
    (orderly → c.offset = Subscription.startOffset l c.consumerGroup c.topicPartition + 1)

/-- Whether entries are due one after the other. -/
def DueAll (orderly : Prop) : Log → List Entry → Prop
  | _, [] => True
  | l, e :: rest => e.Due orderly l ∧ DueAll orderly (e.apply l) rest

variable {orderly : Prop} {e : Entry} {l : Log} {entries : List Entry}

theorem Due.agrees {a b : Log} (due : e.Due orderly a) (same : a.Agrees b) : e.Due orderly b := by
  rcases due with none | ⟨c, one, behind, next⟩
  · exact .inl none
  · rw [same.startOffset] at behind next
    exact .inr ⟨c, one, behind, next⟩

theorem DueAll.agrees {a b : Log} (due : DueAll orderly a entries) (same : a.Agrees b) :
    DueAll orderly b entries := by
  induction entries generalizing a b with
  | nil => trivial
  | cons e rest ih => exact ⟨due.1.agrees same, ih due.2 (e.apply_agrees same)⟩

theorem DueAll.append {more : List Entry} (due : DueAll orderly l entries)
    (later : DueAll orderly (replay entries l) more) : DueAll orderly l (entries ++ more) := by
  induction entries generalizing l with
  | nil => exact later
  | cons e rest ih => exact ⟨due.1, ih due.2 later⟩

theorem dueAll_of_offsetless (offsetless : ∀ e ∈ entries, e.offsets = []) :
    DueAll orderly l entries := by
  induction entries generalizing l with
  | nil => trivial
  | cons e rest ih =>
      exact ⟨.inl (offsetless e List.mem_cons_self),
        ih fun f there => offsetless f (List.mem_cons_of_mem e there)⟩

/-- What commits nothing leaves the committed offsets as they were. -/
theorem startOffset_apply_none (none : e.offsets = []) (group : String) (tp : TopicPartition) :
    Subscription.startOffset (e.apply l) group tp = Subscription.startOffset l group tp := by
  have committed : (e.apply l).committed = l.committed := by
    cases e with
    | posted worker s r transcript p => exact p.post_committed none l
    | published m partition => rfl
    | created topic count => exact l.createTopic_committed topic count
  unfold Subscription.startOffset Log.committed?
  rw [committed]

/-- After an entry with one offset, its group starts there in the partition, and in no other. -/
theorem startOffset_apply_one {c : OffsetCommit} (one : e.offsets = [c]) (group : String)
    (tp : TopicPartition) :
    Subscription.startOffset (e.apply l) group tp =
      if c.consumerGroup = group ∧ c.topicPartition = tp then c.offset
      else Subscription.startOffset l group tp := by
  cases e with
  | posted worker s r transcript p =>
      cases p with
      | transaction lane t =>
          change Subscription.startOffset (l.applyTransaction t.messages t.offsets) group tp = _
          rw [show t.offsets = [c] from one, Log.startOffset_applyTransaction]
      | letter m => cases one
  | published m partition => cases one
  | created topic count => cases one

/-- An entry adds its offsets to those that a group has committed in a partition. -/
theorem offsetsOf_apply (e : Entry) (l : Log) (group : String) (tp : TopicPartition) :
    (e.apply l).offsetsOf group tp = l.offsetsOf group tp ++
      ((e.offsets.filter fun c => c.consumerGroup = group ∧ c.topicPartition = tp).map
        OffsetCommit.offset) := by
  unfold Log.offsetsOf
  rw [e.apply_commitLog, List.filter_append, List.map_append]

/-- Entries that are due in order leave no gap between the offsets that they commit. -/
theorem gapless_replay (due : DueAll True l entries) (group : String) (tp : TopicPartition) :
    ∃ count, (replay entries l).offsetsOf group tp = l.offsetsOf group tp ++
      (List.range count).map fun i : Nat => Subscription.startOffset l group tp + 1 + i := by
  induction entries generalizing l with
  | nil => exact ⟨0, (List.append_nil _).symm⟩
  | cons e rest ih =>
      obtain ⟨count, same⟩ := ih due.2
      change ∃ count, (replay rest (e.apply l)).offsetsOf group tp = _
      rw [same, offsetsOf_apply]
      rcases due.1 with none | ⟨c, one, _, next⟩
      · refine ⟨count, ?_⟩
        rw [startOffset_apply_none none, none, List.filter_nil, List.map_nil, List.append_nil]
      · rw [startOffset_apply_one one, one, List.filter_cons, List.filter_nil]
        by_cases here : c.consumerGroup = group ∧ c.topicPartition = tp
        · refine ⟨count + 1, ?_⟩
          rw [if_pos here, if_pos (by simpa using here), List.map_singleton, List.append_assoc,
            List.range_succ_eq_map, List.map_cons, List.map_map]
          obtain ⟨rfl, rfl⟩ := here
          have first := next trivial
          refine congrArg (l.offsetsOf _ _ ++ ·) (congr (congrArg List.cons ?_) ?_)
          · rw [first, Int.natCast_zero, Int.add_zero]
          · refine List.map_congr_left fun i _ => ?_
            rw [first, Function.comp_apply, Nat.succ_eq_add_one, Int.natCast_add, Int.natCast_one]
            omega
        · refine ⟨count, ?_⟩
          rw [if_neg here, if_neg (by simpa using here), List.map_nil, List.append_nil]

/-- Of entries that are due one after the other, the offsets of a partition ascend from the
committed one. -/
theorem ascending_replay (due : DueAll orderly l entries) :
    (entries.flatMap offsets).Pairwise (fun a b => a.consumerGroup = b.consumerGroup →
      a.topicPartition = b.topicPartition → a.offset < b.offset) ∧
    ∀ c ∈ entries.flatMap offsets,
      Subscription.startOffset l c.consumerGroup c.topicPartition < c.offset := by
  induction entries generalizing l with
  | nil => exact ⟨.nil, fun c listed => (by cases listed)⟩
  | cons e rest ih =>
      obtain ⟨ascending, above⟩ := ih due.2
      rw [List.flatMap_cons]
      rcases due.1 with none | ⟨c, one, behind, _⟩
      · rw [none, List.nil_append]
        refine ⟨ascending, fun d listed => ?_⟩
        rw [← startOffset_apply_none none]
        exact above d listed
      · rw [one, List.singleton_append]
        refine ⟨List.pairwise_cons.mpr ⟨fun d listed group tp => ?_, ascending⟩, fun d listed => ?_⟩
        · have := above d listed
          rwa [startOffset_apply_one one, if_pos ⟨group, tp⟩] at this
        · rcases List.mem_cons.mp listed with rfl | later
          · exact behind
          · have := above d later
            rw [startOffset_apply_one one] at this
            split at this
            next same =>
              rw [← same.1, ← same.2]
              exact Int.lt_trans behind this
            next => exact this

/-! ## What may come into a log -/

/-- Whether something may come into a log: a worker commits the offset of a record that lies in the
log with what the record has come to, publishes alerts, and sends dead letters that were not read
from a log. -/
def Lawful (l : Log) : Entry → Prop
  | posted _ s r transcript (.transaction .results t) => r.LiesIn l ∧ r.Fits s transcript t
  | posted _ s _ _ (.transaction .alerts t) => s.Alerts t
  | posted _ s _ _ (.letter m) => s.Stray m
  | published _ _ | created _ _ => True

/-- What may come into a log may come into a longer one. -/
theorem Lawful.mono {later : Log} (lawful : e.Lawful l) (extended : later.Extends l) :
    e.Lawful later := by
  cases e with
  | posted worker s r transcript p =>
      cases p with
      | transaction lane t =>
          cases lane with
          | results => exact ⟨extended _ _ _ lawful.1, lawful.2⟩
          | alerts => exact lawful
      | letter m => exact lawful
  | published m partition => trivial
  | created topic count => trivial

/-- What a worker makes visible in the order of its unit may come into the log. -/
theorem lawful_posted {s : RelaySettings} {r : Record} {v : UnitView} {p : Posting}
    (posts : r.Posts s v p) (lies : r.LiesIn l) (worker : Nat) :
    (posted worker s r v.transcript p).Lawful l := by
  cases posts with
  | result t standing held fits => exact ⟨lies, fits⟩
  | alert t alerts => exact alerts
  | letter m stray => exact stray

/-- What becomes visible by a call is what its entry says. -/
theorem replay_posting (w : World) (worker : Nat) (s : RelaySettings) (r : Record)
    (transcript : List (Exchange Interface.relay)) (posting : Option Posting) :
    replay (posting.map (posted worker s r transcript)).toList w.log = w.logAfter posting := by
  cases posting <;> rfl

end Entry

namespace Worker

variable {config : ConsumerConfig} {s : RelaySettings} {workers : Nat} {closed : Bool} {id : Nat}
  {shared after : Shared Site} {w : World} {v : UnitView} {k later : Worker Interface.relay}

/-- The log grows by what becomes visible by the step of a worker. -/
theorem step_log
    (step : k.step? (Site.consumer config workers) id (Site.handler s) closed shared =
      some (later, after)) :
    after.outside.world.log.Agrees
      (Entry.replay (k.stage.entries id s shared.outside.world v) shared.outside.world.log) := by
  obtain ⟨stage, queue, redeliveries, failed⟩ := k
  have still := Log.Agrees.refl shared.outside.world.log
  cases stage with
  | handling d work | settingAside d _ work =>
      cases work with
      | call request next =>
          cases step
          unfold WorkerStage.entries
          simp only [WorkerStage.asks?]
          rw [Entry.replay_posting]
          exact (World.reply_accounts shared.outside.world id request).log
      | _ =>
          cases step
          exact still
  | rewinding d | failing d cause =>
      cases step
      exact (shared.outside.seek_cases d.record.topicPartition d.record.offset).1
  | taken d | admitted d =>
      cases step
      exact still
  | _ =>
      rw [(step_free (s := s) rfl step).1]
      exact still

/-- What becomes visible by the step of a worker is in order while it works on its record. -/
theorem Sound.entries (sound : k.Sound s workers closed id w v) :
    k.stage.entries id s w v = [] ∨ ∃ x p, k.stage.delivery? = some x ∧
      k.stage.holding v = some (x, v.standing) ∧ x.record.Posts s v p ∧
      k.stage.entries id s w v = [.posted id s x.record v.transcript p] := by
  obtain ⟨stage, queue, redeliveries, failed⟩ := k
  have asks : ∀ (x : Delivery) (request : RelayCall), stage.delivery? = some x →
      stage.holding v = some (x, v.standing) → stage.asks? = some (x.record, request) →
      v.Reads w id → x.record.Allows s v request →
        stage.entries id s w v = [] ∨ ∃ x p, stage.delivery? = some x ∧
          stage.holding v = some (x, v.standing) ∧ x.record.Posts s v p ∧
          stage.entries id s w v = [.posted id s x.record v.transcript p] := by
    intro x request busy holding asks reads allowed
    unfold WorkerStage.entries
    rw [asks]
    dsimp only
    rw [reads.posting]
    cases posted : request.posting? v.held (World.reply id request w).1 with
    | none => exact .inl rfl
    | some p => exact .inr ⟨x, p, busy, holding, Record.posts_of_allows allowed posted, rfl⟩
  cases stage with
  | handling x work | settingAside x _ work =>
      obtain ⟨reads, obeys⟩ := sound.keeps
      cases work with
      | call request next => exact asks x request rfl rfl rfl reads obeys.1
      | _ => exact .inl rfl
  | _ => exact .inl rfl

end Worker

/-! ## What a deployment adds -/

namespace Deployment

variable {d later : Deployment} {orderly : Prop} {l : Log} {entries : List Entry}

/-- What something that happens adds to the chronicle is in the log afterwards, was due, and is
lawful. -/
structure Gains (orderly : Prop) (d later : Deployment) (entries : List Entry) : Prop where
  chronicle : later.chronicle = d.chronicle ++ entries
  log : later.log.Agrees (Entry.replay entries d.log)
  due : Entry.DueAll orderly d.log entries
  lawful : ∀ e ∈ entries, e.Lawful later.log

/-- Where the log stays as its readers see it, nothing is added to the chronicle. -/
theorem gains_nothing (chronicle : later.chronicle = d.chronicle) (log : later.log.Agrees d.log) :
    d.Gains orderly later [] :=
  ⟨chronicle.trans (List.append_nil _).symm, log, trivial, fun _ there => by cases there⟩

/-- What comes from outside commits no offset, so it is always due. -/
theorem gains_outside (log : later.log.Agrees (Entry.replay entries d.log))
    (chronicle : later.chronicle = d.chronicle ++ entries)
    (outside : ∀ e ∈ entries, e.offsets = [] ∧ ∀ other, e.Lawful other) :
    d.Gains orderly later entries := by
  exact ⟨chronicle, log, Entry.dueAll_of_offsetless fun e there => (outside e there).1,
    fun e there => (outside e there).2 _⟩

/-- The course of a partition holds the record that the worker of the partition works on. -/
theorem course_hold {id : Nat} {k : Worker Interface.relay} {x : Delivery} {standing : Standing}
    (sound : d.Sound) (present : d.run.workers[id]? = some k) (busy : k.stage.delivery? = some x)
    (holding : k.stage.holding (d.units id) = some (x, standing)) :
    (d.course x.record.topicPartition).hold = some (x.tag, standing) := by
  have owner := (sound.worker id k present).owner busy
  unfold Deployment.course
  rw [owner, present]
  exact Worker.hold_here holding

/-- An offset is committed for a record that is admitted, hence it is due. -/
theorem due_posted {id : Nat} {k : Worker Interface.relay} {x : Delivery} {p : Posting}
    (tracked : d.Tracked orderly) (present : d.run.workers[id]? = some k)
    (busy : k.stage.delivery? = some x)
    (holding : k.stage.holding (d.units id) = some (x, (d.units id).standing))
    (posts : x.record.Posts d.settings (d.units id) p)
    (transcript : List (Exchange Interface.relay)) :
    (Entry.posted id d.settings x.record transcript p).Due orderly d.log := by
  have held := course_hold tracked.sound present busy holding
  cases posts with
  | result t standing results fits =>
      rw [standing] at held
      have floor : Subscription.startOffset d.log d.config.groupId x.record.topicPartition ≤
          x.record.offset := (tracked.floor _).held _ _ held
      have lies : x.record.LiesIn d.log :=
        (tracked.sound.worker id k present).lies x (List.mem_append_left _
          (Option.mem_toList.mpr busy))
      refine .inr ⟨.forRecord x.record d.settings.group, fits.offsets, ?_, fun order => ?_⟩
      · change _ < x.record.nextOffset
        rw [lies.nextOffset]
        exact Int.lt_add_one_of_le floor
      · have atop : x.record.offset ≤
            Subscription.startOffset d.log d.config.groupId x.record.topicPartition :=
          (tracked.linked order _).atop _ _ held (.inr rfl)
        exact lies.nextOffset.trans (congrArg (· + 1) (Int.le_antisymm atop floor))
  | alert t alerts => exact .inl alerts.offsets
  | letter m stray => exact .inl rfl

/-- What a step of a worker adds to the chronicle was due and is lawful. -/
theorem gains_stepWorker (tracked : d.Tracked orderly) (id : Nat) :
    ∃ entries, d.Gains orderly (d.stepWorker id) entries := by
  rcases d.stepWorker_cases id with same | ⟨k, next, after, present, step, same⟩
  · rw [same]
    exact ⟨[], gains_nothing rfl (.refl _)⟩
  · rw [same]
    have mine := tracked.sound.worker id k present
    have grows := (Worker.step_sound mine step).1
    refine ⟨k.stage.entries id d.settings d.site.world (d.units id), rfl, Worker.step_log step,
      ?_, ?_⟩
    · rcases mine.entries with nothing | ⟨x, p, busy, holding, posts, one⟩
      · rw [nothing]
        trivial
      · rw [one]
        exact ⟨due_posted tracked present busy holding posts _, trivial⟩
    · rcases mine.entries with nothing | ⟨x, p, busy, holding, posts, one⟩
      · rw [nothing]
        exact fun _ there => by cases there
      · rw [one]
        intro e there
        cases List.mem_singleton.mp there
        refine Entry.lawful_posted posts (grows.records _ _ _ ?_) id
        exact mine.lies x (List.mem_append_left _ (Option.mem_toList.mpr busy))

/-- Whatever happens, the log grows by what is due and lawful. -/
theorem gains_step (tracked : d.Tracked orderly) (happening : Happening) :
    ∃ entries, d.Gains orderly (d.step happening) entries := by
  have one : ∀ e : Entry, e.offsets = [] ∧ (∀ other, e.Lawful other) →
      ∀ f ∈ [e], f.offsets = [] ∧ ∀ other, f.Lawful other := by
    intro e outside f there
    cases List.mem_singleton.mp there
    exact outside
  cases happening with
  | move m =>
      cases m with
      | worker id => exact gains_stepWorker tracked id
      | loop | cancel | timeout | stop =>
          refine ⟨[], ?_⟩
          simp only [Deployment.step, Deployment.move]
          split
          · next next step =>
            exact gains_nothing rfl (ConsumerRun.step_turns (fun id same => by cases same) step).log
          · exact gains_nothing rfl (.refl _)
  | disturb x =>
      refine ⟨[], gains_nothing rfl ?_⟩
      change (x.apply d.site.world).log.Agrees d.log
      rw [(x.apply_spares d.site.world).log]
      exact .refl _
  | publish m partition =>
      exact ⟨[.published m partition], gains_outside (.refl _) rfl (one _ ⟨rfl, fun _ => trivial⟩)⟩
  | createTopic topic count =>
      exact ⟨[.created topic count], gains_outside (.refl _) rfl (one _ ⟨rfl, fun _ => trivial⟩)⟩
  | rebalance => exact ⟨[], gains_nothing rfl d.log.ring_agrees⟩
  | resetPositions => exact ⟨[], gains_nothing rfl (.refl _)⟩
  | bumpGeneration => exact ⟨[], gains_nothing rfl d.log.ring_agrees⟩
  | restart config workers w =>
      refine ⟨config.topics.map fun topic => .created topic 1,
        gains_outside ?_ rfl fun e there => ?_⟩
      · rw [Entry.replay, List.foldl_map]
        exact .refl _
      · obtain ⟨topic, _, rfl⟩ := List.mem_map.mp there
        exact ⟨rfl, fun _ => trivial⟩

/-! ## What holds of a chronicle throughout -/

/-- Whether a chronicle tells how the log of a deployment has come about from an earlier one, and
all in it was due and is lawful. -/
structure Chronicled (orderly : Prop) (l : Log) (d : Deployment) : Prop where
  tracked : d.Tracked orderly
  log : d.log.Agrees (Entry.replay d.chronicle l)
  due : Entry.DueAll orderly l d.chronicle
  lawful : ∀ e ∈ d.chronicle, e.Lawful d.log

/-- To begin with, the chronicle is empty and the log is the one that was found. -/
theorem chronicled_start (config : ConsumerConfig) (workers : Nat) {w : World}
    (sound : w.log.WellFormed) : Chronicled orderly w.log (start config workers w []) := by
  have created : ∀ e ∈ (start config workers w []).chronicle, ∃ topic, e = .created topic 1 := by
    intro e there
    obtain ⟨topic, _, rfl⟩ := List.mem_map.mp there
    exact ⟨topic, rfl⟩
  refine ⟨tracked_start config workers sound [], ?_, ?_, fun e there => ?_⟩
  · change Log.Agrees _ (Entry.replay (config.topics.map fun topic => .created topic 1) w.log)
    rw [Entry.replay, List.foldl_map]
    exact .refl _
  · refine Entry.dueAll_of_offsetless fun e there => ?_
    obtain ⟨topic, rfl⟩ := created e there
    rfl
  · obtain ⟨topic, rfl⟩ := created e there
    trivial

/-- The chronicle goes on telling the log, whatever happens. -/
theorem Chronicled.step (chronicled : d.Chronicled orderly l) (happening : Happening)
    (order : orderly → d.keepsOrder happening = true) :
    (d.step happening).Chronicled orderly l := by
  obtain ⟨entries, gains⟩ := gains_step chronicled.tracked happening
  have extended : (d.step happening).log.Extends d.log :=
    (Log.Extends.of_agrees gains.log).trans (Entry.replay_extends entries d.log)
  refine ⟨chronicled.tracked.step happening order, ?_, ?_, fun e there => ?_⟩
  · rw [gains.chronicle, Entry.replay_append]
    exact gains.log.trans (Entry.replay_agrees entries chronicled.log)
  · rw [gains.chronicle]
    exact chronicled.due.append (gains.due.agrees chronicled.log)
  · rw [gains.chronicle] at there
    rcases List.mem_append.mp there with before | new
    · exact (chronicled.lawful e before).mono extended
    · exact gains.lawful e new

/-- Whatever happens, one thing after the other, is told by the chronicle. -/
theorem Chronicled.after (chronicled : d.Chronicled orderly l) (happenings : List Happening)
    (order : orderly → d.Orderly happenings) : (d.after happenings).Chronicled orderly l := by
  induction happenings generalizing d with
  | nil => exact chronicled
  | cons happening rest ih =>
      exact ih (chronicled.step happening fun is => (order is).1) fun is => (order is).2

end Deployment

/-- A world in which all that has come into the log is known. -/
def World.founded (w : World) (history : List Entry) : World :=
  { w with
    log := { Entry.replay history .empty with stats := w.log.stats, rings := w.log.rings } }

/-- In a world whose history is known, records lie where they say. -/
theorem World.founded_wellFormed (w : World) (history : List Entry) :
    (w.founded history).log.WellFormed := by
  have same : (w.founded history).log.Agrees (Entry.replay history .empty) := ⟨rfl, rfl, rfl⟩
  exact same.wellFormed (Entry.replay_wellFormed history Log.wellFormed_empty)

end AlertRelay
