import AlertRelay.Proofs.Delivery.Deployment
import AlertRelay.Proofs.Delivery.Turns
import AlertRelay.Proofs.Relay.Handling

/-!
# Sound deployments

Whatever happens, every delivery lies in the log where it says and is with the worker that its
partition belongs to, no worker crashes, none leaves before the queues are closed, and every worker
keeps to the discipline of its unit (`Deployment.Sound`).
-/

namespace AlertRelay

/-- Whether a record lies in a log where it says. -/
def Record.LiesIn (r : Record) (l : Log) : Prop := l.record? r.topicPartition r.offset = some r

/-- No record of a log lies at the last of the offsets, so the one behind it is one higher. -/
theorem Record.LiesIn.nextOffset {r : Record} {l : Log} (lies : r.LiesIn l) :
    r.nextOffset = r.offset + 1 :=
  Record.nextOffset_of_lt (Log.record?_eq_some.mp lies).2.1.2

/-- What a step leaves of a site: records stay where they are, and the transactions of all workers
but the one that is busy are as they were. -/
structure Site.Grows (busy : Option Nat) (before after : Site) : Prop where
  group : after.subscription.group = before.subscription.group
  wellFormed : before.world.log.WellFormed → after.world.log.WellFormed
  records : after.world.log.Extends before.world.log
  transaction : ∀ i, busy ≠ some i → ∀ lane,
    after.world.transaction? i lane = before.world.transaction? i lane

namespace Site

variable {busy : Option Nat} {s : Site}

theorem Grows.refl (busy : Option Nat) (s : Site) : s.Grows busy s :=
  ⟨rfl, id, .refl _, fun _ _ _ => rfl⟩

/-- A calm step leaves records and transactions as they were. -/
theorem Calm.grows {after : Site} (calm : s.Calm after) : s.Grows busy after :=
  ⟨calm.group, calm.log.wellFormed, .of_agrees calm.log, fun i _ lane => calm.transaction i lane⟩

/-- A step of the subscription leaves records and transactions as they were. -/
theorem grows_put {subscription : Subscription} {log : Log}
    (group : subscription.group = s.subscription.group) (same : log.Agrees s.world.log) :
    s.Grows busy (s.put subscription log) :=
  ⟨group, same.wellFormed, .of_agrees same, fun _ _ _ => rfl⟩

/-- A seek leaves records and transactions as they were. -/
theorem grows_seek (busy : Option Nat) (s : Site) (tp : TopicPartition) (offset : Int) :
    s.Grows busy (source.seek tp offset s).2 := by
  have same : (source.seek tp offset s).2 =
      s.put (s.subscription.seek s.world.log tp offset).2.1
        (s.subscription.seek s.world.log tp offset).2.2 := rfl
  rw [same]
  unfold Subscription.seek
  split
  · exact grows_put rfl s.world.log.ring_agrees
  · exact grows_put rfl (.refl _)

/-- A call of a worker leaves the records in their places, and the transactions of the other workers
as they were. -/
theorem grows_reply (id : Nat) (request : RelayCall) (s : Site) :
    s.Grows (some id) (Site.reply id request s).2 where
  group := rfl
  wellFormed sound := (World.reply_accounts s.world id request).log.wellFormed
    (World.logAfter_wellFormed sound _)
  records := (Log.Extends.of_agrees (World.reply_accounts s.world id request).log).trans
    (World.logAfter_extends _ _)
  transaction i other lane := by
    have accounts := (World.reply_accounts s.world id request).transaction i lane
    rw [if_neg fun same => other (congrArg some same)] at accounts
    exact accounts

/-- A poll leaves records and transactions as they were. -/
theorem grows_fetch (s : Site) : s.Grows none (source.fetch s).2 := by
  rcases s.fetch_cases with ⟨_, calm⟩ | ⟨tp, offset, r, later, serves, _, same⟩
  · exact calm.grows
  · rw [same]
    exact ⟨serves.group, id, .refl _, fun _ _ _ => rfl⟩

/-- What goes wrong or passes by leaves records and transactions as they were. -/
theorem grows_spares {w : World} (spares : s.world.Spares w) :
    s.Grows none { s with world := w } where
  group := rfl
  wellFormed sound := spares.log ▸ sound
  records := spares.log ▸ .refl _
  transaction i _ lane := spares.transaction i lane

/-- What comes into the log leaves the records in their places. -/
theorem grows_entry (e : Entry) (s : Site) :
    s.Grows none { s with world := { s.world with log := e.apply s.world.log } } :=
  ⟨rfl, e.apply_wellFormed, e.apply_extends s.world.log, fun _ _ _ => rfl⟩

end Site

/-! ## Workers -/

namespace WorkerStage

/-- The delivery that a worker is busy with. -/
def delivery? : WorkerStage Interface.relay → Option Delivery
  | taken d | admitted d | handling d _ | rewinding d | settingAside d _ _ | failing d _ => some d
  | _ => none

/-- Whether the work that a worker is in keeps to the discipline of its unit. A worker leaves once
the queues are closed, and never crashes. -/
def Keeps (s : RelaySettings) (closed : Bool) (id : Nat) (w : World) (v : UnitView) :
    WorkerStage Interface.relay → Prop
  | handling d work =>
    v.Reads w id ∧ work.Obeys (d.record.unitDiscipline s) (d.record.Finished s) v
  | settingAside d _ work =>
    v.Reads w id ∧ work.Obeys (d.record.unitDiscipline s)
      (fun result after => d.record.Finished s (result.map fun _ => .deadLettered) after) v
  | exited => closed = true
  | crashed => False
  | _ => True

end WorkerStage

/-- All deliveries that a worker has still to do with. -/
def Worker.deliveries (k : Worker Interface.relay) : List Delivery :=
  k.stage.delivery?.toList ++ k.queue

/-- Whether a worker has what belongs to it and keeps to the discipline of its unit. -/
structure Worker.Sound (s : RelaySettings) (workers : Nat) (closed : Bool) (id : Nat) (w : World)
    (v : UnitView) (k : Worker Interface.relay) : Prop where
  lies : ∀ d ∈ k.deliveries, d.record.LiesIn w.log
  routed : ∀ d ∈ k.deliveries, d.record.topicPartition.worker workers = id
  keeps : k.stage.Keeps s closed id w v

namespace Worker

variable {s : RelaySettings} {workers : Nat} {closed : Bool} {id : Nat} {site after : Site}
  {v : UnitView} {k : Worker Interface.relay}

/-- A worker is busy with records of its own partitions only. -/
theorem Sound.owner {x : Delivery} (sound : k.Sound s workers closed id site.world v)
    (busy : k.stage.delivery? = some x) : x.record.topicPartition.worker workers = id :=
  sound.routed x (List.mem_append_left _ (Option.mem_toList.mpr busy))

/-- What others do leaves a worker sound. -/
theorem Sound.grows {busy : Option Nat} (sound : k.Sound s workers closed id site.world v)
    (grows : site.Grows busy after) (other : busy ≠ some id) :
    k.Sound s workers closed id after.world v where
  lies d there := grows.records _ _ _ (sound.lies d there)
  routed := sound.routed
  keeps := by
    have reads : v.Reads site.world id → v.Reads after.world id := fun reads lane =>
      (grows.transaction id other lane).trans (reads lane)
    have keeps := sound.keeps
    unfold WorkerStage.Keeps at keeps ⊢
    split at keeps
    · exact ⟨reads keeps.1, keeps.2⟩
    · exact ⟨reads keeps.1, keeps.2⟩
    · exact keeps
    · exact keeps
    · trivial

/-- A worker stays sound when the queues are closed. -/
theorem Sound.close {later : Bool} (sound : k.Sound s workers closed id site.world v)
    (closes : closed = true → later = true) : k.Sound s workers later id site.world v where
  lies := sound.lies
  routed := sound.routed
  keeps := by
    have keeps := sound.keeps
    unfold WorkerStage.Keeps at keeps ⊢
    split at keeps
    · exact keeps
    · exact keeps
    · exact closes keeps
    · exact keeps
    · trivial

/-- A worker stays sound that gets nothing new and goes on in the discipline of its unit. -/
theorem Sound.onward {later : Worker Interface.relay} {after : Site} {view : UnitView}
    (sound : k.Sound s workers closed id site.world v) (grows : site.Grows (some id) after)
    (fewer : later.deliveries ⊆ k.deliveries)
    (keeps : later.stage.Keeps s closed id after.world view) :
    later.Sound s workers closed id after.world view :=
  ⟨fun d there => grows.records _ _ _ (sound.lies d (fewer there)),
    fun d there => sound.routed d (fewer there), keeps⟩

/-- After the handler a worker keeps to the discipline of the unit that it may enter next. -/
theorem concluded_keeps {config : ConsumerConfig} {d : Delivery} {w : World}
    (outcome : Except RelayError Outcome) :
    (concluded (Site.consumer config workers) (Site.handler s) k d outcome).stage.Keeps s closed
      id w (.enter (w.transaction? id .results) (w.transaction? id .alerts) true) := by
  have enters : ∀ reason,
      (WorkerStage.settingAside d reason (d.record.deadLetter s reason)).Keeps s closed id w
        (.enter (w.transaction? id .results) (w.transaction? id .alerts) true) := by
    intro reason
    refine ⟨fun lane => ?_, d.record.deadLetter_obeys reason rfl (.inr rfl)⟩
    cases lane <;> rfl
  cases outcome with
  | ok done =>
      cases done with
      | failed =>
          unfold Worker.concluded
          dsimp only
          split
          · exact enters _
          · trivial
      | processed | deadLettered => trivial
  | error e => cases e <;> trivial

/-- After the handler a worker has no deliveries but those that it had. -/
theorem concluded_deliveries {config : ConsumerConfig} {d : Delivery}
    (outcome : Except RelayError Outcome) :
    (concluded (Site.consumer config workers) (Site.handler s) k d outcome).deliveries ⊆
      d :: k.queue := by
  have none : k.queue ⊆ d :: k.queue := List.subset_cons_self d k.queue
  cases outcome with
  | ok done =>
      cases done with
      | failed =>
          unfold Worker.concluded Worker.deliveries
          dsimp only
          split
          · exact List.Subset.refl _
          · exact List.Subset.refl _
      | processed | deadLettered => exact none
  | error e => cases e <;> first | exact none | exact List.Subset.refl _

/-- A worker that is busy with no delivery leaves the site as it is, and does not begin a unit. -/
theorem step_free {config : ConsumerConfig} {shared after : Shared Site}
    {later : Worker Interface.relay} (free : k.stage.delivery? = none)
    (step : k.step? (Site.consumer config workers) id (Site.handler s) closed shared =
      some (later, after)) :
    after.outside = shared.outside ∧ later.deliveries ⊆ k.deliveries ∧
      ∀ w view, later.stage.Keeps s closed id w view := by
  obtain ⟨stage, queue, redeliveries, failed⟩ := k
  have same : ∀ deliveries : List Delivery, deliveries ⊆ deliveries := List.Subset.refl
  cases stage with
  | idle =>
      cases queue with
      | cons d rest =>
          cases step
          exact ⟨rfl, same _, fun _ _ => trivial⟩
      | nil =>
          simp only [Worker.step?] at step
          split at step
          · next isClosed =>
            cases step
            exact ⟨rfl, same _, fun _ _ => isClosed⟩
          · cases step
  | showing count =>
      simp only [Worker.step?, Option.some.injEq, Prod.mk.injEq] at step
      obtain ⟨rfl, rfl⟩ := step
      obtain ⟨traffic, shown⟩ := shared.showInFlight_eq count
      rw [shown]
      exact ⟨rfl, same _, fun _ _ => trivial⟩
  | blaming d cause | stopping d | leaving d | finishing =>
      cases step
      exact ⟨rfl, same _, fun _ _ => trivial⟩
  | exited | crashed => cases step
  | taken d | admitted d | handling d work | rewinding d | settingAside d _ work
  | failing d cause =>
      cases free

/-- A step of a worker leaves it sound. -/
theorem step_sound {config : ConsumerConfig} {shared after : Shared Site}
    {later : Worker Interface.relay} (sound : k.Sound s workers closed id shared.outside.world v)
    (step : k.step? (Site.consumer config workers) id (Site.handler s) closed shared =
      some (later, after)) :
    shared.outside.Grows (some id) after.outside ∧
      later.Sound s workers closed id after.outside.world
        (k.stage.viewAfter id shared.outside.world v) := by
  obtain ⟨stage, queue, redeliveries, failed⟩ := k
  have still := Site.Grows.refl (some id) shared.outside
  have none : ∀ d : Delivery, queue ⊆ d :: queue := fun d => List.subset_cons_self d queue
  cases stage with
  | taken d =>
      cases step
      refine ⟨still, sound.onward still ?_ ?_⟩
      · unfold Worker.consider
        split
        · exact none d
        · dsimp only
          split
          · exact List.Subset.refl _
          · exact none d
      · unfold Worker.consider
        split
        · trivial
        · dsimp only
          split <;> trivial
  | admitted d =>
      cases step
      refine ⟨still, sound.onward still (List.Subset.refl _) ⟨fun lane => ?_, ?_⟩⟩
      · cases lane <;> rfl
      · exact d.record.handle_obeys rfl (.inr rfl)
  | handling d work =>
      obtain ⟨reads, obeys⟩ := sound.keeps
      cases work with
      | done outcome =>
          cases step
          exact ⟨still, sound.onward still (concluded_deliveries outcome)
            (concluded_keeps outcome)⟩
      | crash => exact obeys.elim
      | call request next =>
          cases step
          refine ⟨Site.grows_reply id request _, sound.onward (Site.grows_reply id request _)
            (List.Subset.refl _) ⟨reads.reply request, ?_⟩⟩
          exact obeys.2 _ _ ⟨Record.possible_reply id request _, rfl⟩
      | pause nanos next =>
          cases step
          exact ⟨still, sound.onward still (List.Subset.refl _) ⟨reads, obeys⟩⟩
  | rewinding d =>
      cases step
      have grows := Site.grows_seek (some id) shared.outside d.record.topicPartition d.record.offset
      refine ⟨grows, sound.onward grows ?_ ?_⟩
      · unfold Worker.wasRewound
        split
        · exact none d
        · exact List.Subset.refl _
      · unfold Worker.wasRewound
        split <;> trivial
  | settingAside d _ work =>
      obtain ⟨reads, obeys⟩ := sound.keeps
      cases work with
      | done result =>
          cases step
          cases result with
          | ok => exact ⟨still, sound.onward still (none d) trivial⟩
          | error cause =>
              exact ⟨still, sound.onward still (List.Subset.refl _) trivial⟩
      | crash => exact obeys.elim
      | call request next =>
          cases step
          refine ⟨Site.grows_reply id request _, sound.onward (Site.grows_reply id request _)
            (List.Subset.refl _) ⟨reads.reply request, ?_⟩⟩
          exact obeys.2 _ _ ⟨Record.possible_reply id request _, rfl⟩
      | pause nanos next =>
          cases step
          exact ⟨still, sound.onward still (List.Subset.refl _) ⟨reads, obeys⟩⟩
  | failing d cause =>
      cases step
      have grows := Site.grows_seek (some id) shared.outside d.record.topicPartition d.record.offset
      exact ⟨grows, sound.onward grows (none d) trivial⟩
  | _ =>
      obtain ⟨same, fewer, keeps⟩ := step_free (s := s) rfl step
      rw [same]
      exact ⟨still, sound.onward still fewer (keeps _ _)⟩

end Worker

/-! ## Deployments -/

namespace Deployment

/-- Whether all that is on its way lies in the log and is with the worker it belongs to, and every
worker keeps to the discipline of its unit. -/
structure Sound (d : Deployment) : Prop where
  group : d.site.subscription.group = d.config.groupId
  log : d.log.WellFormed
  worker : ∀ (id : Nat) (k : Worker Interface.relay), d.run.workers[id]? = some k →
    k.Sound d.settings d.run.workers.length d.run.loop.queuesClosed id d.site.world (d.units id)
  carried : ∀ x, d.run.carried = some x → x.record.LiesIn d.log

variable {d : Deployment}

/-- What nobody reads does not matter. -/
theorem Sound.noted (sound : d.Sound) (halfway : Nat) (chronicle : List Entry) :
    ({ d with halfway := halfway, chronicle := chronicle } : Deployment).Sound :=
  ⟨sound.group, sound.log, sound.worker, sound.carried⟩

/-- The record that the loop has in hand is the same under every assignment. -/
theorem carried_record {stage : LoopStage} {generation : Nat} {x : Delivery}
    (carries : stage.carried generation = some x) (other : Nat) :
    ∃ y, stage.carried other = some y ∧ y.record = x.record := by
  cases stage with
  | tagging r =>
      cases carries
      exact ⟨⟨r, other⟩, rfl, rfl⟩
  | measuring y | enqueuing y | showing y count | sending y => exact ⟨x, carries, rfl⟩
  | _ => cases carries

/-- A deployment stays sound while the site grows around the workers. -/
theorem Sound.around {site : Site} (sound : d.Sound) (grows : d.site.Grows none site) :
    (d.atSite site).Sound where
  group := grows.group.trans sound.group
  log := grows.wellFormed sound.log
  worker id k present := (sound.worker id k present).grows grows fun same => by cases same
  carried x carries := by
    obtain ⟨y, before, same⟩ := carried_record carries d.site.subscription.generation
    have lies := grows.records _ _ _ (sound.carried y before)
    rw [same] at lies
    exact lies

/-- A consumer that begins is sound. -/
theorem sound_start (config : ConsumerConfig) (workers : Nat) {w : World}
    (sound : w.log.WellFormed) (chronicle : List Entry) :
    (start config workers w chronicle).Sound where
  group := rfl
  log := List.foldlRecOn (motive := Log.WellFormed) config.topics _ sound
    fun _ sound topic _ => sound.createTopic topic 1
  worker id k present := by
    obtain ⟨_, _, rfl⟩ := List.mem_map.mp (List.mem_of_getElem? present)
    exact ⟨fun _ there => (by cases there), fun _ there => (by cases there), trivial⟩
  carried x carries := by cases carries

/-- A turn of the loop leaves a deployment sound. -/
theorem Sound.turns {m : Move} {later : ConsumerRun Interface.relay Site} (sound : d.Sound)
    (turns : ConsumerRun.Turns m d.run later) : ({ d with run := later } : Deployment).Sound := by
  cases turns with
  | quiet workers site carried closed abandoning =>
      have grows : d.site.Grows none later.site := Site.Calm.grows site
      refine ⟨grows.group.trans sound.group, grows.wellFormed sound.log, fun id k present => ?_,
        fun x carries => ?_⟩
      · dsimp only at present ⊢
        rw [workers] at present ⊢
        have kept := (sound.worker id k present).grows grows fun same => by cases same
        exact kept.close closed
      · dsimp only at carries ⊢
        rw [carried] at carries
        exact grows.records _ _ _ (sound.carried x carries)
  | fetch rings loops polls same =>
      subst same
      have opened := (ConsumerRun.carried_of_isPolling polls 0).2
      have grows := Site.grows_fetch d.site
      refine ⟨grows.group.trans sound.group, sound.log, fun id k present => ?_,
        fun x carries => ?_⟩
      · have kept := (sound.worker id k present).grows grows fun same => by cases same
        exact kept.close fun closed => by rw [opened] at closed; cases closed
      · have brought := ConsumerRun.carried_ofFetched.symm.trans carries
        rcases d.site.fetch_cases with ⟨nothing, _⟩ | ⟨tp, offset, r, later, _, found, same⟩
        · split at brought
          · next r is => exact (nothing r is).elim
          · cases brought
        · rw [show d.run.site = d.site from rfl, same] at brought
          cases brought
          obtain ⟨rfl, rfl⟩ := sound.log.record?_place found
          exact grows.records _ _ _ found
  | send x k sends present active same =>
      subst same
      have carries : d.run.carried = some x := by
        rw [ConsumerRun.carried, sends]
        rfl
      have mine := sound.worker _ k present
      refine ⟨sound.group, sound.log, fun id other there => ?_, fun y carries => by cases carries⟩
      dsimp only at there ⊢
      rw [List.length_set]
      rw [List.getElem?_set] at there
      split at there
      · next here =>
        subst here
        split at there
        · cases there
          have stage : k.stage.Keeps d.settings false (d.run.workerOf x) d.site.world
              (d.units (d.run.workerOf x)) := by
            have keeps := mine.keeps
            rw [sends] at keeps
            exact keeps
          have arrived : ∀ y ∈ k.stage.delivery?.toList ++ (k.queue ++ [x]),
              y ∈ k.deliveries ∨ y = x := by
            intro y among
            rw [← List.append_assoc, List.mem_append, List.mem_singleton] at among
            exact among
          refine ⟨fun y among => ?_, fun y among => ?_, stage⟩
          · rcases arrived y among with before | rfl
            · exact mine.lies y before
            · exact sound.carried y carries
          · rcases arrived y among with before | rfl
            · exact mine.routed y before
            · rfl
        · cases there
      · refine (sound.worker id other there).close fun closed => ?_
        rw [sends] at closed
        cases closed
  | refuse x sends absent same =>
      subst same
      refine ⟨sound.group, sound.log, fun id k present => ?_, fun y carries => by cases carries⟩
      exact (sound.worker id k present).close fun closed => by rw [sends] at closed; cases closed
  | abandon free closed same =>
      subst same
      refine ⟨sound.group, sound.log, fun id k present => ?_, fun y carries => by cases carries⟩
      exact (sound.worker id k present).close fun _ => rfl

/-- A step of a worker does nothing, or it is one that the worker can make. -/
theorem stepWorker_cases (d : Deployment) (id : Nat) :
    d.stepWorker id = d ∨ ∃ k later after, d.run.workers[id]? = some k ∧
      k.step? (Site.consumer d.config d.run.workers.length) id (Site.handler d.settings)
        d.run.loop.queuesClosed d.run.shared = some (later, after) ∧
      d.stepWorker id = { d with
        run := { d.run with workers := d.run.workers.set id later, shared := after }
        units := fun i =>
          if i = id then k.stage.viewAfter id d.site.world (d.units id) else d.units i
        chronicle := d.chronicle ++ k.stage.entries id d.settings d.site.world (d.units id) } := by
  cases present : d.run.workers[id]? with
  | none =>
      refine .inl ?_
      unfold Deployment.stepWorker
      rw [present]
  | some k =>
      obtain ⟨inside, _⟩ := List.getElem?_eq_some_iff.mp present
      have handler : d.consumer.handlers[id]? = some (Site.handler d.settings) :=
        List.getElem?_replicate_of_lt inside
      unfold Deployment.stepWorker ConsumerRun.workerStep?
      rw [present, handler]
      cases stepped : k.step? d.consumer id (Site.handler d.settings) d.run.loop.queuesClosed
          d.run.shared with
      | none => exact .inl (by simp only [stepped, Option.map_none])
      | some result =>
          refine .inr ⟨k, result.1, result.2, rfl, stepped, ?_⟩
          simp only [stepped, Option.map_some]

/-- A step of a worker leaves a deployment sound. -/
theorem Sound.stepWorker (sound : d.Sound) (id : Nat) : (d.stepWorker id).Sound := by
  rcases d.stepWorker_cases id with same | ⟨k, later, after, present, step, same⟩
  · rw [same]
    exact sound
  · rw [same]
    obtain ⟨grows, made⟩ := Worker.step_sound (sound.worker id k present) step
    refine ⟨grows.group.trans sound.group, grows.wellFormed sound.log, fun i other there => ?_,
      fun x carries => ?_⟩
    · dsimp only at there ⊢
      rw [List.length_set]
      rw [List.getElem?_set] at there
      split at there
      · next here =>
        subst here
        split at there
        · cases there
          rw [if_pos rfl]
          exact made
        · cases there
      · next elsewhere =>
        rw [if_neg fun same => elsewhere same.symm]
        exact (sound.worker i other there).grows grows fun same => elsewhere (Option.some.inj same)
    · obtain ⟨y, before, same⟩ := carried_record carries d.site.subscription.generation
      have lies := grows.records _ _ _ (sound.carried y before)
      rw [same] at lies
      exact lies

/-- Whatever happens leaves the consumer sound. -/
theorem Sound.step (sound : d.Sound) (happening : Happening) : (d.step happening).Sound := by
  cases happening with
  | move m =>
      cases m with
      | worker id => exact sound.stepWorker id
      | loop | cancel | timeout | stop =>
          simp only [Deployment.step, Deployment.move]
          split
          · next later step =>
            exact sound.turns (ConsumerRun.step_turns (fun id same => by cases same) step)
          · exact sound
  | disturb x => exact sound.around (Site.grows_spares (x.apply_spares d.site.world))
  | publish m partition =>
      exact (sound.around (Site.grows_entry (.published m partition) d.site)).noted d.halfway _
  | createTopic topic count =>
      exact (sound.around (Site.grows_entry (.created topic count) d.site)).noted d.halfway _
  | rebalance => exact sound.around (Site.grows_put rfl d.log.ring_agrees)
  | resetPositions =>
      have grows : d.site.Grows none
          { d.site with subscription := d.site.subscription.resetPositions d.log } :=
        ⟨rfl, id, .refl _, fun _ _ _ => rfl⟩
      exact (sound.around grows).noted _ d.chronicle
  | bumpGeneration =>
      have grows : d.site.Grows none (d.site.put (d.site.subscription.bumpGeneration d.log).1
          (d.site.subscription.bumpGeneration d.log).2) := Site.grows_put rfl d.log.ring_agrees
      exact (sound.around grows).noted _ d.chronicle
  | restart config workers w =>
      have found : ({ w with log := d.log } : World).log.WellFormed := sound.log
      exact sound_start config workers found d.chronicle

end Deployment

end AlertRelay
