import AlertRelay.Proofs.Delivery.Working

/-!
# How a deployment makes progress

Whatever happens to a deployment, every partition takes one step of its course
(`Deployment.course_step`), and a consumer that is started again begins a fresh one
(`Deployment.fresh_start`). Hence both invariants of courses hold throughout
(`Deployment.Tracked.step`).
-/

namespace AlertRelay

namespace Deployment

variable {d : Deployment} {orderly : Prop} {tp : TopicPartition}

/-- A step of a worker is one step of the course of every partition, or of none. -/
theorem course_stepWorker (sound : d.Sound) (id : Nat) (tp : TopicPartition) :
    Course.Next orderly (d.course tp) ((d.stepWorker id).course tp) := by
  rcases d.stepWorker_cases id with same | ⟨k, later, after, present, step, same⟩
  · rw [same]
    exact .stay
  · rw [same]
    have mine := sound.worker id k present
    obtain ⟨abandoning, generation⟩ := Worker.step_spares step
    have carried : d.run.loop.carried after.outside.subscription.generation = d.run.carried := by
      rw [generation]
      rfl
    generalize workers : d.run.workers.length = count at step mine
    have owner : tp.worker d.run.workers.length = tp.worker count := by rw [workers]
    change Course.Next orderly
      (.of d.settings.group d.site d.run.workers[tp.worker d.run.workers.length]?
        (d.units (tp.worker d.run.workers.length)) d.run.carried
        d.run.shared.shutdown.abandoning d.halfway tp)
      (.of d.settings.group after.outside
        (d.run.workers.set id later)[tp.worker (d.run.workers.set id later).length]?
        (if tp.worker (d.run.workers.set id later).length = id then
          k.stage.viewAfter id d.site.world (d.units id)
        else d.units (tp.worker (d.run.workers.set id later).length))
        (d.run.loop.carried after.outside.subscription.generation) after.shutdown.abandoning
        d.halfway tp)
    rw [List.length_set, carried, abandoning, owner]
    by_cases here : tp.worker count = id
    · obtain ⟨inside, _⟩ := List.getElem?_eq_some_iff.mp present
      rw [here, if_pos rfl, present, List.getElem?_set_self inside]
      by_cases busy : ∃ x, k.stage.delivery? = some x ∧ x.record.topicPartition = tp
      · obtain ⟨x, busy, rfl⟩ := busy
        exact Worker.step_here mine step busy
      · refine Worker.step_elsewhere mine step fun x other same => ?_
        exact busy ⟨x, other, same⟩
    · rw [if_neg here, List.getElem?_set_ne (Ne.symm here)]
      have beside : d.site.Beside d.settings.group tp after.outside := by
        refine Worker.step_beside mine step fun x busy same => ?_
        have owner := mine.owner busy
        rw [same] at owner
        exact here owner
      rw [Course.of_beside beside]
      exact .stay

/-- A poll is one step of the course of every partition. -/
theorem course_fetch {site : Site} {group : String} {worker : Option (Worker Interface.relay)}
    {v : UnitView} {abandoning : Bool} {halfway : Nat} (sound : site.world.log.WellFormed)
    (rings : Nat) (tp : TopicPartition) (whole : orderly → halfway = 0) :
    Course.Next orderly (.of group site worker v none abandoning halfway tp)
      (.of group (Site.source.fetch site).2 worker v
        ((LoopStage.ofFetched rings (Site.source.fetch site).1).carried
          (Site.source.fetch site).2.subscription.generation) abandoning halfway tp) := by
  rw [ConsumerRun.carried_ofFetched]
  rcases site.fetch_cases with ⟨nothing, calm⟩ | ⟨other, p, r, later, serves, found, same⟩
  · rw [Course.of_beside calm.beside]
    split
    · next r brought => exact (nothing r brought).elim
    · exact .stay
  · obtain ⟨rfl, rfl⟩ := sound.record?_place found
    rw [same]
    by_cases here : r.topicPartition = tp
    · subst here
      refine (Course.Next.fetch r.offset _ (Subscription.mem_positionsOf.mpr serves.there)
        serves.moved whole).of_eq ?_
      simp only [Course.of, Course.tags_append, Option.toList_some, Option.toList_none,
        Course.tags_cons_self, List.append_nil, serves.generation]
      rfl
    · have beside : site.Beside group tp { site with subscription := later } :=
        ⟨rfl, rfl, serves.kept tp (Ne.symm here), serves.generation⟩
      rw [Course.of_beside beside, Course.of_carried_other here]
      exact .stay

/-- A turn of the loop is one step of the course of every partition. -/
theorem course_turns {m : Move} {later : ConsumerRun Interface.relay Site} (sound : d.Sound)
    (turns : ConsumerRun.Turns m d.run later) (tp : TopicPartition) :
    Course.Next (d.keepsOrder (.move m) = true) (d.course tp)
      (({ d with run := later } : Deployment).course tp) := by
  cases turns with
  | quiet workers site carried closed abandoning =>
      have beside : d.site.Beside d.config.groupId tp later.shared.outside :=
        Site.Calm.beside site
      change Course.Next _ (d.course tp)
        (.of d.config.groupId later.shared.outside later.workers[tp.worker later.workers.length]?
          (d.units (tp.worker later.workers.length)) later.carried later.shared.shutdown.abandoning
          d.halfway tp)
      rw [workers, carried, abandoning, Course.of_beside beside]
      exact .stay
  | fetch rings loops polls same =>
      subst same loops
      have whole : d.keepsOrder (.move .loop) = true → d.halfway = 0 := by
        intro order
        have apart : (d.halfway == 0 || !d.run.loop.isPolling) = true := order
        rw [polls] at apart
        simpa using apart
      unfold Deployment.course
      rw [ConsumerRun.carried, (ConsumerRun.carried_of_isPolling polls _).1]
      exact course_fetch sound.log rings tp whole
  | send x k sends present active same =>
      subst same
      have carried : d.run.carried = some x := by
        rw [ConsumerRun.carried, sends]
        rfl
      change Course.Next _ (d.course tp)
        (.of d.config.groupId d.site
          (d.run.workers.set (d.run.workerOf x) { k with queue := k.queue ++ [x] })[
            tp.worker (d.run.workers.set (d.run.workerOf x) _).length]?
          (d.units (tp.worker (d.run.workers.set (d.run.workerOf x) _).length)) none
          d.run.shared.shutdown.abandoning d.halfway tp)
      unfold Deployment.course
      rw [List.length_set, carried]
      by_cases here : d.run.workerOf x = tp.worker d.run.workers.length
      · obtain ⟨inside, _⟩ := List.getElem?_eq_some_iff.mp present
        rw [← here, present, List.getElem?_set_self inside]
        refine Course.Next.stay.of_eq ?_
        simp only [Course.of, Option.elim_some, Worker.upcoming, Course.tags_append,
          Option.toList_some, Option.toList_none, List.append_assoc, List.append_nil]
        rfl
      · have apart : x.record.topicPartition ≠ tp := by
          rintro rfl
          exact here rfl
        rw [List.getElem?_set_ne here, Course.of_carried_other apart]
        exact .stay
  | refuse x sends absent same =>
      subst same
      have carried : d.run.carried = some x := by
        rw [ConsumerRun.carried, sends]
        rfl
      change Course.Next _ (d.course tp)
        (.of d.config.groupId d.site d.run.workers[tp.worker d.run.workers.length]?
          (d.units (tp.worker d.run.workers.length)) none d.run.shared.shutdown.abandoning d.halfway
          tp)
      unfold Deployment.course
      rw [carried]
      have none : d.run.workers[d.run.workerOf x]? = none := by
        cases present : d.run.workers[d.run.workerOf x]? with
        | none => rfl
        | some k =>
            have keeps := (sound.worker _ k present).keeps
            have ended := absent k present
            unfold Worker.hasEnded at ended
            split at ended
            · next at_ =>
              rw [at_, sends] at keeps
              cases keeps
            · next at_ =>
              rw [at_] at keeps
              exact keeps.elim
            · cases ended
      by_cases here : x.record.topicPartition = tp
      · subst here
        rw [show d.run.workers[x.record.topicPartition.worker d.run.workers.length]? = Option.none
          from none]
        exact .lose _ (Course.tags_subset (List.nil_subset _)) rfl
      · rw [Course.of_carried_other here]
        exact .stay
  | abandon free closed same =>
      subst same
      refine Course.Next.die.of_eq ?_
      unfold Deployment.course
      rw [free]
      change Course.of d.config.groupId d.site d.run.workers[tp.worker d.run.workers.length]?
        (d.units (tp.worker d.run.workers.length)) none true d.halfway tp = _
      simp only [Course.of, Bool.not_true, Bool.and_false]

/-! ## What happens around the consumer -/

/-- What leaves a partition as it was leaves its course so. -/
theorem course_beside {site : Site} (beside : d.site.Beside d.config.groupId tp site) :
    (d.atSite site).course tp = d.course tp := by
  change Course.of d.config.groupId site d.run.workers[tp.worker d.run.workers.length]?
    (d.units (tp.worker d.run.workers.length)) (d.run.loop.carried site.subscription.generation)
    d.run.shared.shutdown.abandoning d.halfway tp = d.course tp
  rw [Course.of_beside beside, beside.generation]
  rfl

/-- A log with the same commits leaves every partition as it was. -/
theorem beside_log {log : Log} (committed : log.committed = d.log.committed) :
    d.site.Beside d.config.groupId tp
      { d.site with world := { d.site.world with log := log } } := by
  refine ⟨?_, rfl, rfl, rfl⟩
  unfold Subscription.startOffset Log.committed?
  exact congrArg (fun table => Option.getD (Table.get? table (d.config.groupId, tp)) 0) committed

/-- The tags of a partition have the offsets of its records. -/
theorem tags_offsets (tp : TopicPartition) (deliveries : List Delivery) :
    (Course.tags tp deliveries).map Tag.offset =
      ((deliveries.map Delivery.record).filter fun r => r.topicPartition = tp).map
        Record.offset := by
  unfold Course.tags
  rw [List.filter_map, List.map_map, List.map_map]
  rfl

/-- The record that the loop carries does not depend on the assignment. -/
theorem carried_records (stage : LoopStage) (first second : Nat) :
    (stage.carried first).toList.map Delivery.record =
      (stage.carried second).toList.map Delivery.record := by
  cases stage <;> rfl

/-- A new assignment is one step of every course, even if the order of assignments is given up. -/
theorem course_scatter {site : Site} (halfway : Nat) (world : site.world.log.Agrees d.log)
    (ledger : site.world.ledger = d.site.world.ledger)
    (moved : ∀ q ∈ site.subscription.positionsOf tp,
      q = Subscription.startOffset d.log d.config.groupId tp ∨
        q ∈ d.site.subscription.positionsOf tp) (disorder : ¬orderly) :
    Course.Next orderly (d.course tp)
      (({ d.atSite site with halfway := halfway } : Deployment).course tp) := by
  have offsets : ∀ front : List Delivery,
      (Course.tags tp (front ++
        (d.run.loop.carried site.subscription.generation).toList)).map Tag.offset =
        (Course.tags tp (front ++ d.run.carried.toList)).map Tag.offset := by
    intro front
    rw [tags_offsets, tags_offsets, List.map_append, List.map_append]
    rw [carried_records d.run.loop site.subscription.generation
      d.run.site.subscription.generation]
    rfl
  refine (Course.Next.scatter _ site.subscription.generation halfway _ moved (offsets _)
    disorder).of_eq ?_
  change Course.of d.config.groupId site _ _ _ _ halfway tp = _
  unfold Course.of
  rw [world.startOffset, ledger]
  rfl

/-- Once it is tagged, what the loop carries does not depend on the assignment any more. -/
theorem carried_of_not_tagging {stage : LoopStage} (apart : stage.isTagging = false)
    (first second : Nat) : stage.carried first = stage.carried second := by
  cases stage with
  | tagging r => cases apart
  | _ => rfl

/-- Whatever happens to a consumer before it is started again is one step of every course. -/
theorem course_step (sound : d.Sound) (happening : Happening) (tp : TopicPartition)
    (lasts : ∀ config workers w, happening ≠ .restart config workers w) :
    Course.Next (d.keepsOrder happening = true) (d.course tp) ((d.step happening).course tp) := by
  have back : ∀ q ∈ (d.site.subscription.resetPositions d.log).positionsOf tp,
      q = Subscription.startOffset d.log d.config.groupId tp := by
    intro q there
    rw [← sound.group]
    exact Subscription.positionsOf_resetPositions there
  cases happening with
  | move m =>
      cases m with
      | worker id => exact course_stepWorker sound id tp
      | loop | cancel | timeout | stop =>
          simp only [Deployment.step, Deployment.move]
          split
          · next later step =>
            exact course_turns sound (ConsumerRun.step_turns (fun id same => by cases same) step) tp
          · exact .stay
  | disturb x =>
      have spares := x.apply_spares d.site.world
      refine Course.Next.stay.of_eq (course_beside ⟨?_, ?_, rfl, rfl⟩)
      · rw [spares.log]
      · rw [spares.ledger]
  | publish m partition => exact Course.Next.stay.of_eq (course_beside (beside_log rfl))
  | createTopic topic count =>
      exact Course.Next.stay.of_eq
        (course_beside (beside_log (d.log.createTopic_committed topic count)))
  | rebalance =>
      by_cases order : d.keepsOrder .rebalance = true
      · refine (Course.Next.reset _ (d.site.subscription.generation + 1) d.halfway back).of_eq ?_
        change Course.of d.config.groupId _ _ _ (d.run.loop.carried _) _ d.halfway tp = _
        rw [carried_of_not_tagging (Bool.not_eq_eq_eq_not.mp order) _
          d.site.subscription.generation]
        rfl
      · exact course_scatter d.halfway d.log.ring_agrees rfl (fun q there => .inl (back q there))
          order
  | resetPositions =>
      exact Course.Next.reset _ d.site.subscription.generation (d.halfway + 1) back
  | bumpGeneration =>
      by_cases order : d.keepsOrder .bumpGeneration = true
      · obtain ⟨begun, apart⟩ := Bool.and_eq_true_iff.mp order
        refine (Course.Next.renew (of_decide_eq_true begun)).of_eq ?_
        change Course.of d.config.groupId _ _ _ (d.run.loop.carried _) _ (d.halfway - 1) tp = _
        rw [carried_of_not_tagging (Bool.not_eq_eq_eq_not.mp apart) _
          d.site.subscription.generation]
        rfl
      · exact course_scatter (d.halfway - 1) d.log.ring_agrees rfl (fun q there => .inr there) order
  | restart config workers w => exact (lasts config workers w rfl).elim

/-- A consumer that begins is at the beginning of every course. -/
theorem fresh_start (config : ConsumerConfig) (workers : Nat) (w : World)
    (chronicle : List Entry) (tp : TopicPartition) :
    ((start config workers w chronicle).course tp).Fresh := by
  have blank : ∀ worker : Option (Worker Interface.relay),
      (∀ k, worker = some k → k = .new) →
        worker.elim [] Worker.upcoming = [] ∧
          ∀ v : UnitView, (worker.bind fun k => k.stage.holding v) = none := by
    intro worker new
    cases worker with
    | none => exact ⟨rfl, fun _ => rfl⟩
    | some k =>
        cases new k rfl
        exact ⟨rfl, fun _ => rfl⟩
  have new : ∀ (i : Nat) (k : Worker Interface.relay),
      (start config workers w chronicle).run.workers[i]? = some k → k = .new := by
    intro i k present
    obtain ⟨_, _, rfl⟩ := List.mem_map.mp (List.mem_of_getElem? present)
    rfl
  refine ⟨rfl, fun p there => Subscription.positionsOf_join there, rfl, ?_, ?_⟩
  · change Course.tags tp (Option.elim _ [] Worker.upcoming ++ []) = []
    rw [(blank _ (new _)).1]
    rfl
  · change Course.held tp (Option.bind _ _) = none
    rw [(blank _ (new _)).2]
    rfl

/-! ## What holds throughout -/

/-- Whether a deployment is sound and every course keeps its floor and, if assignments were changed
in order, leaves no gap. -/
structure Tracked (orderly : Prop) (d : Deployment) : Prop where
  sound : d.Sound
  floor : ∀ tp, (d.course tp).Floor
  withdrawn : orderly → ∀ tp, (d.course tp).Withdrawn
  linked : orderly → ∀ tp, (d.course tp).Linked

/-- A consumer that begins keeps the floor of every partition and leaves no gap. -/
theorem tracked_start (config : ConsumerConfig) (workers : Nat) {w : World}
    (sound : w.log.WellFormed) (chronicle : List Entry) :
    (start config workers w chronicle).Tracked orderly where
  sound := sound_start config workers sound chronicle
  floor tp := (fresh_start config workers w chronicle tp).floor
  withdrawn _ tp := (fresh_start config workers w chronicle tp).withdrawn
  linked _ tp := (fresh_start config workers w chronicle tp).linked

/-- Whatever happens, the invariants of courses hold. -/
theorem Tracked.step (tracked : d.Tracked orderly) (happening : Happening)
    (order : orderly → d.keepsOrder happening = true) : (d.step happening).Tracked orderly := by
  by_cases again : ∃ config workers w, happening = .restart config workers w
  · obtain ⟨config, workers, w, rfl⟩ := again
    have found : ({ w with log := d.log } : World).log.WellFormed := tracked.sound.log
    exact tracked_start config workers found d.chronicle
  · have next := fun tp => course_step tracked.sound happening tp fun config workers w same =>
      again ⟨config, workers, w, same⟩
    exact ⟨tracked.sound.step happening, fun tp => (next tp).floor (tracked.floor tp),
      fun is tp => (next tp).withdrawn (order is) (tracked.floor tp) (tracked.linked is tp)
        (tracked.withdrawn is tp),
      fun is tp => (next tp).linked (order is) (tracked.floor tp) (tracked.withdrawn is tp)
        (tracked.linked is tp)⟩

end Deployment

end AlertRelay
