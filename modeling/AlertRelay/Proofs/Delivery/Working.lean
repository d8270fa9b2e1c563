import AlertRelay.Proofs.Delivery.Tracking

/-!
# What workers do to a course

A step of a worker is one step of the course of every partition: of the one whose record it is busy
with (`Worker.step_here`), and of any other (`Worker.step_elsewhere`).
-/

namespace AlertRelay

namespace Worker

variable {config : ConsumerConfig} {s : RelaySettings} {workers : Nat} {closed : Bool} {id : Nat}
  {shared after : Shared Site} {v : UnitView} {k later : Worker Interface.relay}
  {tp : TopicPartition}

/-- To end a unit does not take a shutdown back. -/
theorem endUnit_abandoning (s : Shutdown) : s.endUnit.abandoning = s.abandoning := by
  unfold Shutdown.endUnit
  dsimp only
  split <;> rfl

/-- A step of a worker neither begins a shutdown nor changes the assignment. -/
theorem step_spares
    (step : k.step? (Site.consumer config workers) id (Site.handler s) closed shared =
      some (later, after)) :
    after.shutdown.abandoning = shared.shutdown.abandoning ∧
      after.outside.subscription.generation = shared.outside.subscription.generation := by
  obtain ⟨stage, queue, redeliveries, failed⟩ := k
  cases stage with
  | idle =>
      cases queue with
      | cons d rest =>
          cases step
          exact ⟨rfl, rfl⟩
      | nil =>
          simp only [Worker.step?] at step
          split at step
          · cases step
            exact ⟨rfl, rfl⟩
          · cases step
  | handling d work | settingAside d _ work =>
      cases work with
      | crash =>
          cases step
          exact ⟨endUnit_abandoning shared.shutdown, rfl⟩
      | _ =>
          cases step
          exact ⟨rfl, rfl⟩
  | rewinding d | failing d cause =>
      cases step
      exact ⟨rfl, (shared.outside.seek_cases d.record.topicPartition d.record.offset).2.2.1⟩
  | leaving d =>
      cases step
      exact ⟨endUnit_abandoning shared.shutdown, rfl⟩
  | showing count =>
      simp only [Worker.step?, Option.some.injEq, Prod.mk.injEq] at step
      obtain ⟨rfl, rfl⟩ := step
      obtain ⟨traffic, same⟩ := shared.showInFlight_eq count
      rw [same]
      exact ⟨rfl, rfl⟩
  | exited | crashed => cases step
  | _ =>
      cases step
      exact ⟨rfl, rfl⟩

/-- To accept a delivery leaves what is awaited in other partitions alone. -/
theorem accept_awaiting_other {redeliveries : Redeliveries} {d : Delivery}
    (elsewhere : d.record.topicPartition ≠ tp) :
    (redeliveries.accept d).2.awaiting.get? tp = redeliveries.awaiting.get? tp := by
  unfold Redeliveries.accept
  split
  · split
    · rfl
    · rw [Table.get?_erase, if_neg elsewhere]
  · rfl

/-- A step of a worker leaves the partitions alone that its delivery is not of. -/
theorem step_beside (sound : k.Sound s workers closed id shared.outside.world v)
    (step : k.step? (Site.consumer config workers) id (Site.handler s) closed shared =
      some (later, after))
    (elsewhere : ∀ d, k.stage.delivery? = some d → d.record.topicPartition ≠ tp) :
    shared.outside.Beside s.group tp after.outside := by
  obtain ⟨stage, queue, redeliveries, failed⟩ := k
  have still := Site.Beside.refl s.group tp shared.outside
  cases stage with
  | handling d work | settingAside d _ work =>
      obtain ⟨reads, obeys⟩ := sound.keeps
      cases work with
      | call request next =>
          cases step
          exact Site.beside_reply obeys.1 reads (elsewhere d rfl)
      | _ =>
          cases step
          exact still
  | rewinding d | failing d cause =>
      cases step
      exact Site.beside_seek (Ne.symm (elsewhere d rfl)) d.record.offset
  | taken d | admitted d =>
      cases step
      exact still
  | _ =>
      rw [(step_free (s := s) rfl step).1]
      exact still

/-- The end of a delivery is nothing to the course of another partition. -/
theorem concluded_elsewhere {orderly : Prop} {group : String} {site next : Site} {view : UnitView}
    {carried : Option Delivery} {abandoning : Bool} {halfway : Nat} {d : Delivery}
    (outcome : Except RelayError Outcome) (beside : site.Beside group tp next)
    (upcoming : k.upcoming = k.queue) (alive : k.alive = !k.failed)
    (nothing : Course.held tp (k.stage.holding v) = none)
    (apart : d.record.topicPartition ≠ tp) :
    Course.Next orderly (.of group site (some k) v carried abandoning halfway tp)
      (.of group next (some (concluded (Site.consumer config workers) (Site.handler s) k d outcome))
        view carried abandoning halfway tp) := by
  have none : ∀ standing, Course.held tp (some (d, standing)) = none :=
    fun _ => Course.held_other apart
  have coming : ∀ {rest}, rest = k.queue → Course.tags tp rest = Course.tags tp k.upcoming := by
    rintro rest rfl
    rw [upcoming]
  cases outcome with
  | ok done =>
      cases done with
      | failed =>
          unfold Worker.concluded
          dsimp only
          split
          · exact Course.next_of_same beside (coming rfl) ((none _).trans nothing.symm) rfl
              (.inl alive.symm)
          · exact Course.next_of_same beside (coming rfl) ((none _).trans nothing.symm) rfl
              (.inl alive.symm)
      | processed | deadLettered =>
          exact Course.next_of_same beside (coming rfl) nothing.symm rfl (.inl alive.symm)
  | error e =>
      cases e with
      | offset detail =>
          exact Course.next_of_same beside (coming rfl) nothing.symm rfl (.inl alive.symm)
      | _ =>
          exact Course.next_of_same beside (coming rfl) ((none _).trans nothing.symm) rfl
            (.inl alive.symm)

/-- A step of a worker for a partition that it is not busy with. -/
theorem step_elsewhere {orderly : Prop} {carried : Option Delivery} {abandoning : Bool}
    {halfway : Nat}
    (sound : k.Sound s workers closed id shared.outside.world v)
    (step : k.step? (Site.consumer config workers) id (Site.handler s) closed shared =
      some (later, after))
    (elsewhere : ∀ d, k.stage.delivery? = some d → d.record.topicPartition ≠ tp) :
    Course.Next orderly (.of s.group shared.outside (some k) v carried abandoning halfway tp)
      (.of s.group after.outside (some later)
        (k.stage.viewAfter id shared.outside.world v) carried abandoning halfway tp) := by
  have beside := step_beside sound step elsewhere
  obtain ⟨stage, queue, redeliveries, failed⟩ := k
  have none : ∀ d, stage.delivery? = some d → ∀ standing,
      Course.held tp (some (d, standing)) = none := fun d busy _ =>
    Course.held_other (elsewhere d busy)
  cases stage with
  | idle =>
      cases queue with
      | cons d rest =>
          cases step
          exact Course.next_of_same beside rfl rfl rfl (.inl rfl)
      | nil =>
          simp only [Worker.step?] at step
          split at step
          · cases step
            exact Course.next_of_same beside rfl rfl rfl (.inl rfl)
          · cases step
  | taken d =>
      cases step
      have apart := elsewhere d rfl
      have passed : Course.tags tp queue = Course.tags tp (d :: queue) :=
        (Course.tags_cons_other apart).symm
      unfold Worker.consider
      split
      · exact Course.next_of_same beside passed rfl rfl (.inl rfl)
      · refine Course.next_of_same beside ?_ ?_ (accept_awaiting_other apart) (.inl ?_)
        · dsimp only
          split
          · exact passed
          · exact passed
        · dsimp only
          split
          · exact none d rfl _
          · rfl
        · unfold Worker.alive
          dsimp only
          split <;> rfl
  | admitted d =>
      cases step
      exact Course.next_of_same beside rfl rfl rfl (.inl rfl)
  | handling d work =>
      cases work with
      | done outcome =>
          cases step
          exact concluded_elsewhere outcome beside rfl rfl (none d rfl _) (elsewhere d rfl)
      | crash => exact sound.keeps.2.elim
      | call request next | pause nanos next =>
          cases step
          exact Course.next_of_same beside rfl ((none d rfl _).trans (none d rfl _).symm) rfl
            (.inl rfl)
  | rewinding d =>
      cases step
      unfold Worker.wasRewound
      split
      · refine Course.next_of_same beside rfl (none d rfl _).symm ?_ (.inl rfl)
        unfold Redeliveries.await
        rw [Table.get?_put, if_neg (elsewhere d rfl)]
      · exact Course.next_of_same beside rfl ((none d rfl _).trans (none d rfl _).symm) rfl
          (.inl rfl)
  | settingAside d _ work =>
      cases work with
      | done result =>
          cases step
          cases result with
          | ok => exact Course.next_of_same beside rfl (none d rfl _).symm rfl (.inl rfl)
          | error cause =>
              exact Course.next_of_same beside rfl ((none d rfl _).trans (none d rfl _).symm) rfl
                (.inl rfl)
      | crash => exact sound.keeps.2.elim
      | call request next | pause nanos next =>
          cases step
          exact Course.next_of_same beside rfl ((none d rfl _).trans (none d rfl _).symm) rfl
            (.inl rfl)
  | failing d cause =>
      cases step
      exact Course.next_of_same beside rfl (none d rfl _).symm rfl (.inr rfl)
  | blaming d cause | stopping d =>
      cases step
      exact Course.next_of_same beside rfl rfl rfl (.inr rfl)
  | leaving d | finishing =>
      cases step
      exact Course.next_of_same beside rfl rfl rfl (.inl rfl)
  | showing count =>
      simp only [Worker.step?, Option.some.injEq, Prod.mk.injEq] at step
      obtain ⟨rfl, _⟩ := step
      exact Course.next_of_same beside rfl rfl rfl (.inl rfl)
  | exited | crashed => cases step

/-- The look at a delivery that was taken is a step of its course. -/
theorem consider_here {orderly : Prop} {group : String} {site : Site} {view : UnitView}
    {carried : Option Delivery} {abandoning : Bool} {halfway : Nat} {d : Delivery}
    (taken : k.stage = .taken d) :
    Course.Next orderly
      (.of group site (some k) v carried abandoning halfway d.record.topicPartition)
      (.of group site (some (k.consider d abandoning)) view carried abandoning
        halfway d.record.topicPartition) := by
  obtain ⟨stage, queue, redeliveries, failed⟩ := k
  cases taken
  have next : Course.tags d.record.topicPartition ((d :: queue) ++ carried.toList) =
      d.tag :: Course.tags d.record.topicPartition (queue ++ carried.toList) :=
    Course.tags_cons_self rfl
  unfold Worker.consider
  split
  · next ended =>
    refine .lose _ (Course.tags_subset (List.subset_cons_self d _)) ?_
    change (true && !failed && !abandoning) = false
    cases failed <;> cases abandoning <;> first | rfl | cases ended
  · next going =>
    have alive : (true && !failed && !abandoning) = true := by
      cases failed <;> cases abandoning <;> first | rfl | exact (going rfl).elim
    unfold Redeliveries.accept
    dsimp only
    cases awaits : redeliveries.awaiting.get? d.record.topicPartition with
    | none =>
        refine (Course.Next.accept d.tag _ next rfl alive fun w same => ?_).of_eq ?_
        · cases awaits.symm.trans same
        · simp only [Course.of, Option.bind_some, WorkerStage.holding, Course.held_self, awaits,
            ↓reduceIte]
          rfl
    | some w =>
        dsimp only
        split
        · next stale =>
          exact .drop d.tag _ w next rfl awaits (Rewind.makesStale_iff.mp stale)
        · next fresh =>
          refine (Course.Next.accept d.tag _ next rfl alive fun other same => ?_).of_eq ?_
          · cases awaits.symm.trans same
            exact fun outdates => fresh (Rewind.makesStale_iff.mpr outdates)
          · simp only [Course.of, Option.bind_some, WorkerStage.holding, Course.held_self,
              Table.get?_erase, ↓reduceIte]
            rfl

section Here

variable {orderly : Prop} {group : String} {site : Site} {view : UnitView}
  {carried : Option Delivery} {abandoning : Bool} {halfway : Nat} {d : Delivery}

/-- The course of a partition holds the delivery that its worker works on. -/
theorem hold_here {standing : Standing} (holding : k.stage.holding v = some (d, standing)) :
    (Course.of group site (some k) v carried abandoning halfway d.record.topicPartition).hold =
      some (d.tag, standing) := by
  simp only [Course.of, Option.bind_some, holding, Course.held_self]

/-- A delivery that is entered, again or for the first time, makes a step of its course. -/
theorem anew_here {before : Standing} {next : Worker Interface.relay}
    (holding : k.stage.holding v = some (d, before)) (whole : ∀ t, before ≠ .committed t)
    (onward : next.stage.holding view = some (d, .entered)) (upcoming : next.upcoming = k.upcoming)
    (awaiting : next.redeliveries.awaiting = k.redeliveries.awaiting)
    (alive : next.alive = k.alive) :
    Course.Next orderly
      (.of group site (some k) v carried abandoning halfway d.record.topicPartition)
      (.of group site (some next) view carried abandoning halfway d.record.topicPartition) := by
  refine (Course.Next.again d.tag before (hold_here holding) whole).of_eq ?_
  simp only [Course.of, Option.bind_some, onward, Course.held_self, Option.elim_some,
    Option.any_some, upcoming, awaiting, alive]

/-- A delivery that is refused, or committed and noted, leaves its course. -/
theorem over_here {before : Standing} {next : Worker Interface.relay}
    (holding : k.stage.holding v = some (d, before))
    (ended : before = .refused ∨ ∃ t, before = .recorded t)
    (released : next.stage.holding view = none) (upcoming : next.upcoming = k.upcoming)
    (awaiting : next.redeliveries.awaiting = k.redeliveries.awaiting)
    (alive : next.alive = k.alive) :
    Course.Next orderly
      (.of group site (some k) v carried abandoning halfway d.record.topicPartition)
      (.of group site (some next) view carried abandoning halfway d.record.topicPartition) := by
  refine (Course.Next.finish d.tag before (hold_here holding) ended).of_eq ?_
  simp only [Course.of, Option.bind_some, released, Course.held, Option.elim_some,
    Option.any_some, upcoming, awaiting, alive]

/-- The end of a delivery, however it ends, is a step of its course. -/
theorem concluded_here {outcome : Except RelayError Outcome}
    (upcoming : k.upcoming = k.queue) (active : k.alive = !k.failed)
    (holding : k.stage.holding v = some (d, v.standing))
    (finished : d.record.Finished s outcome v) (entered : view.standing = .entered) :
    Course.Next orderly
      (.of group site (some k) v carried abandoning halfway d.record.topicPartition)
      (.of group site (some (concluded (Site.consumer config workers) (Site.handler s) k d outcome))
        view carried abandoning halfway d.record.topicPartition) := by
  have admitted : ∀ {standing : Standing}, standing = .admitted →
      ∀ t, standing ≠ .committed t := by
    rintro _ rfl t same
    cases same
  cases outcome with
  | ok done =>
      cases done with
      | failed =>
          have standing := finished.failed rfl
          unfold Worker.concluded
          dsimp only
          split
          · refine anew_here holding (admitted standing) ?_ upcoming.symm rfl active.symm
            rw [← entered]
            rfl
          · refine Course.next_of_same (.refl _ _ _) ?_ ?_ rfl (.inl active.symm)
            · rw [upcoming]
              rfl
            · rw [holding, standing]
              rfl
      | processed | deadLettered =>
          obtain ⟨t, standing, _⟩ := finished.done rfl
          exact over_here holding (.inr ⟨t, standing⟩) rfl upcoming.symm rfl active.symm
  | error e =>
      rcases (finished.error e rfl).2 with ⟨standing, other⟩ | ⟨standing, detail, rfl⟩
      · cases e with
        | offset detail => exact (other detail rfl).elim
        | _ => exact anew_here holding (admitted standing) rfl upcoming.symm rfl active.symm
      · exact over_here holding (.inl standing) rfl upcoming.symm rfl active.symm

/-- A call of the work on a delivery is a step of its course. -/
theorem call_here {r : RelayCall} {next : Worker Interface.relay}
    (allowed : d.record.Allows s v r) (reads : v.Reads site.world id)
    (lies : d.record.LiesIn site.world.log) (holding : k.stage.holding v = some (d, v.standing))
    (onward : next.stage.holding view = some (d, view.standing))
    (viewed : view = v.note r (World.reply id r site.world).1)
    (upcoming : next.upcoming = k.upcoming) (redeliveries : next.redeliveries = k.redeliveries)
    (alive : next.alive = k.alive) :
    Course.Next orderly
      (.of s.group site (some k) v carried abandoning halfway d.record.topicPartition)
      (.of s.group (Site.reply id r site).2 (some next) view carried abandoning
        halfway d.record.topicPartition) := by
  have turn : d.record.Turn s site.world (Site.reply id r site).2.world v.standing
      view.standing := viewed ▸ Record.turn_reply allowed reads
  refine Course.next_of_turn turn (hold_here holding) lies.nextOffset rfl rfl ?_
  simp only [Course.of, Option.bind_some, onward, Course.held_self, Option.elim_some,
    Option.any_some, upcoming, redeliveries, alive]
  rfl

/-- A delivery whose position was sought again is a step of its course. -/
theorem rewound_here (upcoming : k.upcoming = k.queue) (alive : k.alive = !k.failed)
    (holding : k.stage.holding v = some (d, .admitted)) :
    Course.Next orderly
      (.of group site (some k) v carried abandoning halfway d.record.topicPartition)
      (.of group (Site.source.seek d.record.topicPartition d.record.offset site).2
        (some (k.wasRewound d (Site.source.seek d.record.topicPartition d.record.offset site).1))
        view carried abandoning halfway d.record.topicPartition) := by
  rw [Course.of_seek]
  obtain ⟨_, _, _, ⟨answer, moved⟩ | ⟨⟨cause, answer⟩, kept⟩⟩ :=
    site.seek_cases d.record.topicPartition d.record.offset
  · rw [answer]
    refine (Course.Next.rewind d.tag _ (hold_here holding) moved).of_eq ?_
    simp only [Course.of, Option.bind_some, Option.elim_some, Option.any_some, upcoming, alive,
      Worker.wasRewound, Redeliveries.await, Table.get?_put, ↓reduceIte]
    rfl
  · rw [answer, kept]
    have onward : (k.wasRewound d (.error cause)).stage.holding view = some (d, .entered) := rfl
    exact anew_here holding (fun _ same => by cases same) onward upcoming.symm rfl alive.symm

/-- A worker that stops with a fatal error makes a step of the course that it was in. -/
theorem failed_here {next : Worker Interface.relay}
    (holding : k.stage.holding v = some (d, .entered)) (released : next.stage.holding view = none)
    (upcoming : next.upcoming = k.upcoming) (awaiting : next.redeliveries = k.redeliveries)
    (dead : next.alive = false) :
    Course.Next orderly
      (.of group site (some k) v carried abandoning halfway d.record.topicPartition)
      (.of group (Site.source.seek d.record.topicPartition d.record.offset site).2 (some next)
        view carried abandoning halfway d.record.topicPartition) := by
  have moved : ∀ q ∈ (Site.source.seek d.record.topicPartition d.record.offset
      site).2.subscription.positionsOf d.record.topicPartition,
        q = d.tag.offset ∨ q ∈ site.subscription.positionsOf d.record.topicPartition := by
    intro q there
    obtain ⟨_, _, _, ⟨_, moved⟩ | ⟨_, kept⟩⟩ :=
      site.seek_cases d.record.topicPartition d.record.offset
    · exact .inl (moved q there)
    · rw [kept] at there
      exact .inr there
  rw [Course.of_seek]
  refine (Course.Next.fail d.tag _ (hold_here holding) moved).of_eq ?_
  simp only [Course.of, Option.bind_some, Option.elim_some, Option.any_some, upcoming, released,
    awaiting, dead, Course.held, Bool.false_and]

end Here

/-- A step of a worker for the partition of the record that it is busy with. -/
theorem step_here {orderly : Prop} {carried : Option Delivery} {halfway : Nat} {d : Delivery}
    (sound : k.Sound s workers closed id shared.outside.world v)
    (step : k.step? (Site.consumer config workers) id (Site.handler s) closed shared =
      some (later, after)) (busy : k.stage.delivery? = some d) :
    Course.Next orderly
      (.of s.group shared.outside (some k) v carried shared.shutdown.abandoning
        halfway d.record.topicPartition)
      (.of s.group after.outside (some later) (k.stage.viewAfter id shared.outside.world v) carried
        shared.shutdown.abandoning halfway d.record.topicPartition) := by
  obtain ⟨stage, queue, redeliveries, failed⟩ := k
  have still := Site.Beside.refl s.group d.record.topicPartition shared.outside
  cases stage with
  | taken x =>
      cases busy
      cases step
      exact consider_here rfl
  | admitted x =>
      cases busy
      cases step
      exact Course.next_of_same still rfl rfl rfl (.inl rfl)
  | handling x work =>
      cases busy
      obtain ⟨reads, obeys⟩ := sound.keeps
      cases work with
      | done outcome =>
          cases step
          exact concluded_here rfl rfl rfl obeys rfl
      | crash => exact obeys.elim
      | call request next =>
          cases step
          exact call_here obeys.1 reads (sound.lies _ List.mem_cons_self) rfl rfl rfl rfl rfl rfl
      | pause nanos next =>
          cases step
          exact Course.next_of_same still rfl rfl rfl (.inl rfl)
  | rewinding x =>
      cases busy
      cases step
      exact rewound_here rfl rfl rfl
  | settingAside x _ work =>
      cases busy
      obtain ⟨reads, obeys⟩ := sound.keeps
      cases work with
      | done result =>
          cases step
          have finished : d.record.Finished s (result.map fun _ => .deadLettered) v := obeys
          cases result with
          | ok =>
              obtain ⟨t, standing, _⟩ := finished.done rfl
              exact over_here rfl (.inr ⟨t, standing⟩) rfl rfl rfl rfl
          | error e =>
              refine anew_here rfl ?_ rfl rfl rfl rfl
              rcases (finished.error e rfl).2 with ⟨standing, _⟩ | ⟨standing, _⟩
              · exact fun t same => by cases standing.symm.trans same
              · exact fun t same => by cases standing.symm.trans same
      | crash => exact obeys.elim
      | call request next =>
          cases step
          exact call_here obeys.1 reads (sound.lies _ List.mem_cons_self) rfl rfl rfl rfl rfl rfl
      | pause nanos next =>
          cases step
          exact Course.next_of_same still rfl rfl rfl (.inl rfl)
  | failing x cause =>
      cases busy
      cases step
      exact failed_here rfl rfl rfl rfl rfl
  | _ => cases busy

end Worker

end AlertRelay
