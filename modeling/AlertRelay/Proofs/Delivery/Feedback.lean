import AlertRelay.Config.Service
import AlertRelay.Proofs.Delivery.Account
import AlertRelay.Proofs.Delivery.Chronicle
import AlertRelay.Proofs.Delivery.Throttle
import AlertRelay.Proofs.Delivery.Watch
import AlertRelay.Proofs.Relay.Emission

/-!
# What a service reads of its own

A service writes results, alerts and dead letters, each kind to a topic of its settings, and reads
its input topics. Settings whose dead letters would be read are refused; for results and alerts
nothing is asked.

So whatever happens to a service, a record that it has written itself and polls is a result or an
alert, from a topic that is an input topic, and never a dead letter
(`Deployment.topic_of_polled_back`). Settings that are accepted may name such a topic, and then the
service works on its own results (`Deployment.polls_own`).
-/

namespace AlertRelay

namespace ConsumerConfig

/-- Whether settings are accepted, by themselves or among all settings of a service. -/
def Accepted (c : ConsumerConfig) : Prop :=
  c.validate = .ok () ∨ ∃ s : ServiceConfig, s.validate = .ok () ∧ s.consumer = c

/-- There is nothing to complain about in accepted settings. -/
theorem Accepted.uncomplaining {c : ConsumerConfig} (accepted : c.Accepted) :
    c.complaint? = none := by
  rcases accepted with valid | ⟨s, valid, rfl⟩
  · exact complaint_of_validate valid
  · unfold ServiceConfig.validate at valid
    split at valid
    · cases valid
    · next nothing => exact (Option.or_eq_none_iff.mp (Option.or_eq_none_iff.mp nothing).2).1

/-- The dead-letter topic of settings that are accepted is not an input topic. -/
theorem Accepted.deadLetters_apart {c : ConsumerConfig} (accepted : c.Accepted) :
    c.deadLetters ∉ c.topics := by
  intro listed
  have nothing := accepted.uncomplaining
  unfold ConsumerConfig.complaint? at nothing
  simp only [if_pos (List.contains_iff_mem.mpr listed)] at nothing
  repeat' split at nothing
  all_goals cases nothing

end ConsumerConfig

/-! ## What workers write -/

/-- The topics that relay work writes to. -/
def RelaySettings.targets (s : RelaySettings) : List String :=
  [s.outputTopic, s.alertsTopic, s.deadLetterTopic]

/-- The service writes to its three topics and to no other. -/
theorem RelaySettings.mem_targets {s : RelaySettings} {topic : String} : topic ∈ s.targets ↔
    topic = s.outputTopic ∨ topic = s.alertsTopic ∨ topic = s.deadLetterTopic := by
  simp only [RelaySettings.targets, List.mem_cons, List.not_mem_nil, or_false]

/-- A dead letter goes to a topic that the service writes to. -/
theorem DeadLetter.targets (letter : DeadLetter) (s : RelaySettings) (millis : Int) :
    (letter.message s.deadLetterTopic millis).topic ∈ s.targets :=
  RelaySettings.mem_targets.mpr (.inr (.inr (letter.message_topic s.deadLetterTopic millis)))

/-- Whatever is committed for a record goes to topics that the service writes to. -/
theorem Record.Upshot.targets {s : RelaySettings} {r : Record}
    {transcript : List (Exchange Interface.relay)} {messages : List Message}
    (upshot : r.Upshot s transcript messages) : ∀ m ∈ messages, m.topic ∈ s.targets := by
  intro m among
  cases upshot with
  | result raw e alertId inserted decoded enriched published =>
      cases List.mem_singleton.mp among
      exact RelaySettings.mem_targets.mpr (.inl rfl)
  | setAside reason millis =>
      cases List.mem_singleton.mp among
      exact DeadLetter.targets ..
  | quarantined => cases among

namespace Entry

/-- Whether a worker has made something visible. -/
def isPosted : Entry → Bool
  | posted _ _ _ _ _ => true
  | _ => false

/-- Whether what a worker has made visible was written with some settings. -/
def WrittenWith (s : RelaySettings) : Entry → Prop
  | posted _ used _ _ _ => used = s
  | _ => True

/-- Whether a record comes into a log with an entry. -/
def Brings (e : Entry) (l : Log) (r : Record) : Prop := r.LiesIn (e.apply l) ∧ ¬r.LiesIn l

instance (e : Entry) (l : Log) (r : Record) : Decidable (e.Brings l r) :=
  inferInstanceAs (Decidable (_ = some r ∧ ¬_ = some r))

variable {e : Entry} {l : Log} {s : RelaySettings} {r : Record}

/-- What no worker has made visible is not written by the service. -/
theorem writtenWith_of_not_posted (other : e.isPosted = false) : e.WrittenWith s := by
  cases e with
  | posted worker used source transcript p => cases other
  | published m partition | created topic count => trivial

/-- Workers write to the topics of their settings. -/
theorem Lawful.targets {worker : Nat} {transcript : List (Exchange Interface.relay)} {p : Posting}
    (lawful : (posted worker s r transcript p).Lawful l) :
    ∀ m ∈ p.messages, m.topic ∈ s.targets := by
  cases p with
  | transaction lane t =>
      cases lane with
      | results => exact lawful.2.messages.targets
      | alerts =>
          intro m among
          obtain ⟨key, payload, rfl⟩ := lawful.messages m among
          exact RelaySettings.mem_targets.mpr (.inr (.inl rfl))
  | letter stray =>
      intro m among
      cases List.mem_singleton.mp among
      obtain ⟨key, value, reason, millis, rfl⟩ := lawful
      exact DeadLetter.targets ..

/-- A record that a worker has written is in a topic of the settings it was written with. -/
theorem Lawful.topic_of_brings {later : Log} (lawful : e.Lawful later) (written : e.WrittenWith s)
    (mine : e.isPosted = true) (brings : e.Brings l r) : r.topic ∈ s.targets := by
  cases e with
  | posted worker used source transcript p =>
      cases written
      by_contra apart
      refine brings.2 ?_
      have other : ∀ m ∈ p.messages, m.topic ≠ r.topicPartition.topic := by
        intro m among same
        exact apart (same.subst (motive := (· ∈ s.targets)) (lawful.targets m among))
      exact (p.record?_post_other l other r.offset).symm.trans brings.1
  | published m partition | created topic count => cases mine

end Entry

/-- A step of a worker writes with the settings of its unit. -/
theorem WorkerStage.written_entries (id : Nat) (s : RelaySettings) (w : World) (v : UnitView)
    (stage : WorkerStage Interface.relay) : ∀ e ∈ stage.entries id s w v, e.WrittenWith s := by
  intro e among
  unfold WorkerStage.entries at among
  split at among
  · obtain ⟨p, _, rfl⟩ := Option.map_eq_some_iff.mp (Option.mem_toList.mp among)
    rfl
  · cases among

/-! ## What the source reads -/

theorem Fetched.eq_record {answer : Fetched} {r : Record} (brings : answer.record? = some r) :
    answer = .record r := by
  cases answer with
  | record found =>
      cases brings
      rfl
  | _ => cases brings

/-- A record that is polled is what the source has answered with. -/
theorem ConsumerRun.Shift.polled {I : Interface} {ω : Type} {c : Consumer I ω}
    {run later : ConsumerRun I ω} {ns : List LoopNotice} (shift : Shift c run ns later) {r : Record}
    (polled : r ∈ (ns.map .loop).filterMap Notice.polled?) :
    (c.source.fetch run.shared.outside).1 = .record r := by
  cases shift with
  | fetch polls =>
      obtain ⟨n, among, brings⟩ := List.mem_filterMap.mp polled
      cases List.mem_singleton.mp among
      exact Fetched.eq_record brings
  | _ => simp [Notice.polled?] at polled

/-- The loop reads the partitions that it has read before. -/
theorem ConsumerRun.Turns.assignment {m : Move} {run later : ConsumerRun Interface.relay Site}
    (turns : Turns m run later) :
    later.site.subscription.assignment = run.site.subscription.assignment := by
  cases turns with
  | quiet workers site carried closed abandoning =>
      exact congrArg (List.map Prod.fst) site.positions
  | fetch rings loops polls same =>
      subst same
      exact (run.site.subscription.steady_poll run.site.world.log).assignment
  | send x k sends present active same =>
      subst same
      rfl
  | refuse x sends absent same | abandon free closed same =>
      subst same
      rfl

/-- Whether a consumer that is started again has the same settings. -/
def Happening.Keeps (config : ConsumerConfig) : Happening → Prop
  | restart again _ _ => again = config
  | _ => True

namespace Deployment

/-- The records that the source hands out while several things happen, one after the other. -/
def polls (d : Deployment) (happenings : List Happening) : List Record :=
  (d.trace happenings).filterMap Notice.polled?

/-- Whether the service has written a record itself: it has come into the log, which was `l` when
the service was first started, with something that a worker made visible. -/
def HasWritten (d : Deployment) (l : Log) (r : Record) : Prop :=
  ∃ index : Fin d.chronicle.length, d.chronicle[index].isPosted = true ∧
    d.chronicle[index].Brings (Entry.replay (d.chronicle.take index) l) r

instance (d : Deployment) (l : Log) (r : Record) : Decidable (d.HasWritten l r) :=
  inferInstanceAs (Decidable (∃ _ : Fin d.chronicle.length, _ ∧ _))

variable {d : Deployment} {config : ConsumerConfig}

/-- What is polled lies in an assigned partition. -/
theorem polled_assigned {happening : Happening} {r : Record}
    (polled : r ∈ (d.seen happening).filterMap Notice.polled?) :
    ∃ tp ∈ d.site.subscription.assignment, ∃ offset, d.log.record? tp offset = some r := by
  cases happening with
  | move m =>
      cases step : d.run.step? d.consumer m with
      | none =>
          rw [seen_of_none step] at polled
          cases polled
      | some later =>
          rw [seen_of_some step] at polled
          rcases ConsumerRun.step_cases step with ⟨id, _, _, _, _, _, _, _, _, noticed, _⟩ |
            ⟨ns, noticed, shift⟩
          · rw [noticed, Notice.filterMap_polled_worker] at polled
            cases polled
          · rw [noticed] at polled
            have brings : (Site.source.fetch d.site).1 = .record r := shift.polled polled
            rcases d.site.fetch_cases with ⟨nothing, _⟩ | ⟨tp, offset, found, _, serves, lies, same⟩
            · exact (nothing r brings).elim
            · rw [same] at brings
              cases brings
              exact ⟨tp, List.mem_map_of_mem serves.there, offset, lies⟩
  | _ => cases polled

/-- Whether a deployment has some settings, reads topics of these settings only, and has written
with them whatever it has written. -/
structure Keeping (config : ConsumerConfig) (d : Deployment) : Prop where
  settings : d.config = config
  assigned : ∀ tp ∈ d.site.subscription.assignment, tp.topic ∈ config.topics
  written : ∀ e ∈ d.chronicle, e.WrittenWith (.ofConsumer config)

/-- A consumer that begins has its settings and reads their topics only. -/
theorem keeping_start (config : ConsumerConfig) (workers : Nat) (w : World) {chronicle : List Entry}
    (written : ∀ e ∈ chronicle, e.WrittenWith (.ofConsumer config)) :
    (start config workers w chronicle).Keeping config where
  settings := rfl
  assigned tp among := by
    obtain ⟨entry, there, rfl⟩ := List.mem_map.mp among
    exact Subscription.within_join w.log config.groupId config.topics entry there
  written e among := by
    rcases List.mem_append.mp among with before | created
    · exact written e before
    · obtain ⟨topic, _, rfl⟩ := List.mem_map.mp created
      exact Entry.writtenWith_of_not_posted rfl

/-- What leaves settings and assigned partitions as they were, and adds to the chronicle nothing
that was written with other settings. -/
theorem Keeping.around {later : Deployment} {more : List Entry} (keeping : d.Keeping config)
    (same : later.config = d.config)
    (assignment : later.site.subscription.assignment = d.site.subscription.assignment)
    (chronicle : later.chronicle = d.chronicle ++ more)
    (written : ∀ e ∈ more, e.WrittenWith (.ofConsumer config)) : later.Keeping config where
  settings := same.trans keeping.settings
  assigned := by
    rw [assignment]
    exact keeping.assigned
  written e among := by
    rw [chronicle] at among
    rcases List.mem_append.mp among with before | new
    · exact keeping.written e before
    · exact written e new

/-- Where settings, assignment and chronicle stay, a deployment keeps its settings. -/
theorem Keeping.still {later : Deployment} (keeping : d.Keeping config)
    (same : later.config = d.config)
    (assignment : later.site.subscription.assignment = d.site.subscription.assignment)
    (chronicle : later.chronicle = d.chronicle) : later.Keeping config :=
  keeping.around same assignment (chronicle.trans (List.append_nil _).symm) fun _ among => by
    cases among

/-- What comes into the log from outside is not written by the service. -/
theorem Keeping.enter {e : Entry} (keeping : d.Keeping config) (other : e.isPosted = false) :
    (d.enter e).Keeping config := by
  refine keeping.around rfl rfl rfl fun entered among => ?_
  cases List.mem_singleton.mp among
  exact Entry.writtenWith_of_not_posted other

/-- Whatever happens, a deployment keeps its settings, also when it is started again with them. -/
theorem Keeping.step (keeping : d.Keeping config) (happening : Happening)
    (keeps : happening.Keeps config) : (d.step happening).Keeping config := by
  cases happening with
  | move m =>
      cases m with
      | worker id =>
          change (d.stepWorker id).Keeping config
          rcases d.stepWorker_cases id with same | ⟨k, _, after, _, step, same⟩
          · rw [same]
            exact keeping
          · rw [same]
            refine keeping.around rfl (Worker.step_relieves step).2.assignment rfl ?_
            rw [← keeping.settings]
            exact k.stage.written_entries id d.settings d.site.world (d.units id)
      | loop | cancel | timeout | stop =>
          simp only [Deployment.step, Deployment.move]
          split
          · next later step =>
            have turns := ConsumerRun.step_turns (fun id same => by cases same) step
            exact keeping.still rfl turns.assignment rfl
          · exact keeping
  | disturb x => exact keeping.still rfl rfl rfl
  | publish m partition | createTopic topic count => exact keeping.enter rfl
  | rebalance | resetPositions =>
      exact keeping.still rfl (d.site.subscription.assignment_resetPositions d.log) rfl
  | bumpGeneration => exact keeping.still rfl rfl rfl
  | restart again workers w =>
      cases keeps
      exact keeping_start config workers { w with log := d.log } keeping.written

/-- From whatever log a service begins, and whatever happens to it while its settings stay the same:
what it polls is from its input topics, and what it has written is in topics that it writes to. -/
theorem keeping_polls {w : World} (sound : w.log.WellFormed) (workers : Nat)
    (happenings : List Happening) (keeps : ∀ happening ∈ happenings, happening.Keeps config) :
    ((start config workers w []).after happenings).Keeping config ∧
      ((start config workers w []).after happenings).Chronicled False w.log ∧
      ∀ r ∈ (start config workers w []).polls happenings, r.topic ∈ config.topics := by
  refine trace_induction (P := fun d t => d.Keeping config ∧ d.Chronicled False w.log ∧
    ∀ r ∈ t.filterMap Notice.polled?, r.topic ∈ config.topics) happenings ?_ ?_
  · have nothing : ∀ e ∈ ([] : List Entry), e.WrittenWith (.ofConsumer config) :=
      fun _ among => by cases among
    exact ⟨keeping_start config workers w nothing, chronicled_start config workers sound,
      fun _ polled => by cases polled⟩
  · rintro d t happening among ⟨keeping, chronicled, inputs⟩
    refine ⟨keeping.step happening (keeps happening among),
      chronicled.step happening fun order => order.elim, fun r polled => ?_⟩
    rw [List.filterMap_append] at polled
    rcases List.mem_append.mp polled with before | new
    · exact inputs r before
    · obtain ⟨tp, assigned, offset, lies⟩ := polled_assigned new
      obtain ⟨rfl, _⟩ := chronicled.tracked.sound.log.record?_place lies
      exact keeping.assigned _ assigned

/-- A service begins with settings that are accepted, from whatever log, and is started again with
the same settings if at all. A record that it has written itself and polls is from an input topic
that is its topic of results or of alerts, and is no dead letter. So it polls nothing of its own if
neither of these is an input topic. -/
theorem topic_of_polled_back {config : ConsumerConfig} (accepted : config.Accepted) {w : World}
    (sound : w.log.WellFormed) (workers : Nat) (happenings : List Happening)
    (keeps : ∀ happening ∈ happenings, happening.Keeps config) {r : Record}
    (written : ((start config workers w []).after happenings).HasWritten w.log r)
    (polled : r ∈ (start config workers w []).polls happenings) :
    r.topic ∈ config.topics ∧ r.topic ≠ config.deadLetters ∧
      (r.topic = config.outputTopic ∨ r.topic = config.alertsTopic) := by
  obtain ⟨keeping, chronicled, inputs⟩ := keeping_polls sound workers happenings keeps
  obtain ⟨index, mine, brings⟩ := written
  have there := List.getElem_mem index.isLt
  have target := (chronicled.lawful _ there).topic_of_brings (keeping.written _ there) mine brings
  have input := inputs r polled
  have unlettered : r.topic ≠ config.deadLetters := by
    intro same
    exact accepted.deadLetters_apart (same ▸ input)
  refine ⟨input, unlettered, ?_⟩
  rcases RelaySettings.mem_targets.mp target with result | alert | letter
  · exact .inl result
  · exact .inr alert
  · exact (unlettered letter).elim

/-! ## A service that reads its results -/

/-- The standard settings, but results are read as events are. -/
def selfReading : ConsumerConfig :=
  { ConsumerConfig.standard with topics := ["rau_events", "rau_events_scored"] }

/-- A world with one worker and nothing in its log. -/
def selfWorld : World :=
  .start [.new "results-0" "alerts-0" (fun _ => .ok ⟨0.0, 0.0, 0.0⟩) fun _ _ _ => .ok default]
    Uuid.mk

/-- A service with these settings in this world. -/
def selfReader : Deployment := start selfReading 1 selfWorld []

/-- An event is published, the worker deals with it, and the loop goes on to poll. -/
def oneEvent : List Happening :=
  [[.publish (.plain "rau_events" none (utf8
    "\x7b\"id\":7,\"src_ip\":\"10.1.2.3\",\"timestamp\":\"2024-05-01T12:00:00Z\"\x7d")) 0],
    .replicate 9 (.move .loop), .replicate 24 (.move (.worker 0)),
    .replicate 12 (.move .loop)].flatten

/-- The result of this event, where it lies. -/
def oneResult : Record :=
  ⟨"rau_events_scored", 0, 0, some (utf8 "7"), utf8
    "\x7b\"id\":\"7\",\"score\":0.0,\"label\":\"\",\"severity\":\"Low\",\"class\":\"\"\x7d", []⟩

/-- The service is not started again while one event is dealt with. -/
theorem oneEvent_keeps : ∀ happening ∈ oneEvent, happening.Keeps selfReading := by
  simp only [oneEvent, List.mem_flatten, List.mem_cons, List.not_mem_nil, or_false]
  rintro happening ⟨_, rfl | rfl | rfl | rfl, among⟩
  · cases List.mem_singleton.mp among
    trivial
  all_goals
    cases List.eq_of_mem_replicate among
    trivial

/-- The result of the one event is written by the service itself. -/
theorem oneResult_written : (selfReader.after oneEvent).HasWritten selfWorld.log oneResult := by
  decide +kernel

/-- The service polls the result of the one event. -/
theorem oneResult_polled : oneResult ∈ selfReader.polls oneEvent := by decide +kernel

/-- The result of the event is polled back from the topic of results, which is an input topic. -/
theorem topic_of_polled_back_result :
    selfReading.Accepted ∧ selfWorld.log.WellFormed ∧
      (∀ happening ∈ oneEvent, happening.Keeps selfReading) ∧
      (selfReader.after oneEvent).HasWritten selfWorld.log oneResult ∧
      oneResult ∈ selfReader.polls oneEvent ∧
      oneResult.topic ∈ selfReading.topics ∧ oneResult.topic ≠ selfReading.deadLetters ∧
      (oneResult.topic = selfReading.outputTopic ∨
        oneResult.topic = selfReading.alertsTopic) := by
  have accepted : selfReading.Accepted := .inl rfl
  exact ⟨accepted, Log.wellFormed_empty, oneEvent_keeps, oneResult_written, oneResult_polled,
    topic_of_polled_back accepted Log.wellFormed_empty 1 oneEvent oneEvent_keeps
      oneResult_written oneResult_polled⟩

/-- With settings that are accepted, a service polls a result that it has written itself. -/
theorem polls_own :
    selfReading.validate = .ok () ∧ (∀ happening ∈ oneEvent, happening.Keeps selfReading) ∧
      ¬∀ r, (selfReader.after oneEvent).HasWritten selfWorld.log r →
        r ∉ selfReader.polls oneEvent :=
  ⟨rfl, oneEvent_keeps, fun never => never oneResult oneResult_written oneResult_polled⟩

end Deployment

end AlertRelay
