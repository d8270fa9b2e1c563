import AlertRelay.Proofs.Relay.Disturbance
import AlertRelay.Proofs.Relay.Emission
import AlertRelay.Proofs.Store.Memory
import AlertRelay.Proofs.Text.Utf8

/-!
# Rows and alerts

The store holds a row for an event exactly if the alerts topic holds a message under its key
(`Balanced`), except for the one row that is owed while an alert is being emitted. Every call of
relay work keeps that up as long as rows can be taken out (`Balanced.reply`), so it holds between
any emissions and any units of work, by any number of workers (`rows_iff_alerts`).
-/

namespace AlertRelay

/-- The topics that relay work writes to are three different ones. -/
structure RelaySettings.Apart (s : RelaySettings) : Prop where
  output : s.outputTopic ≠ s.alertsTopic
  letters : s.deadLetterTopic ≠ s.alertsTopic
  lettersOutput : s.deadLetterTopic ≠ s.outputTopic

/-- Rows and alerts belong together, and results to alerts. -/
structure Balanced (s : RelaySettings) (w : World) (v : AlertView) : Prop where
  sound : w.log.WellFormed
  rows : ∀ id, w.store.rows.contains id = true ↔
    w.log.HasKey s.alertsTopic (some (utf8 id)) ∨ v.pending = some id
  fresh : ∀ id, v.pending = some id → ¬w.log.HasKey s.alertsTopic (some (utf8 id))
  published : ∀ id ∈ v.published, w.log.HasKey s.alertsTopic (some (utf8 id))
  outputs : ∀ key, w.log.HasKey s.outputTopic key →
    ∃ id, key = some (utf8 id) ∧ w.log.HasKey s.alertsTopic (some (utf8 id))

namespace Balanced

variable {s : RelaySettings} {w after : World} {v later : AlertView} {worker : Nat}

/-- What leaves rows and log alone leaves them balanced. -/
theorem of_same (balanced : Balanced s w v) (rows : after.store.rows = w.store.rows)
    (log : after.log.Agrees w.log) (pending : later.pending = v.pending)
    (published : later.published = v.published) : Balanced s after later where
  sound := log.wellFormed balanced.sound
  rows id := by
    rw [rows, log.hasKey, pending]
    exact balanced.rows id
  fresh id owed := by
    rw [log.hasKey]
    exact balanced.fresh id (pending ▸ owed)
  published id known := by
    rw [log.hasKey]
    exact balanced.published id (published ▸ known)
  outputs key found := by
    rw [log.hasKey] at found
    obtain ⟨id, same, there⟩ := balanced.outputs key found
    exact ⟨id, same, (log.hasKey _ _).mpr there⟩

/-- The alert that is owed, or one that was published before, is published. -/
theorem post_alert (apart : s.Apart) (balanced : Balanced s w v) {t : Transaction}
    (owed : s.Owed v t) (rows : after.store.rows = w.store.rows)
    (log : after.log.Agrees ((Posting.transaction .alerts t).post w.log))
    (pending : later.pending = none)
    (published : later.published = v.pending.toList ++ v.published) :
    Balanced s after later := by
  obtain ⟨event, payload, content, owes⟩ := owed
  have keys : ∀ topic key, after.log.HasKey topic key ↔ w.log.HasKey topic key ∨
      s.alertsTopic = topic ∧ some (utf8 event) = key := by
    intro topic key
    rw [log.hasKey, Posting.post_hasKey _ balanced.sound]
    simp only [Posting.messages, content, List.mem_singleton, exists_eq_left, Message.plain]
  have grown : ∀ {key}, w.log.HasKey s.alertsTopic key → after.log.HasKey s.alertsTopic key :=
    fun there => (keys _ _).mpr (.inl there)
  have there : after.log.HasKey s.alertsTopic (some (utf8 event)) :=
    (keys _ _).mpr (.inr ⟨rfl, rfl⟩)
  refine ⟨log.wellFormed (Posting.post_wellFormed _ balanced.sound), fun id => ?_,
    fun id owed => ?_, fun id known => ?_, fun key found => ?_⟩
  · rw [rows, balanced.rows, keys, pending]
    simp only [true_and, Option.some.injEq, utf8_inj, reduceCtorEq, or_false]
    rcases owes with owed | ⟨free, known⟩
    · rw [owed, Option.some.injEq]
    · rw [free]
      simp only [reduceCtorEq, or_false, iff_self_or]
      rintro rfl
      exact balanced.published _ known
  · rw [pending] at owed
    cases owed
  · rw [published, List.mem_append] at known
    rcases known with owed | known
    · rcases owes with same | ⟨free, _⟩
      · rw [same, Option.toList_some, List.mem_singleton] at owed
        exact owed ▸ there
      · rw [free] at owed
        cases owed
    · exact grown (balanced.published id known)
  · rcases (keys _ _).mp found with found | ⟨same, _⟩
    · obtain ⟨id, same, known⟩ := balanced.outputs key found
      exact ⟨id, same, grown known⟩
    · exact (apart.output same.symm).elim

/-- What is backed by published alerts leaves rows and log balanced. -/
theorem post_backed (apart : s.Apart) (balanced : Balanced s w v) (p : Posting)
    (backed : ∀ m ∈ p.messages, s.Backed v.published m) (rows : after.store.rows = w.store.rows)
    (log : after.log.Agrees (p.post w.log)) (pending : later.pending = v.pending)
    (published : later.published = v.published) : Balanced s after later := by
  have keys : ∀ key, after.log.HasKey s.alertsTopic key ↔ w.log.HasKey s.alertsTopic key := by
    intro key
    rw [log.hasKey, Posting.post_hasKey p balanced.sound]
    constructor
    · rintro (there | ⟨m, member, topic, _⟩)
      · exact there
      · rcases backed m member with letter | ⟨output, _⟩
        · exact (apart.letters (letter.symm.trans topic)).elim
        · exact (apart.output (output.symm.trans topic)).elim
    · exact .inl
  refine ⟨log.wellFormed (p.post_wellFormed balanced.sound), fun id => ?_, fun id owed => ?_,
    fun id known => ?_, fun key found => ?_⟩
  · rw [rows, keys, pending]
    exact balanced.rows id
  · rw [keys]
    exact balanced.fresh id (pending ▸ owed)
  · rw [keys]
    exact balanced.published id (published ▸ known)
  · rw [log.hasKey, Posting.post_hasKey p balanced.sound] at found
    rcases found with found | ⟨m, member, topic, rfl⟩
    · obtain ⟨id, same, known⟩ := balanced.outputs key found
      exact ⟨id, same, (keys _).mpr known⟩
    · rcases backed m member with letter | ⟨_, id, known, same⟩
      · exact (apart.lettersOutput (letter.symm.trans topic)).elim
      · exact ⟨id, same, (keys _).mpr (balanced.published id known)⟩

/-- A row is stored while nothing is owed: it is owed now, unless its event has one. -/
theorem insert (balanced : Balanced s w v) (free : v.pending = none) {a : Alert}
    {stored : Except StoreError Bool} (tells : RelayCall.Tells w.store.rows (.insertAlert a) stored)
    (rows : after.store.rows = RelayCall.rowsAfter w.store.rows (.insertAlert a) stored)
    (log : after.log.Agrees w.log) : Balanced s after (v.note (.insertAlert a) stored) := by
  have there : ∀ id, w.store.rows.contains id = true ↔
      w.log.HasKey s.alertsTopic (some (utf8 id)) := by
    intro id
    rw [balanced.rows, free]
    simp only [reduceCtorEq, or_false]
  cases stored with
  | error cause => exact balanced.of_same rows log rfl rfl
  | ok fresh =>
      cases fresh with
      | false =>
          have same := balanced.of_same rows log rfl rfl
          refine ⟨same.sound, same.rows, same.fresh, fun id member => ?_, same.outputs⟩
          rcases List.mem_cons.mp member with rfl | member
          · exact (log.hasKey _ _).mpr ((there _).mp tells)
          · exact same.published id member
      | true =>
          have same : Balanced s { after with store := w.store } v :=
            balanced.of_same rfl log rfl rfl
          refine ⟨same.sound, fun id => ?_, fun id owed => ?_, same.published, same.outputs⟩
          · rw [rows, RelayCall.rowsAfter, Table.contains_put, there, log.hasKey]
            simp only [AlertView.note, RelayCall.pendingAfter, Option.some.injEq]
            exact or_comm
          · cases owed
            rw [log.hasKey, ← there]
            exact Bool.eq_false_iff.mp tells

/-- The row that is owed is taken out again. -/
theorem delete (balanced : Balanced s w v) {eventId : String} (owed : v.pending = some eventId)
    {deleted : Except StoreError Nat}
    (tells : RelayCall.Tells w.store.rows (.deleteAlert eventId) deleted)
    (kept : RelayCall.failsDelete (.deleteAlert eventId) deleted = false)
    (rows : after.store.rows = RelayCall.rowsAfter w.store.rows (.deleteAlert eventId) deleted)
    (log : after.log.Agrees w.log) : Balanced s after (v.note (.deleteAlert eventId) deleted) := by
  have known : w.store.rows.contains eventId = true := (balanced.rows eventId).mpr (.inr owed)
  cases deleted with
  | error cause => cases kept
  | ok count =>
      cases count with
      | zero => cases known.symm.trans tells
      | succ more =>
          have same : Balanced s { after with store := w.store } v :=
            balanced.of_same rfl log rfl rfl
          refine ⟨same.sound, fun id => ?_, fun id owes => (by cases owes), same.published,
            same.outputs⟩
          rw [rows, RelayCall.rowsAfter, Table.contains_erase, balanced.rows, owed, log.hasKey]
          simp only [AlertView.note, RelayCall.pendingAfter, Option.some.injEq, reduceCtorEq,
            or_false]
          constructor
          · rintro ⟨different, there | same⟩
            · exact there
            · exact (different same).elim
          · intro there
            refine ⟨?_, .inl there⟩
            rintro rfl
            exact balanced.fresh eventId owed there

/-- Calls that do not touch rows keep them together with the alerts. -/
theorem visible (apart : s.Apart) (balanced : Balanced s w v)
    (reads : ∀ lane, w.transaction? worker lane = v.held lane) {request : RelayCall}
    {answer : request.Reply} (allowed : s.AllowsAlerts v request)
    (accounts : w.Accounts worker request answer after) (rows : after.store.rows = w.store.rows)
    (storing : ∀ a, request ≠ .insertAlert a) (taking : ∀ id, request ≠ .deleteAlert id) :
    Balanced s after (v.note request answer) := by
  have log := accounts.log
  cases request with
  | commit lane =>
      cases answer with
      | error cause => cases lane <;> exact balanced.of_same rows log rfl rfl
      | ok =>
          cases lane with
          | alerts =>
              obtain ⟨t, held, owed⟩ := allowed
              have open_ : w.transaction? worker .alerts = some t := (reads .alerts).trans held
              simp only [World.logAfter, RelayCall.posting?, open_, Option.map_some,
                Option.elim_some] at log
              exact balanced.post_alert apart owed rows log rfl rfl
          | results =>
              obtain ⟨t, held, backed⟩ := allowed
              have open_ : w.transaction? worker .results = some t := (reads .results).trans held
              simp only [World.logAfter, RelayCall.posting?, open_, Option.map_some,
                Option.elim_some] at log
              exact balanced.post_backed apart (.transaction .results t) backed rows log rfl rfl
  | sendDeadLetter m =>
      cases answer with
      | error cause => exact balanced.of_same rows log rfl rfl
      | ok =>
          refine balanced.post_backed apart (.letter m) (fun other member => ?_) rows log rfl rfl
          rw [List.mem_singleton.mp member]
          exact .inl allowed
  | insertAlert a => exact (storing a rfl).elim
  | deleteAlert id => exact (taking id rfl).elim
  | _ => exact balanced.of_same rows log rfl rfl

/-- Every call in order keeps rows and alerts together, unless a row cannot be taken out. -/
theorem reply (apart : s.Apart) (balanced : Balanced s w v)
    (reads : ∀ lane, w.transaction? worker lane = v.held lane) {request : RelayCall}
    (allowed : s.AllowsAlerts v request)
    (kept : request.failsDelete (World.reply worker request w).1 = false) :
    Balanced s (World.reply worker request w).2
      (v.note request (World.reply worker request w).1) := by
  obtain ⟨rows, tells⟩ := World.reply_rows w worker request
  have accounts := World.reply_accounts w worker request
  cases request with
  | insertAlert a => exact balanced.insert allowed tells rows accounts.log
  | deleteAlert id => exact balanced.delete allowed tells kept rows accounts.log
  | _ =>
      exact balanced.visible apart reads allowed accounts rows (fun _ is => by cases is)
        fun _ is => by cases is

end Balanced

/-! ## Emissions and units, one after the other -/

/-- Relay work in the course of which things go wrong. -/
structure Tended where
  world : World
  /-- How many calls the running piece of work has made. -/
  calls : Nat
  /-- How many rows could not be taken out. -/
  failedDeletes : Nat

/-- A piece of relay work. Settings that are not about topics may differ from one to the next. -/
inductive Task where
  | emit (e : Enrichment)
  | handle (group : String) (retry labelerRetry : RetryPolicy) (r : Record)
  | deadLetter (group : String) (retry labelerRetry : RetryPolicy) (r : Record)
      (reason : DeadLetterReason)

/-- A piece of relay work, who does it, and what goes wrong before which of its calls. -/
structure Job where
  worker : Nat
  plan : Nat → List Disturbance
  task : Task

namespace Tended

/-- One call. -/
def reply (plan : Nat → List Disturbance) (worker : Nat) (request : RelayCall) (t : Tended) :
    request.Reply × Tended :=
  let (answer, after) := World.reply worker request (t.world.disturb (plan t.calls))
  (answer, ⟨after, t.calls + 1, t.failedDeletes + (request.failsDelete answer).toNat⟩)

/-- The world as a worker sees it while a plan is carried out. -/
def surroundings (plan : Nat → List Disturbance) (worker : Nat) :
    Surroundings Interface.relay Tended :=
  ⟨reply plan worker, fun nanos t => { t with world := t.world.wait nanos }⟩

/-- Does a piece of work to its end. -/
def perform (s : RelaySettings) (t : Tended) (j : Job) : Tended :=
  let before := { t with calls := 0 }
  match j.task with
  | .emit e => ((e.emit s).run (surroundings j.plan j.worker) before).2
  | .handle group retry labelerRetry r =>
    let s := { s with group := group, retry := retry, labelerRetry := labelerRetry }
    ((r.handle s).run (surroundings j.plan j.worker) before).2
  | .deadLetter group retry labelerRetry r reason =>
    let s := { s with group := group, retry := retry, labelerRetry := labelerRetry }
    ((r.deadLetter s reason).run (surroundings j.plan j.worker) before).2

/-- Before any work: some topics are there, without records, and there is no row. -/
def start (topics : List (String × Nat)) (workers : List WorkerClients)
    (identifier : Nat → Uuid) : Tended :=
  let log := topics.foldl (fun (l : Log) (topic : String × Nat) => l.createTopic topic.1 topic.2)
    Log.empty
  ⟨{ World.start workers identifier with log := log }, 0, 0⟩

variable {s : RelaySettings} {t : Tended} {v : AlertView}

/-- Rows and alerts are together, and nothing is owed. -/
def Even (s : RelaySettings) (t : Tended) : Prop := Balanced s t.world ⟨none, none, none, []⟩

/-- A worker's view agrees with the world. -/
structure Shows (s : RelaySettings) (worker : Nat) (t : Tended) (v : AlertView) : Prop where
  balanced : Balanced s t.world v
  reads : ∀ lane, t.world.transaction? worker lane = v.held lane

/-- What spares the world leaves a worker's view true. -/
theorem Shows.spares {worker : Nat} (shows : Shows s worker t v) {after : World}
    (spares : t.world.Spares after) : Shows s worker { t with world := after } v where
  balanced := shows.balanced.of_same spares.rows (spares.log ▸ .refl _) rfl rfl
  reads lane := (spares.transaction worker lane).trans (shows.reads lane)

/-- A worker's view stays true after a call that is in order, or a row could not be taken out. -/
theorem shows_reply (apart : s.Apart) (plan : Nat → List Disturbance) {worker : Nat}
    (shows : Shows s worker t v) {request : RelayCall} (allowed : s.AllowsAlerts v request) :
    (reply plan worker request t).2.failedDeletes ≠ 0 ∨ ∃ after,
      s.alertDiscipline.shows v request (reply plan worker request t).1 after ∧
        Shows s worker (reply plan worker request t).2 after := by
  have disturbed := shows.spares (t.world.disturb_spares (plan t.calls))
  unfold Tended.reply
  dsimp only
  generalize t.world.disturb (plan t.calls) = w at disturbed ⊢
  cases failed : request.failsDelete (World.reply worker request w).1 with
  | true =>
      refine .inl ?_
      simp only [Bool.toNat_true, ne_eq, Nat.add_one_ne_zero, not_false_eq_true]
  | false =>
      refine .inr ⟨_, ⟨failed, rfl⟩, disturbed.balanced.reply apart disturbed.reads allowed failed,
        fun lane => ?_⟩
      have accounts := (World.reply_accounts w worker request).transaction worker lane
      rw [if_pos rfl, disturbed.reads lane] at accounts
      refine accounts.trans ?_
      cases lane with
      | results => rfl
      | alerts => rfl

theorem failed_reply {plan : Nat → List Disturbance} {worker : Nat} (request : RelayCall)
    (failed : t.failedDeletes ≠ 0) : (reply plan worker request t).2.failedDeletes ≠ 0 :=
  fun none => failed (Nat.eq_zero_of_add_eq_zero_right none)

theorem failed_world (w : World) (failed : t.failedDeletes ≠ 0) :
    ({ t with world := w } : Tended).failedDeletes ≠ 0 := failed

/-- That a row could not be taken out is not forgotten. -/
theorem failed_of_run (plan : Nat → List Disturbance) (worker : Nat) {α : Type} (p : RelayProgram α)
    (failed : t.failedDeletes ≠ 0) :
    (p.run (surroundings plan worker) t).2.failedDeletes ≠ 0 := by
  refine Program.run_keeps (fun t : Tended => t.failedDeletes ≠ 0) ?_ ?_ p failed
  · exact fun t request failed => failed_reply request failed
  · exact fun t nanos failed => failed_world (t.world.wait nanos) failed

/-- Work that leaves nothing owed leaves rows and alerts together. -/
theorem even_of_obeys (apart : s.Apart) (plan : Nat → List Disturbance) (worker : Nat) {α : Type}
    {p : RelayProgram α} (even : t.Even s)
    (obeys : ∀ v : AlertView, v.pending = none →
      p.Obeys s.alertDiscipline (fun _ after => after.pending = none) v) :
    (p.run (surroundings plan worker) t).2.failedDeletes ≠ 0 ∨
      (p.run (surroundings plan worker) t).2.Even s := by
  let v : AlertView :=
    ⟨t.world.transaction? worker .results, t.world.transaction? worker .alerts, none, []⟩
  have shows : Shows s worker t v := by
    refine ⟨even.of_same rfl (.refl _) rfl rfl, fun lane => ?_⟩
    cases lane with
    | results => rfl
    | alerts => rfl
  have ran := (obeys v rfl).run_unless (s := surroundings plan worker) (Shows s worker)
    (fun t => t.failedDeletes ≠ 0)
    (fun _ _ _ shows allowed => shows_reply apart plan shows allowed)
    (fun t _ nanos shows => shows.spares (t.world.wait_spares nanos))
    (fun _ request failed => failed_reply request failed)
    (fun t nanos failed => failed_world (t.world.wait nanos) failed) shows
  refine ran.imp id ?_
  rintro ⟨a, last, after, same, free, shows⟩
  rw [same]
  have balanced := shows.balanced
  refine ⟨balanced.sound, fun id => ?_, fun _ owed => (by cases owed),
    fun _ none => (by cases none), balanced.outputs⟩
  rw [balanced.rows, free]

/-- A piece of work leaves rows and alerts even, or a row could not be taken out. -/
theorem perform_even (apart : s.Apart) (j : Job) (even : t.Even s) :
    (t.perform s j).failedDeletes ≠ 0 ∨ (t.perform s j).Even s := by
  have ready : ({ t with calls := 0 } : Tended).Even s := even
  unfold Tended.perform
  cases j.task with
  | emit e =>
      exact even_of_obeys apart j.plan j.worker ready fun _ free =>
        (e.emit_clears free).mono fun _ _ emitted => emitted.pending
  | handle group retry labelerRetry r =>
      exact even_of_obeys apart j.plan j.worker ready fun _ free => r.handle_clears free
  | deadLetter group retry labelerRetry r reason =>
      exact even_of_obeys apart j.plan j.worker ready fun _ free => r.deadLetter_clears reason free

theorem perform_failed (j : Job) (failed : t.failedDeletes ≠ 0) :
    (t.perform s j).failedDeletes ≠ 0 := by
  unfold Tended.perform
  cases j.task with
  | emit | handle | deadLetter => exact failed_of_run j.plan j.worker _ failed

/-- Before any work, rows and alerts are even. -/
theorem start_even (topics : List (String × Nat)) (workers : List WorkerClients)
    (identifier : Nat → Uuid) : (start topics workers identifier).Even s := by
  have empty : (start topics workers identifier).world.log.WellFormed ∧
      ∀ topic, (start topics workers identifier).world.log.records topic = [] := by
    refine List.foldlRecOn (motive := fun log : Log => log.WellFormed ∧ ∀ topic,
      log.records topic = []) topics _ ⟨Log.wellFormed_empty, fun _ => rfl⟩ ?_
    rintro log ⟨sound, empty⟩ topic -
    exact ⟨sound.createTopic topic.1 topic.2, fun other =>
      (log.createTopic_records topic.1 topic.2 other).trans (empty other)⟩
  have keyless : ∀ topic key, ¬(start topics workers identifier).world.log.HasKey topic key := by
    rintro topic key ⟨r, member, _⟩
    rw [empty.2] at member
    cases member
  refine ⟨empty.1, fun id => ?_, fun _ owed => (by cases owed), fun _ none => (by cases none),
    fun key found => (keyless _ _ found).elim⟩
  simp only [keyless, reduceCtorEq, or_self, iff_false]
  exact Bool.false_ne_true

end Tended

/-- Whether the store has a row for an event exactly if the alerts topic has a message under its
key, and the results topic has messages of such events only. -/
structure World.Paired (s : RelaySettings) (w : World) : Prop where
  rows : ∀ id, w.store.rows.contains id = true ↔
    ∃ r ∈ w.log.records s.alertsTopic, r.key = some (utf8 id)
  outputs : ∀ r ∈ w.log.records s.outputTopic, ∃ id, r.key = some (utf8 id) ∧
    w.store.rows.contains id = true

/-- Where rows and alerts are even, each row has its alert and each result its event. -/
theorem Tended.Even.paired {s : RelaySettings} {t : Tended} (even : t.Even s) :
    t.world.Paired s := by
  have rows : ∀ id, t.world.store.rows.contains id = true ↔
      t.world.log.HasKey s.alertsTopic (some (utf8 id)) := by
    intro id
    rw [even.rows]
    simp only [reduceCtorEq, or_false]
  refine ⟨rows, fun r member => ?_⟩
  obtain ⟨id, key, there⟩ := even.outputs r.key ⟨r, member, rfl⟩
  exact ⟨id, key, (rows id).mpr there⟩

/-- Emissions and units of work are done one after the other, by any workers, while anything goes
wrong but the removal of a row: rows and alerts stay paired. -/
theorem rows_iff_alerts (s : RelaySettings) (topics : List (String × Nat))
    (workers : List WorkerClients) (identifier : Nat → Uuid) (jobs : List Job) (apart : s.Apart)
    (taken : (jobs.foldl (Tended.perform s) (.start topics workers identifier)).failedDeletes = 0) :
    (jobs.foldl (Tended.perform s) (.start topics workers identifier)).world.Paired s := by
  have kept : ∀ t : Tended, t.failedDeletes ≠ 0 ∨ t.Even s →
      (jobs.foldl (Tended.perform s) t).failedDeletes ≠ 0 ∨
        (jobs.foldl (Tended.perform s) t).Even s := by
    clear taken
    induction jobs with
    | nil => exact fun _ held => held
    | cons j rest ih =>
        rintro t (failed | even)
        · exact ih _ (.inl (Tended.perform_failed j failed))
        · exact ih _ (Tended.perform_even apart j even)
  have even := kept _ (.inr (Tended.start_even topics workers identifier))
  exact (even.resolve_left fun failed => failed taken).paired

/-- An alert that is compensated first and published when it is emitted again. -/
theorem rows_iff_alerts_again :
    let s : RelaySettings := ⟨"group", "results", "alerts", "dead", .once, .once⟩
    let workers : List WorkerClients := [.new "results-0" "alerts-0"
      (fun _ => .error (.scoring "none")) fun _ _ _ => .error (.labeling "none" false)]
    let plan := fun calls => if calls = 0 then [Disturbance.failCommit 0 .alerts 1] else []
    let jobs : List Job := [⟨0, plan, .emit default⟩, ⟨0, fun _ => [], .emit default⟩]
    let t := jobs.foldl (Tended.perform s) (.start [("alerts", 3)] workers fun _ => default)
    s.Apart ∧ t.failedDeletes = 0 ∧ t.world.Paired s := by
  intro s workers plan jobs t
  have apart : s.Apart := ⟨by decide, by decide, by decide⟩
  have taken : t.failedDeletes = 0 := by decide +kernel
  exact ⟨apart, taken,
    rows_iff_alerts s [("alerts", 3)] workers (fun _ => default) jobs apart taken⟩

end AlertRelay
