import AlertRelay.Proofs.Ledger
import AlertRelay.Proofs.Relay.Disturbance
import AlertRelay.Proofs.Relay.Handling

/-!
# A unit of work is done as a whole or not at all

A worker works on a record while anything may go wrong just before any of its calls (`Hindered`).
Whatever that is, the worker comes to an end. Either it has committed one transaction of its results
producer, with the offset behind the record and no other, and the ledger knows; or the committed
offsets and the ledger are as they were. `Record.unit_whole_or_untouched` says so of both ways to
work on a record. Behind a record at the last offset there is none left: then the first offset is
committed (`Record.unit_wraps_around`).
-/

namespace AlertRelay

/-- Relay work in the course of which things go wrong. -/
structure Hindered where
  world : World
  /-- How many calls were made. -/
  calls : Nat
  /-- What the calls have made visible, in order. -/
  postings : List Posting

namespace Hindered

variable {s : RelaySettings} {r : Record} {worker : Nat} {w : World} {h : Hindered} {v : UnitView}

/-- Relay work that has not begun. -/
def start (w : World) : Hindered := ⟨w, 0, []⟩

/-- One call. A plan says what goes wrong just before each call. -/
def reply (plan : Nat → List Disturbance) (worker : Nat) (request : RelayCall) (h : Hindered) :
    request.Reply × Hindered :=
  let w := h.world.disturb (plan h.calls)
  let (answer, after) := World.reply worker request w
  (answer, ⟨after, h.calls + 1,
    h.postings ++ (request.posting? (w.transaction? worker) answer).toList⟩)

/-- The world as a worker sees it while a plan is carried out. -/
def surroundings (plan : Nat → List Disturbance) (worker : Nat) :
    Surroundings Interface.relay Hindered :=
  ⟨reply plan worker, fun nanos h => { h with world := h.world.wait nanos }⟩

/-- The transactions that were committed on the results producer. -/
def committed (h : Hindered) : List Transaction := h.postings.filterMap Posting.result?

/-- What a worker has seen of its unit agrees with the world. -/
structure Shows (s : RelaySettings) (r : Record) (worker : Nat) (w : World) (h : Hindered)
    (v : UnitView) : Prop where
  reads : v.Reads h.world worker
  stuck : v.stuck = true → h.world.Fenced worker .results
  log : h.world.log.Agrees (Posting.postAll h.postings w.log)
  committed : h.committed = v.standing.commits
  offsets : h.postings.flatMap Posting.offsets = v.standing.commits.flatMap Transaction.offsets
  admitted : v.standing.Passed → w.ledger.Admits (OffsetCommit.forRecord r s.group)
  ledger : h.world.ledger = v.standing.ledger w.ledger (OffsetCommit.forRecord r s.group)

/-- A worker that enters a unit has seen nothing of it. -/
theorem shows_start (idle : w.transaction? worker .results = none) :
    Shows s r worker w (start w) (.enter none (w.transaction? worker .alerts) false) where
  reads lane := by
    cases lane with
    | results => exact idle
    | alerts => rfl
  stuck stuck := by cases stuck
  log := .refl _
  committed := rfl
  offsets := rfl
  admitted passed := passed.elim
  ledger := rfl

/-- A unit may be entered while the results producer holds what it can no longer commit. -/
theorem shows_enter {stuck : Bool} (fenced : stuck = true → w.Fenced worker .results) :
    Shows s r worker w (start w)
      (.enter (w.transaction? worker .results) (w.transaction? worker .alerts) stuck) where
  reads lane := by
    cases lane with
    | results => rfl
    | alerts => rfl
  stuck := fenced
  log := .refl _
  committed := rfl
  offsets := rfl
  admitted passed := passed.elim
  ledger := rfl

/-- What spares the world leaves what a worker has seen true. -/
theorem Shows.spares {after : World} (shows : Shows s r worker w h v)
    (spares : h.world.Spares after) : Shows s r worker w { h with world := after } v where
  reads lane := (spares.transaction worker lane).trans (shows.reads lane)
  stuck stuck := spares.fenced _ _ (shows.stuck stuck)
  log := by
    rw [spares.log]
    exact shows.log
  committed := shows.committed
  offsets := shows.offsets
  admitted := shows.admitted
  ledger := spares.ledger.trans shows.ledger

/-- The offsets that a unit makes visible are those of its results transaction. -/
private theorem offsets_of_posts {p : Posting} (posts : r.Posts s v p) :
    p.offsets = p.result?.toList.flatMap Transaction.offsets := by
  cases posts with
  | result t => exact (List.append_nil _).symm
  | alert t alerts => exact alerts.offsets
  | letter m => rfl

/-- Whether the ledger has admitted the record after a call. -/
private theorem admitted_reply (shows : Shows s r worker w h v) {request : RelayCall}
    (allowed : r.Allows s v request)
    (passed : (v.note request (World.reply worker request h.world).1).standing.Passed) :
    w.ledger.Admits (OffsetCommit.forRecord r s.group) := by
  cases request with
  | checkOffset c =>
      obtain ⟨entered, rfl⟩ := allowed
      have ledger : h.world.ledger = w.ledger := by
        rw [shows.ledger, entered]
        rfl
      change (v.standing.after v.results (.checkOffset _) (h.world.ledger.check _)).Passed at passed
      rw [ledger] at passed
      cases checked : w.ledger.check (OffsetCommit.forRecord r s.group) with
      | error e =>
          rw [checked] at passed
          exact passed.elim
      | ok => exact Ledger.check_eq_ok_iff.mp checked
  | commit lane =>
      cases lane with
      | alerts => exact shows.admitted passed
      | results =>
          refine shows.admitted ?_
          rw [allowed.1]
          trivial
  | recordOffset c =>
      refine shows.admitted ?_
      obtain ⟨t, standing⟩ := allowed.1
      rw [standing]
      trivial
  | _ => exact shows.admitted passed

/-- A producer that cannot drop what it holds has lost its identifier. -/
private theorem fenced_reply (request : RelayCall) (w : World) (worker : Nat)
    (sticks : request.sticks (World.reply worker request w).1 = true) :
    w.Fenced worker .results := by
  cases request with
  | abort lane =>
      cases lane with
      | alerts => cases sticks
      | results =>
          cases dropped : (World.reply worker (.abort .results) w).1 with
          | ok =>
              rw [dropped] at sticks
              cases sticks
          | error cause => exact World.fenced_of_abort_error dropped
  | _ => cases sticks

/-- What a worker has seen stays true after a call that is in order. -/
private theorem shows_after (shows : Shows s r worker w h v) {request : RelayCall}
    (allowed : r.Allows s v request) (calls : Nat) :
    Shows s r worker w ⟨(World.reply worker request h.world).2, calls, h.postings ++
        (request.posting? v.held (World.reply worker request h.world).1).toList⟩
      (v.note request (World.reply worker request h.world).1) := by
  have accounts := World.reply_accounts h.world worker request
  have passed := admitted_reply shows allowed
  have sticks := fenced_reply request h.world worker
  have commits := @Record.commits_note _ _ _ _ (World.reply worker request h.world).1 allowed
  have posts : ∀ p, request.posting? v.held (World.reply worker request h.world).1 = some p →
      r.Posts s v p := fun p => Record.posts_of_allows allowed
  constructor
  · exact shows.reads.reply request
  · intro stuck
    rcases Bool.or_eq_true_iff.mp stuck with already | now
    · exact accounts.fenced _ _ (shows.stuck already)
    · exact accounts.fenced _ _ (sticks now)
  · refine accounts.log.trans ?_
    rw [shows.reads.posting, Posting.postAll_append]
    unfold World.logAfter
    cases request.posting? v.held (World.reply worker request h.world).1 with
    | none => exact shows.log
    | some p => exact p.post_agrees shows.log
  · rw [commits, ← shows.committed]
    unfold Hindered.committed
    rw [List.filterMap_append]
    cases request.posting? v.held (World.reply worker request h.world).1 with
    | none => rfl
    | some p =>
        simp only [Option.toList_some, Option.bind_some, List.filterMap_cons, List.filterMap_nil]
        cases p.result? with
        | none => rfl
        | some t => rfl
  · rw [commits, List.flatMap_append, List.flatMap_append, shows.offsets]
    cases posted : request.posting? v.held (World.reply worker request h.world).1 with
    | none => rfl
    | some p =>
        simp only [Option.toList_some, List.flatMap_singleton, Option.bind_some]
        rw [offsets_of_posts (posts p posted)]
  · exact passed
  · rw [World.reply_ledger, Record.ledger_note allowed, shows.ledger]

/-- What a worker has seen stays true after a call, whatever goes wrong before it. -/
theorem shows_reply (plan : Nat → List Disturbance) (shows : Shows s r worker w h v)
    {request : RelayCall} (allowed : r.Allows s v request) :
    Shows s r worker w (reply plan worker request h).2
      (v.note request (reply plan worker request h).1) := by
  have disturbed := shows.spares (h.world.disturb_spares (plan h.calls))
  unfold Hindered.reply
  dsimp only
  rw [disturbed.reads.posting]
  exact shows_after disturbed allowed (h.calls + 1)

/-- How a unit of work leaves the world in which it was entered. -/
structure Settles (s : RelaySettings) (r : Record) (worker : Nat) (w : World)
    (outcome : Except RelayError Outcome) (h : Hindered) : Prop where
  /-- The log shows what has become visible, and nothing else. -/
  log : h.world.log.Agrees (Posting.postAll h.postings w.log)
  /-- One transaction was committed, with one offset, and the ledger knows. -/
  whole : ∀ done, outcome = .ok done → done ≠ .failed →
    (∃ messages, h.committed = [⟨messages, [OffsetCommit.forRecord r s.group]⟩]) ∧
      h.world.log.commitLog = w.log.commitLog ++ [OffsetCommit.forRecord r s.group] ∧
      h.world.ledger = w.ledger.record (OffsetCommit.forRecord r s.group) ∧
      h.world.ledger.last? s.group r.topicPartition = some r.nextOffset ∧
      (r.offset < Record.lastOffset → r.nextOffset = r.offset + 1)
  /-- Nothing was committed, and the ledger is as it was. -/
  untouched : (outcome = .ok .failed ∨ ∃ e, outcome = .error e) →
    h.committed = [] ∧ h.world.log.commitLog = w.log.commitLog ∧
      h.world.log.committed = w.log.committed ∧ h.world.ledger = w.ledger
  closed : h.world.transaction? worker .results = none ∨ h.world.Fenced worker .results
  /-- Nobody is asked to try again. -/
  error : ∀ e, outcome = .error e → e.isRetryable = false

/-- A unit that has finished has settled the world. -/
theorem settles_of_finished {outcome : Except RelayError Outcome} (shows : Shows s r worker w h v)
    (finished : r.Finished s outcome v) : Settles s r worker w outcome h where
  log := shows.log
  whole done is final := by
    have closed : Record.leavesOpen outcome = false := by
      cases done with
      | failed => exact (final rfl).elim
      | processed | deadLettered =>
          rw [is]
          rfl
    obtain ⟨t, standing, fits⟩ := finished.done closed
    have ledger : h.world.ledger = w.ledger.record (OffsetCommit.forRecord r s.group) := by
      rw [shows.ledger, standing]
      rfl
    have admitted : w.ledger.Admits (OffsetCommit.forRecord r s.group) := by
      refine shows.admitted ?_
      rw [standing]
      trivial
    refine ⟨⟨t.messages, ?_⟩, ?_, ledger, ?_⟩
    · rw [shows.committed, standing, ← fits.offsets]
      rfl
    · rw [shows.log.commitLog, Posting.postAll_commitLog, shows.offsets, standing]
      simp only [Standing.commits, List.flatMap_singleton, fits.offsets]
    · rw [ledger]
      exact ⟨Ledger.last?_record_self admitted, Record.nextOffset_of_lt⟩
  untouched left := by
    have commits : v.standing.commits = [] := by
      rcases left with is | ⟨e, is⟩
      · rw [finished.failed is]
        rfl
      · rcases (finished.error e is).2 with ⟨standing, _⟩ | ⟨standing, _⟩
        · rw [standing]
          rfl
        · rw [standing]
          rfl
    have unrecorded : v.standing.ledger w.ledger (OffsetCommit.forRecord r s.group) = w.ledger := by
      cases same : v.standing with
      | recorded t =>
          rw [same] at commits
          cases commits
      | _ => rfl
    have offsetless : h.postings.flatMap Posting.offsets = [] := by
      rw [shows.offsets, commits]
      rfl
    refine ⟨shows.committed.trans commits, ?_, ?_, shows.ledger.trans unrecorded⟩
    · rw [shows.log.commitLog, Posting.postAll_commitLog, offsetless, List.append_nil]
    · rw [shows.log.committed, Posting.postAll_committed offsetless]
  closed := finished.closed.imp (fun dropped => (shows.reads .results).trans dropped) shows.stuck
  error e is := (finished.error e is).1

/-- Work that keeps to the discipline of a unit comes to an end under every plan. -/
theorem ends_of_obeys {α : Type} (plan : Nat → List Disturbance) {ends : α → UnitView → Prop}
    {p : RelayProgram α} (shows : Shows s r worker w (start w) v)
    (obeys : p.Obeys (r.unitDiscipline s) ends v) :
    ∃ a h later, p.run (surroundings plan worker) (start w) = (some a, h) ∧ ends a later ∧
      Shows s r worker w h later := by
  refine Program.Obeys.run (Shows s r worker w) ?_ ?_ obeys shows
  · intro h v request shows allowed
    exact ⟨_, ⟨Record.possible_reply worker request _, rfl⟩, shows_reply plan shows allowed⟩
  · intro h v nanos shows
    exact shows.spares (h.world.wait_spares nanos)

/-- A program that obeys comes to its end in the world, whatever goes wrong. -/
private theorem run_of_obeys {α : Type} (plan : Nat → List Disturbance)
    {ends : α → UnitView → Prop} {p : RelayProgram α}
    (obeys : ∀ alerts, p.Obeys (r.unitDiscipline s) ends (.enter none alerts false))
    (idle : w.transaction? worker .results = none) :
    ∃ a h v, p.run (surroundings plan worker) (start w) = (some a, h) ∧ ends a v ∧
      Shows s r worker w h v :=
  ends_of_obeys plan (shows_start idle) (obeys _)

end Hindered

namespace Record

/-- Whatever goes wrong before whichever call, a worker without an open transaction brings its work
on a record to an end, as a whole or not at all. -/
theorem unit_whole_or_untouched (s : RelaySettings) (r : Record) (worker : Nat)
    (plan : Nat → List Disturbance) (w : World)
    (idle : w.transaction? worker .results = none) :
    (∃ outcome h, (r.handle s).run (Hindered.surroundings plan worker) (.start w) =
        (some outcome, h) ∧ Hindered.Settles s r worker w outcome h) ∧
      ∀ reason, ∃ result h, (r.deadLetter s reason).run (Hindered.surroundings plan worker)
        (.start w) = (some result, h) ∧
          Hindered.Settles s r worker w (result.map fun _ => .deadLettered) h := by
  constructor
  · obtain ⟨outcome, h, v, ran, finished, shows⟩ :=
      Hindered.run_of_obeys plan (fun alerts => r.handle_obeys (s := s) rfl (.inl rfl)) idle
    exact ⟨outcome, h, ran, Hindered.settles_of_finished shows finished⟩
  · intro reason
    obtain ⟨result, h, v, ran, finished, shows⟩ :=
      Hindered.run_of_obeys plan (fun alerts => r.deadLetter_obeys (s := s) reason rfl (.inl rfl))
        idle
    exact ⟨result, h, ran, Hindered.settles_of_finished shows finished⟩

/-- A worker that has just begun, and is fenced before the third of its calls. -/
theorem unit_whole_or_untouched_fenced :
    let s : RelaySettings := ⟨"group", "results", "alerts", "dead", .once, .once⟩
    let r : Record := ⟨"events", 0, 4, none, [], []⟩
    let plan := fun calls => if calls = 2 then [Disturbance.fence 0 .results] else []
    let w := World.start [.new "results-0" "alerts-0" (fun _ => .error (.scoring "none"))
      fun _ _ _ => .error (.labeling "none" false)] fun _ => default
    w.transaction? 0 .results = none ∧ ∃ outcome h,
      (r.handle s).run (Hindered.surroundings plan 0) (.start w) = (some outcome, h) ∧
        Hindered.Settles s r 0 w outcome h := by
  intro s r plan w
  have idle : w.transaction? 0 .results = none := rfl
  exact ⟨idle, (unit_whole_or_untouched s r 0 plan w idle).1⟩

/-- A record at the last offset is set aside, and what is committed for it is the first offset. -/
theorem unit_wraps_around :
    let s : RelaySettings := ⟨"group", "results", "alerts", "dead", .once, .once⟩
    let r : Record := ⟨"events", 0, 0x7fffffffffffffff, none, [], []⟩
    let w := World.start [.new "results-0" "alerts-0" (fun _ => .error (.scoring "none"))
      fun _ _ _ => .error (.labeling "none" false)] fun _ => default
    w.transaction? 0 .results = none ∧ ∃ h,
      (r.handle s).run (Hindered.surroundings (fun _ => []) 0) (.start w) =
        (some (.ok .deadLettered), h) ∧
      h.world.log.commitLog.map OffsetCommit.offset = [-0x8000000000000000] ∧
      -0x8000000000000000 ≠ r.offset + 1 := by
  intro s r w
  refine ⟨rfl, _, Prod.ext ?_ rfl, ?_, ?_⟩
  · rfl
  · rfl
  · decide

end Record

end AlertRelay
