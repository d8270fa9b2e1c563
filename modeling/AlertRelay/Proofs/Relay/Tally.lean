import AlertRelay.Proofs.Broker.Atomic
import AlertRelay.Proofs.Relay.Atomicity
import AlertRelay.Proofs.Relay.Calls

/-!
# How records are counted

Every call of a worker with a record is counted once, by how it ends (`Ending`): with a result, as a
dead letter, without an enrichment, without a commit, or because its offset was committed before.
Whatever goes wrong on the way, just the count of that ending rises, by one, and the records that
are counted with a result or as a dead letter are those whose offsets were committed
(`Errand.counted_once`). A record at the last offset is no exception: its commit is that of the
offset behind it (`Record.nextOffset`), which is the first.
-/

namespace AlertRelay

/-- How a call of a worker with a record ends, as far as it is counted. -/
inductive Ending where
  | processed
  | deadLettered
  /-- The event could not be enriched. -/
  | unenriched
  /-- Nothing could be committed. -/
  | uncommitted
  /-- The offset was committed before. -/
  | refused
  deriving DecidableEq

/-- How many calls have ended in a way. -/
def Counters.ended (c : Counters) : Ending → Nat
  | .processed => c.processed
  | .deadLettered => c.deadLettered
  | .unenriched => c.failuresAt .enrichment
  | .uncommitted => c.failuresAt .commit
  | .refused => c.failuresAt .offset

namespace Ending

/-- Whether a call that ends in a way comes to an outcome. -/
def Fits : Ending → Except RelayError Outcome → Prop
  | processed, outcome => outcome = .ok .processed
  | deadLettered, outcome => outcome = .ok .deadLettered
  | unenriched, outcome => outcome = .ok .failed
  | uncommitted, outcome | refused, outcome => ∃ e, outcome = .error e

/-- What a call that ends in a way commits for a record. -/
def commits (c : OffsetCommit) : Ending → List OffsetCommit
  | processed | deadLettered => [c]
  | _ => []

/-- The commits of an ending are those of any outcome that it fits. -/
theorem commits_of_fits {e : Ending} {outcome : Except RelayError Outcome} (c : OffsetCommit)
    (fits : e.Fits outcome) : e.commits c = if Record.leavesOpen outcome then [] else [c] := by
  cases e with
  | processed | deadLettered | unenriched =>
      cases fits
      rfl
  | uncommitted | refused =>
      obtain ⟨cause, rfl⟩ := fits
      rfl

end Ending

namespace RelayCall

/-- The ending that a call counts. -/
def ending? : RelayCall → Option Ending
  | countProcessed => some .processed
  | countDeadLettered => some .deadLettered
  | countFailure .enrichment => some .unenriched
  | countFailure .commit => some .uncommitted
  | countFailure .offset => some .refused
  | _ => none

/-- Calls that count no ending. -/
def Uncounted (request : RelayCall) : Prop := request.ending? = none

end RelayCall

/-! ## What calls count -/

namespace Counters

variable (c : Counters)

theorem failuresAt_countFailure (stage other : FailureStage) :
    (c.countFailure stage).failuresAt other =
      c.failuresAt other + if stage = other then 1 else 0 := by
  unfold Counters.countFailure Counters.failuresAt
  rw [Table.get?_put]
  split
  · next same =>
    subst same
    rfl
  · rfl

end Counters

namespace World

/-- What is done with a producer counts nothing. -/
theorem transact_counters (w : World) (worker : Nat) (lane : Lane)
    (step : TransactionalProducer → Log → TransactionalProducer.Step) :
    (w.transact worker lane step).2.counters = w.counters := by
  unfold World.transact
  split <;> rfl

/-- A call counts the ending that it says, and no other. -/
theorem reply_ended (worker : Nat) (request : RelayCall) (w : World) (e : Ending) :
    (World.reply worker request w).2.counters.ended e =
      w.counters.ended e + request.ending?.toList.count e := by
  have still : ∀ {after : World}, after.counters = w.counters →
      after.counters.ended e = w.counters.ended e + ([] : List Ending).count e :=
    fun same => congrArg (Counters.ended · e) same
  cases request with
  | begin lane => exact still (transact_counters ..)
  | produce lane m => exact still (transact_counters ..)
  | sendOffsets lane offsets => exact still (transact_counters ..)
  | commit lane => exact still (transact_counters ..)
  | abort lane => exact still (transact_counters ..)
  | insertAlert a =>
      apply still
      change w.fenceDue.counters = w.counters
      unfold World.fenceDue
      split <;> rfl
  | label event score =>
      apply still
      change (w.askLabel worker event score).2.counters = w.counters
      unfold World.askLabel
      split <;> rfl
  | countProcessed | countDeadLettered | countDeadLetterFailure | observe => cases e <;> rfl
  | countFailure stage =>
      change (w.counters.countFailure stage).ended e = _
      cases e with
      | processed | deadLettered => cases stage <;> rfl
      | unenriched | uncommitted | refused =>
          dsimp only [Counters.ended]
          rw [Counters.failuresAt_countFailure]
          cases stage <;> rfl
  | _ => exact still rfl

theorem disturb_counters (w : World) (disturbances : List Disturbance) :
    (w.disturb disturbances).counters = w.counters :=
  List.foldlRecOn (motive := fun after : World => after.counters = w.counters) disturbances _ rfl
    fun after same d _ => by
      refine Eq.trans ?_ same
      cases d <;> rfl

theorem wait_counters (w : World) (nanos : Nat) : (w.wait nanos).counters = w.counters :=
  w.disturb_counters [.elapse (Program.wholeMillis nanos)]

end World

/-! ## What work on a record counts -/

namespace RelayCall

/-- A discipline in which everything is in order, and the counted endings are taken down. -/
def tallying : Discipline Interface.relay (List Ending) where
  allows _ _ := True
  shows counted request _ after := after = counted ++ request.ending?.toList

variable {α : Type} {counted : List Ending}

theorem tally_ask {request : RelayCall} {f : request.Reply → RelayProgram α}
    {ends : α → List Ending → Prop}
    (next : ∀ reply, (f reply).Obeys tallying ends (counted ++ request.ending?.toList)) :
    (request.ask >>= f).Obeys tallying ends counted :=
  ⟨trivial, fun reply _ shown => shown ▸ next reply⟩

/-- A call that is not counted. -/
theorem tally_ask_uncounted {request : RelayCall} {f : request.Reply → RelayProgram α}
    {ends : α → List Ending → Prop} (uncounted : request.Uncounted)
    (next : ∀ reply, (f reply).Obeys tallying ends counted) :
    (request.ask >>= f).Obeys tallying ends counted := by
  refine tally_ask fun reply => ?_
  rw [uncounted, Option.toList_none, List.append_nil]
  exact next reply

/-- Calls that count no ending leave the tally as it is. -/
theorem tally_of_uncounted {p : RelayProgram α} (asks : p.Asks Uncounted) :
    p.Obeys tallying (fun _ after => after = counted) counted := by
  apply asks.obeys (fun after => after = counted) (fun _ _ _ _ => trivial) _ rfl
  intro before request reply after same uncounted shown
  rw [shown, uncounted, same]
  exact List.append_nil counted

end RelayCall

namespace Record

open RelayCall

variable {s : RelaySettings} {r : Record} {c : OffsetCommit} {counted : List Ending}

theorem enrich_uncounted (labelerRetry : RetryPolicy) (raw : RawEvent) :
    (raw.enrich labelerRetry).Asks Uncounted := by
  refine (raw.enrich_calls labelerRetry).weaken fun request enriching => ?_
  cases request with
  | freshId | score | label | share => rfl
  | _ => exact enriching.elim

theorem emit_uncounted (e : Enrichment) : (e.emit s).Asks Uncounted := by
  refine e.emit_calls.weaken fun request emits => ?_
  cases request with
  | countProcessed | countDeadLettered => exact emits.elim
  | countFailure stage => rcases emits with rfl | rfl | rfl <;> rfl
  | _ => rfl

theorem work_uncounted (p : UnitProgress) : (r.work s c p).Asks Uncounted := by
  unfold Record.work
  cases r.rawEvent? with
  | none =>
      apply Program.Asks.bind
      · exact asks_ask rfl fun millis => produceAndConfirm_asks rfl rfl rfl
      · intro written
        exact .done _
  | some raw =>
      have enriches : (enrichOnce s raw p).Asks Uncounted := by
        unfold Record.enrichOnce
        cases p.enrichment with
        | some known => exact .done _
        | none => exact enrich_uncounted s.labelerRetry raw
      refine enriches.bind fun enriched => ?_
      cases enriched with
      | error cause => exact .done _
      | ok e =>
          have emits : (emitOnce s e p).Asks Uncounted := by
            unfold Record.emitOnce
            cases p.emission with
            | some known => exact .done _
            | none => exact emit_uncounted e
          refine emits.bind fun emitted => ?_
          cases emitted with
          | error cause => exact .done _
          | ok emission =>
              refine Program.Asks.bind ?_ fun concluded => .done _
              cases emission with
              | quarantined reason compensated =>
                  have confirms : c.confirm.Asks Uncounted := confirm_asks rfl rfl
                  exact confirms.bind fun _ => .done _
              | published alertId inserted =>
                  have confirms : (produceAndConfirm (resultMessage s e) c).Asks Uncounted :=
                    produceAndConfirm_asks rfl rfl rfl
                  exact confirms.bind fun _ => .done _

/-- What an attempt at a record does is not counted. -/
theorem attemptWork_uncounted (p : UnitProgress) : (r.attemptWork s c p).Asks Uncounted := by
  refine asks_ask rfl fun begun => ?_
  cases begun with
  | error cause => exact .done _
  | ok =>
      refine (work_uncounted p).bind fun made => ?_
      dsimp only
      split
      · exact asks_ask rfl fun _ => .done _
      · exact .done _

theorem attemptDeadLetter_uncounted (reason : DeadLetterReason) :
    (r.attemptDeadLetter s reason c).Asks Uncounted := by
  refine asks_ask rfl fun begun => ?_
  cases begun with
  | error cause => exact .done _
  | ok =>
      apply Program.Asks.bind
      · exact asks_ask rfl fun millis => produceAndConfirm_asks rfl rfl rfl
      · intro written
        cases written with
        | ok => exact .done _
        | error e => exact asks_ask rfl fun _ => .done _

/-- Whether one ending was counted, and it fits the outcome. -/
def Counts (counted : List Ending) (outcome : Except RelayError Outcome) (after : List Ending) :
    Prop :=
  ∃ e : Ending, after = counted ++ [e] ∧ e.Fits outcome

/-- To note a commit counts the outcome once. -/
theorem settle_counts (outcome : Outcome) :
    (settle c outcome).Obeys tallying (fun _ after => Counts counted (.ok outcome) after)
      counted := by
  cases outcome with
  | failed => exact tally_ask fun _ => ⟨.unenriched, rfl, rfl⟩
  | processed => exact tally_ask_uncounted rfl fun _ => tally_ask fun _ => ⟨.processed, rfl, rfl⟩
  | deadLettered =>
      exact tally_ask_uncounted rfl fun _ => tally_ask fun _ => ⟨.deadLettered, rfl, rfl⟩

/-- Work on a record is counted once, when it is over. -/
theorem handle_counts : (r.handle s).Obeys tallying (Counts counted) counted := by
  refine tally_ask_uncounted rfl fun checked => ?_
  cases checked with
  | error e => exact tally_ask fun _ => ⟨.refused, rfl, e, rfl⟩
  | ok =>
      refine Program.Obeys.bind (Program.attempt_obeys s.retry (fun _ after => after = counted)
        (fun _ after => after = counted) (fun _ after same => ?_) (fun p after same => ?_)
        UnitProgress.none counted rfl) fun made after same => ?_
      · subst same
        exact tally_of_uncounted (.call rfl fun _ => .done _)
      · subst same
        exact (tally_of_uncounted (attemptWork_uncounted p)).mono fun _ _ same =>
          ⟨same, fun _ _ _ => same⟩
      · subst same
        obtain ⟨⟨outcome, attempts⟩, achieved⟩ := made
        cases outcome with
        | error e => exact tally_ask fun _ => ⟨.uncommitted, rfl, _, rfl⟩
        | ok done => exact (settle_counts done).bind fun _ _ counts => counts

/-- To dead-letter a record counts one ending. -/
theorem deadLetter_counts (reason : DeadLetterReason) :
    (r.deadLetter s reason).Obeys tallying
      (fun result after => Counts counted (result.map fun _ => .deadLettered) after) counted := by
  refine tally_ask_uncounted rfl fun checked => ?_
  cases checked with
  | error e => exact tally_ask fun _ => ⟨.refused, rfl, e, rfl⟩
  | ok =>
      refine Program.Obeys.bind (Program.attemptPlain_obeys s.retry (fun after => after = counted)
        (fun _ after => after = counted) (fun after same => ?_) (fun after same => ?_) counted rfl)
        fun made after same => ?_
      · subst same
        exact tally_of_uncounted (.call rfl fun _ => .done _)
      · subst same
        exact (tally_of_uncounted (attemptDeadLetter_uncounted reason)).mono fun _ _ same =>
          ⟨same, fun _ _ _ => same⟩
      · subst same
        obtain ⟨outcome, attempts⟩ := made
        cases outcome with
        | error e => exact tally_ask fun _ => ⟨.uncommitted, rfl, _, rfl⟩
        | ok => exact (settle_counts .deadLettered).bind fun _ _ counts => counts

/-! ## Work while a transaction is open -/

/-- Calls of work that never begins a transaction. -/
def Waits : RelayCall → Prop
  | .checkOffset _ | .begin .results | .share | .countFailure _ => True
  | _ => False

/-- Whether a reply is one to a worker that cannot begin a transaction. -/
def Unbegun : (request : RelayCall) → request.Reply → Prop
  | .begin .results, .ok () => False
  | _, _ => True

/-- How a worker works whose results producer has a transaction open that nobody drops. -/
def blocked : Discipline Interface.relay Unit := ⟨fun _ => Waits, fun _ request reply _ =>
  Unbegun request reply⟩

variable {α : Type}

theorem blocked_ask {request : RelayCall} {f : request.Reply → RelayProgram α}
    {ends : α → Unit → Prop} (waits : Waits request)
    (next : ∀ reply, Unbegun request reply → (f reply).Obeys blocked ends ()) :
    (request.ask >>= f).Obeys blocked ends () :=
  ⟨waits, fun reply _ unbegun => next reply unbegun⟩

theorem share_blocked : RelayCall.share.ask.Obeys blocked (fun _ _ => True) () :=
  ⟨trivial, fun _ _ _ => trivial⟩

/-- A worker that cannot begin a transaction gives a record up. -/
theorem handle_blocked : (r.handle s).Obeys blocked (fun outcome _ => ∃ e, outcome = .error e)
    () := by
  refine blocked_ask trivial fun checked _ => ?_
  cases checked with
  | error e => exact blocked_ask trivial fun _ _ => ⟨e, rfl⟩
  | ok =>
      refine Program.Obeys.bind (Program.attempt_obeys s.retry (fun _ _ => True)
        (fun outcome _ => ∃ e, outcome = .error e) (fun _ _ _ => share_blocked)
        (fun p _ _ => ?_) UnitProgress.none () trivial) fun made _ failed => ?_
      · refine blocked_ask trivial fun begun unbegun => ?_
        cases begun with
        | ok => exact unbegun.elim
        | error cause => exact ⟨⟨_, rfl⟩, fun _ _ _ => trivial⟩
      · obtain ⟨⟨outcome, attempts⟩, achieved⟩ := made
        obtain ⟨e, rfl⟩ := failed
        exact blocked_ask trivial fun _ _ => ⟨_, rfl⟩

/-- A worker that cannot begin a transaction does not dead-letter. -/
theorem deadLetter_blocked (reason : DeadLetterReason) :
    (r.deadLetter s reason).Obeys blocked (fun result _ => ∃ e, result = .error e) () := by
  refine blocked_ask trivial fun checked _ => ?_
  cases checked with
  | error e => exact blocked_ask trivial fun _ _ => ⟨e, rfl⟩
  | ok =>
      refine Program.Obeys.bind (Program.attemptPlain_obeys s.retry (fun _ => True)
        (fun outcome _ => ∃ e, outcome = .error e) (fun _ _ => share_blocked)
        (fun _ _ => ?_) () trivial) fun made _ failed => ?_
      · refine blocked_ask trivial fun begun unbegun => ?_
        cases begun with
        | ok => exact unbegun.elim
        | error cause => exact ⟨⟨_, rfl⟩, fun _ _ _ => trivial⟩
      · obtain ⟨outcome, attempts⟩ := made
        obtain ⟨e, rfl⟩ := failed
        exact blocked_ask trivial fun _ _ => ⟨_, rfl⟩

end Record

/-! ## Runs -/

namespace Hindered

variable {α : Type} {worker : Nat} {w : World} {p : RelayProgram α}

/-- A run counts what its program takes down. -/
theorem run_tally (worker : Nat) (plan : Nat → List Disturbance) (w : World)
    {ends : α → List Ending → Prop} (obeys : p.Obeys RelayCall.tallying ends []) :
    ∃ a h counted, p.run (surroundings plan worker) (start w) = (some a, h) ∧ ends a counted ∧
      ∀ e, h.world.counters.ended e = w.counters.ended e + counted.count e := by
  refine obeys.run (w := start w) (fun (h : Hindered) counted =>
    ∀ e, h.world.counters.ended e = w.counters.ended e + counted.count e) ?_ ?_ fun _ => rfl
  · intro h counted request shown _
    refine ⟨counted ++ request.ending?.toList, rfl, fun e => ?_⟩
    change (World.reply worker request (h.world.disturb (plan h.calls))).2.counters.ended e = _
    rw [World.reply_ended, World.disturb_counters, shown, List.count_append, Nat.add_assoc]
  · intro h counted nanos shown e
    change (h.world.wait nanos).counters.ended e = _
    rw [World.wait_counters]
    exact shown e

/-- A worker that holds a transaction open cannot begin one. -/
theorem unbegun_reply (held : (w.transaction? worker .results).isSome) (request : RelayCall) :
    Record.Unbegun request (World.reply worker request w).1 := by
  cases request with
  | begin lane =>
      cases lane with
      | alerts => trivial
      | results =>
          obtain ⟨t, open_⟩ := Option.isSome_iff_exists.mp held
          obtain ⟨q, present, holds⟩ := Option.bind_eq_some_iff.mp open_
          rw [World.reply, World.transact_some present]
          cases begun : (q.begin w.log).1 with
          | error cause => trivial
          | ok =>
              have free := ((q.begin_ok_iff w.log).mp begun).2
              rw [holds] at free
              exact free rfl
  | _ => trivial

/-- What a blocked worker does leaves its transaction open and commits nothing. -/
theorem blocked_reply (held : (w.transaction? worker .results).isSome) {request : RelayCall}
    (waits : Record.Waits request) :
    ((World.reply worker request w).2.transaction? worker .results).isSome ∧
      (World.reply worker request w).2.log.commitLog = w.log.commitLog := by
  have unbegun := unbegun_reply held request
  have accounts := World.reply_accounts w worker request
  rw [accounts.transaction, if_pos rfl, accounts.log.commitLog]
  generalize (World.reply worker request w).1 = reply at unbegun ⊢
  cases request with
  | begin lane =>
      cases lane with
      | alerts => exact waits.elim
      | results =>
          cases reply with
          | ok => exact unbegun.elim
          | error cause => exact ⟨held, rfl⟩
  | checkOffset | share | countFailure => exact ⟨held, rfl⟩
  | _ => exact waits.elim

/-- Whether a worker still has its transaction open, and nothing was committed. -/
def Stuck (worker : Nat) (w : World) (h : Hindered) : Prop :=
  (h.world.transaction? worker .results).isSome ∧ h.world.log.commitLog = w.log.commitLog

/-- What goes wrong or passes by leaves a worker stuck. -/
theorem Stuck.spares {h later : Hindered} (stuck : Stuck worker w h)
    (spared : h.world.Spares later.world) : Stuck worker w later := by
  obtain ⟨open_, same⟩ := stuck
  refine ⟨?_, (congrArg Log.commitLog spared.log).trans same⟩
  rw [spared.transaction]
  exact open_

/-- Where a transaction is open already, nothing is committed. -/
theorem run_blocked (plan : Nat → List Disturbance) {ends : α → Unit → Prop}
    (obeys : p.Obeys Record.blocked ends ())
    (held : (w.transaction? worker .results).isSome) :
    ∃ a h, p.run (surroundings plan worker) (start w) = (some a, h) ∧ ends a () ∧
      h.world.log.commitLog = w.log.commitLog := by
  have replies : ∀ (h : Hindered) (view : Unit) request, Stuck worker w h →
      Record.Waits request → ∃ after, Record.Unbegun request (reply plan worker request h).1 ∧
        (fun later (_ : Unit) => Stuck worker w later) (reply plan worker request h).2 after := by
    intro h _ request stuck waits
    have disturbed : Stuck worker w { h with world := h.world.disturb (plan h.calls) } :=
      stuck.spares (h.world.disturb_spares (plan h.calls))
    obtain ⟨stays, kept⟩ := blocked_reply disturbed.1 waits
    exact ⟨(), unbegun_reply disturbed.1 request, stays, kept.trans disturbed.2⟩
  obtain ⟨a, h, _, ran, ended, _, kept⟩ := obeys.run (s := surroundings plan worker)
    (fun h _ => Stuck worker w h) replies
    (fun h _ nanos stuck => stuck.spares (h.world.wait_spares nanos)) (w := start w) ⟨held, rfl⟩
  exact ⟨a, h, ran, ended, kept⟩

variable {s : RelaySettings} {r : Record}

/-- What a call with a record has committed when it is over. -/
def Commits (s : RelaySettings) (r : Record) (w : World) (outcome : Except RelayError Outcome)
    (h : Hindered) : Prop :=
  h.world.log.commitLog = w.log.commitLog ++
    if Record.leavesOpen outcome then [] else [OffsetCommit.forRecord r s.group]

/-- A unit that settles has committed what its outcome says. -/
theorem Settles.commits {outcome : Except RelayError Outcome} {h : Hindered}
    (settles : Settles s r worker w outcome h) : Commits s r w outcome h := by
  unfold Hindered.Commits
  cases outcome with
  | error e =>
      obtain ⟨_, same, _⟩ := settles.untouched (.inr ⟨e, rfl⟩)
      exact same.trans (List.append_nil _).symm
  | ok done =>
      cases done with
      | failed =>
          obtain ⟨_, same, _⟩ := settles.untouched (.inl rfl)
          exact same.trans (List.append_nil _).symm
      | processed => exact (settles.whole .processed rfl nofun).2.1
      | deadLettered => exact (settles.whole .deadLettered rfl nofun).2.1

/-- A worker that cannot begin a transaction commits nothing. -/
theorem commits_of_blocked {outcome : Except RelayError Outcome} {h : Hindered}
    (failed : ∃ e, outcome = .error e) (same : h.world.log.commitLog = w.log.commitLog) :
    Commits s r w outcome h := by
  obtain ⟨e, rfl⟩ := failed
  exact same.trans (List.append_nil _).symm

/-- A record that is handled is committed as the outcome says, whatever goes wrong. -/
theorem handle_commits (s : RelaySettings) (r : Record) (worker : Nat)
    (plan : Nat → List Disturbance) (w : World) :
    ∃ outcome h, (r.handle s).run (surroundings plan worker) (start w) = (some outcome, h) ∧
      Commits s r w outcome h := by
  cases held : w.transaction? worker .results with
  | none =>
      obtain ⟨outcome, h, v, ran, finished, shows⟩ := ends_of_obeys plan
        (shows_start (s := s) (r := r) held) (Record.handle_obeys rfl (.inl rfl))
      exact ⟨outcome, h, ran, (settles_of_finished shows finished).commits⟩
  | some t =>
      obtain ⟨outcome, h, ran, failed, same⟩ :=
        run_blocked plan Record.handle_blocked (Option.isSome_of_mem held)
      exact ⟨outcome, h, ran, commits_of_blocked failed same⟩

/-- A record that is dead-lettered is committed as the outcome says, whatever goes wrong. -/
theorem deadLetter_commits (s : RelaySettings) (r : Record) (reason : DeadLetterReason)
    (worker : Nat) (plan : Nat → List Disturbance) (w : World) :
    ∃ result h, (r.deadLetter s reason).run (surroundings plan worker) (start w) =
      (some result, h) ∧ Commits s r w (result.map fun _ => .deadLettered) h := by
  cases held : w.transaction? worker .results with
  | none =>
      obtain ⟨result, h, v, ran, finished, shows⟩ := ends_of_obeys plan
        (shows_start (s := s) (r := r) held) (Record.deadLetter_obeys reason rfl (.inl rfl))
      exact ⟨result, h, ran, (settles_of_finished shows finished).commits⟩
  | some t =>
      obtain ⟨result, h, ran, ⟨e, rfl⟩, same⟩ :=
        run_blocked plan (Record.deadLetter_blocked reason) (Option.isSome_of_mem held)
      exact ⟨_, h, ran, commits_of_blocked ⟨e, rfl⟩ same⟩

end Hindered

/-- A call of a worker with a record, which is worked on or set aside, and what goes wrong before
each of the calls that it makes in turn. -/
structure Errand where
  worker : Nat
  settings : RelaySettings
  record : Record
  aside : Option DeadLetterReason
  plan : Nat → List Disturbance

namespace Errand

/-- How the call may end. A record that is set aside is not enriched and has no result. -/
def endings (a : Errand) : List Ending :=
  if a.aside.isNone then [.processed, .deadLettered, .unenriched, .uncommitted, .refused]
  else [.deadLettered, .uncommitted, .refused]

/-- Makes the call. -/
def perform (a : Errand) (w : World) : Option (Except RelayError Outcome) × Hindered :=
  match a.aside with
  | none => (a.record.handle a.settings).run (Hindered.surroundings a.plan a.worker) (.start w)
  | some reason =>
    let (result, h) := (a.record.deadLetter a.settings reason).run
      (Hindered.surroundings a.plan a.worker) (.start w)
    (result.map fun result => result.map fun _ => .deadLettered, h)

/-- The world after some calls, one after the other. -/
def after (w : World) (errands : List Errand) : World :=
  errands.foldl (fun w a => (a.perform w).2.world) w

/-- What is known once a call is over. -/
structure Over (a : Errand) (w : World) (outcome : Except RelayError Outcome) (h : Hindered)
    (e : Ending) : Prop where
  ending : e ∈ a.endings
  fits : e.Fits outcome
  counted : ∀ other, h.world.counters.ended other =
    w.counters.ended other + if e = other then 1 else 0
  commits : h.world.log.commitLog = w.log.commitLog ++
    e.commits (OffsetCommit.forRecord a.record a.settings.group)

/-- A run that has taken one ending down, and has committed what its outcome says. -/
theorem over_of_run {a : Errand} {w : World} {outcome : Except RelayError Outcome} {h : Hindered}
    {e : Ending} (ending : e ∈ a.endings) (fits : e.Fits outcome)
    (counts : ∀ other, h.world.counters.ended other =
      w.counters.ended other + ([] ++ [e]).count other)
    (commits : Hindered.Commits a.settings a.record w outcome h) : a.Over w outcome h e := by
  refine ⟨ending, fits, fun other => ?_, ?_⟩
  · rw [counts, List.nil_append, List.count_singleton]
    simp only [beq_iff_eq]
  · rw [Ending.commits_of_fits _ fits]
    exact commits

/-- Each call comes to an end, whatever goes wrong before its own calls. -/
theorem perform_over (a : Errand) (w : World) :
    ∃ outcome h e, a.perform w = (some outcome, h) ∧ a.Over w outcome h e := by
  unfold Errand.perform
  cases aside : a.aside with
  | none =>
      obtain ⟨outcome, h, ran, commits⟩ :=
        Hindered.handle_commits a.settings a.record a.worker a.plan w
      obtain ⟨other, last, counted, same, ⟨e, rfl, fits⟩, counts⟩ :=
        Hindered.run_tally a.worker a.plan w (a.record.handle_counts (s := a.settings))
      cases ran.symm.trans same
      refine ⟨outcome, h, e, ran, over_of_run ?_ fits counts commits⟩
      rw [Errand.endings, aside, Option.isNone_none, if_pos rfl]
      cases e <;> decide
  | some reason =>
      obtain ⟨result, h, ran, commits⟩ :=
        Hindered.deadLetter_commits a.settings a.record reason a.worker a.plan w
      obtain ⟨other, last, counted, same, ⟨e, rfl, fits⟩, counts⟩ :=
        Hindered.run_tally a.worker a.plan w (a.record.deadLetter_counts (s := a.settings) reason)
      cases ran.symm.trans same
      refine ⟨result.map fun _ => .deadLettered, h, e, ?_, over_of_run ?_ fits counts commits⟩
      · simp only [ran, Option.map_some]
      · rw [Errand.endings, aside, Option.isNone_some, if_neg Bool.false_ne_true]
        cases e with
        | processed | unenriched => cases result <;> cases fits
        | deadLettered | uncommitted | refused => decide

/-- A call that is counted with a result or as a dead letter has committed one offset, and any other
none. -/
theorem Over.balance {a : Errand} {w : World} {outcome : Except RelayError Outcome} {h : Hindered}
    {e : Ending} (known : a.Over w outcome h e) :
    h.world.counters.processed + h.world.counters.deadLettered =
      w.counters.processed + w.counters.deadLettered +
        (e.commits (OffsetCommit.forRecord a.record a.settings.group)).length := by
  have processed := known.counted .processed
  have deadLettered := known.counted .deadLettered
  simp only [Counters.ended] at processed deadLettered
  rw [processed, deadLettered]
  cases e with
  | processed => exact Nat.add_right_comm ..
  | deadLettered | unenriched | uncommitted | refused => rfl

/-- The commits are as many as the endings that commit, after any calls. -/
theorem balance (w : World) (errands : List Errand) :
    ∃ added, (after w errands).log.commitLog = w.log.commitLog ++ added ∧
      (after w errands).counters.processed + (after w errands).counters.deadLettered =
        w.counters.processed + w.counters.deadLettered + added.length := by
  unfold Errand.after
  induction errands generalizing w with
  | nil => exact ⟨[], (List.append_nil _).symm, rfl⟩
  | cons a rest ih =>
      obtain ⟨outcome, h, e, ran, known⟩ := a.perform_over w
      obtain ⟨later, grown, counted⟩ := ih h.world
      rw [List.foldl_cons, ran]
      refine ⟨e.commits (OffsetCommit.forRecord a.record a.settings.group) ++ later, ?_, ?_⟩
      · rw [grown, known.commits, List.append_assoc]
      · rw [counted, known.balance, List.length_append, Nat.add_assoc]

/-- Whatever goes wrong, every call with a record comes to an end, and of the counts of endings just
one rises, by one: one that fits the outcome and, for a record that is set aside, is neither that of
a result nor that of a failed enrichment. The offset of the record is committed if it is counted
with a result or as a dead letter, and else none is: after any calls, as many records more are
counted in these two ways as offsets were committed. -/
theorem counted_once (w : World) :
    (∀ a : Errand, ∃ outcome h, a.perform w = (some outcome, h) ∧ ∃ e ∈ a.endings, e.Fits outcome ∧
      (∀ other, h.world.counters.ended other =
        w.counters.ended other + if e = other then 1 else 0) ∧
      h.world.log.commitLog = w.log.commitLog ++
        e.commits (OffsetCommit.forRecord a.record a.settings.group)) ∧
    ∀ errands, ∃ added, (after w errands).log.commitLog = w.log.commitLog ++ added ∧
      (after w errands).counters.processed + (after w errands).counters.deadLettered =
        w.counters.processed + w.counters.deadLettered + added.length := by
  refine ⟨fun a => ?_, balance w⟩
  obtain ⟨outcome, h, e, ran, known⟩ := a.perform_over w
  exact ⟨outcome, h, ran, e, known.ending, known.fits, known.counted, known.commits⟩

end Errand

end AlertRelay
