import AlertRelay.Proofs.Relay.Handling

/-!
# What relay work owes to the store and the alerts topic

A worker that has stored a row owes its publication until it has published it or has taken the row
out again (`AlertView`). Relay work keeps to `RelaySettings.alertDiscipline`: it stores a row only
while nothing is owed, takes out no row but the one that is owed, publishes what it owes or what was
published before, and writes results only of events whose alert is published.
-/

namespace AlertRelay

/-- What a worker knows about the alerts that it writes. -/
structure AlertView where
  results : Option Transaction
  alerts : Option Transaction
  /-- The event whose row was stored and is not published yet. -/
  pending : Option String
  /-- Events that are known to have an alert on the alerts topic. -/
  published : List String

namespace RelayCall

/-- The event whose row is stored and not published, after a call. -/
def pendingAfter (pending : Option String) : (request : RelayCall) → request.Reply → Option String
  | .insertAlert a, .ok true => some a.eventId
  | .deleteAlert _, .ok _ => none
  | .commit .alerts, .ok _ => none
  | _, _ => pending

/-- The events that are known to be published, after a call. -/
def publishedAfter (pending : Option String) (published : List String) :
    (request : RelayCall) → request.Reply → List String
  | .insertAlert a, .ok false => a.eventId :: published
  | .commit .alerts, .ok _ => pending.toList ++ published
  | _, _ => published

/-- Whether a row could not be taken out. -/
def failsDelete : (request : RelayCall) → request.Reply → Bool
  | .deleteAlert _, .error _ => true
  | _, _ => false

/-- Calls that concern neither the results nor the rows. -/
def Calm (s : RelaySettings) : RelayCall → Prop
  | .abort .alerts => True
  | .sendDeadLetter m => m.topic = s.deadLetterTopic
  | request => request.Quiet

theorem Quiet.calm {s : RelaySettings} {request : RelayCall} (quiet : request.Quiet) :
    request.Calm s := by
  cases request with
  | begin | produce | sendOffsets | commit | abort | checkOffset | recordOffset
  | sendDeadLetter => exact quiet.elim
  | _ => exact quiet

end RelayCall

namespace AlertView

/-- What a producer holds. -/
def held (v : AlertView) : Lane → Option Transaction
  | .results => v.results
  | .alerts => v.alerts

/-- The view after a call and its reply. -/
def note (v : AlertView) (request : RelayCall) (reply : request.Reply) : AlertView where
  results := RelayCall.transactionAfter .results v.results request reply
  alerts := RelayCall.transactionAfter .alerts v.alerts request reply
  pending := request.pendingAfter v.pending reply
  published := request.publishedAfter v.pending v.published reply

/-- Whether a later view has the same result in the making, and knows of no fewer events. -/
structure Onward (v later : AlertView) : Prop where
  results : later.results = v.results
  published : v.published ⊆ later.published

/-- Whether a later view differs in nothing but the open alert. -/
structure Still (v later : AlertView) : Prop where
  results : later.results = v.results
  pending : later.pending = v.pending
  published : later.published = v.published

/-- Whether nothing is owed in a later view, and no fewer events are known. -/
structure Clear (v later : AlertView) : Prop where
  pending : later.pending = none
  published : v.published ⊆ later.published

theorem Onward.refl (v : AlertView) : v.Onward v := ⟨rfl, fun _ known => known⟩

theorem Onward.trans {a b c : AlertView} (first : a.Onward b) (second : b.Onward c) : a.Onward c :=
  ⟨second.results.trans first.results, fun _ known => second.published (first.published known)⟩

theorem Still.trans {a b c : AlertView} (first : a.Still b) (second : b.Still c) : a.Still c :=
  ⟨second.results.trans first.results, second.pending.trans first.pending,
    second.published.trans first.published⟩

theorem Still.onward {v later : AlertView} (still : v.Still later) : v.Onward later :=
  ⟨still.results, fun _ known => still.published ▸ known⟩

/-- A calm call changes nothing in the view but the open alert. -/
theorem note_still {s : RelaySettings} (v : AlertView) {request : RelayCall} (calm : request.Calm s)
    (reply : request.Reply) : v.Still (v.note request reply) := by
  cases request with
  | abort lane =>
      cases lane with
      | results => exact calm.elim
      | alerts => cases reply <;> exact ⟨rfl, rfl, rfl⟩
  | begin | produce | sendOffsets | commit | insertAlert | deleteAlert | checkOffset
  | recordOffset => exact calm.elim
  | _ => exact ⟨rfl, rfl, rfl⟩

end AlertView

namespace RelaySettings

/-- Whether a message may be written beside the alerts: a dead letter, or the result of an event
that is published. -/
def Backed (s : RelaySettings) (published : List String) (m : Message) : Prop :=
  m.topic = s.deadLetterTopic ∨
    m.topic = s.outputTopic ∧ ∃ id ∈ published, m.key = some (utf8 id)

/-- Whether an open transaction holds the alert of an event that is owed or published already. -/
def Owed (s : RelaySettings) (v : AlertView) (t : Transaction) : Prop :=
  ∃ id payload, t.messages = [.plain s.alertsTopic (some (utf8 id)) payload] ∧
    (v.pending = some id ∨ v.pending = none ∧ id ∈ v.published)

/-- Which calls are in order, as far as alerts and results are concerned. -/
def AllowsAlerts (s : RelaySettings) (v : AlertView) : RelayCall → Prop
  | .insertAlert _ => v.pending = none
  | .deleteAlert eventId => v.pending = some eventId
  | .commit .alerts => ∃ t, v.alerts = some t ∧ s.Owed v t
  | .commit .results => ∃ t, v.results = some t ∧ ∀ m ∈ t.messages, s.Backed v.published m
  | .sendDeadLetter m => m.topic = s.deadLetterTopic
  | _ => True

/-- How a worker writes alerts and results while rows can be taken out. -/
def alertDiscipline (s : RelaySettings) : Discipline Interface.relay AlertView where
  allows := s.AllowsAlerts
  shows v request reply after := request.failsDelete reply = false ∧ after = v.note request reply

variable {s : RelaySettings} {v : AlertView} {α : Type}

theorem obeys_ask {request : RelayCall} {f : request.Reply → RelayProgram α}
    {ends : α → AlertView → Prop} (allowed : s.AllowsAlerts v request)
    (next : ∀ reply, request.failsDelete reply = false →
      (f reply).Obeys s.alertDiscipline ends (v.note request reply)) :
    (request.ask >>= f).Obeys s.alertDiscipline ends v :=
  ⟨allowed, fun reply _ shown => shown.2 ▸ next reply shown.1⟩

/-- Calm calls are always in order, and change nothing but the open alert. -/
theorem obeys_of_calm {p : RelayProgram α} (asks : p.Asks (RelayCall.Calm s)) (v : AlertView) :
    p.Obeys s.alertDiscipline (fun _ after => v.Still after) v := by
  refine asks.obeys v.Still (fun before request _ calm => ?_) ?_ ⟨rfl, rfl, rfl⟩
  · cases request with
    | insertAlert | deleteAlert | commit => exact calm.elim
    | sendDeadLetter m => exact calm
    | _ => trivial
  · rintro before request reply _ still calm ⟨_, rfl⟩
    exact still.trans (before.note_still calm reply)

/-- A call that concerns neither results nor rows, and what follows it. -/
theorem obeys_ask_calm {request : RelayCall} {f : request.Reply → RelayProgram α}
    {ends : α → AlertView → Prop} (calm : request.Calm s)
    (next : ∀ reply after, v.Still after → (f reply).Obeys s.alertDiscipline ends after) :
    (request.ask >>= f).Obeys s.alertDiscipline ends v :=
  (obeys_of_calm (.call calm fun _ => .done _) v).bind fun reply after still =>
    next reply after still

theorem obeys_of_quiet {p : RelayProgram α} (asks : p.Asks RelayCall.Quiet) (v : AlertView) :
    p.Obeys s.alertDiscipline (fun _ after => v.Still after) v :=
  obeys_of_calm (asks.weaken fun _ quiet => quiet.calm) v

end RelaySettings

theorem DeadLetter.message_topic (topic : String) (millis : Int) (d : DeadLetter) :
    (d.message topic millis).topic = topic := by
  unfold DeadLetter.message
  cases d.origin with
  | none => rfl
  | some origin => rfl

namespace Enrichment

variable {s : RelaySettings} {v : AlertView} (e : Enrichment)

/-- Whether an emission has left nothing owed. -/
structure Emitted (v : AlertView) (emitted : Except BrokerError Emission) (after : AlertView) :
    Prop where
  onward : v.Onward after
  pending : after.pending = none
  published : ∀ alertId inserted, emitted = .ok (.published alertId inserted) →
    e.event.id ∈ after.published

/-- To quarantine an alert changes nothing that is owed. -/
theorem quarantine_clears (reason : DeadLetterReason) (compensated : Bool) (v : AlertView) :
    (e.quarantine s reason compensated).Obeys s.alertDiscipline
      (fun emission after => emission = .quarantined reason compensated ∧ v.Still after) v := by
  have calm : ((DeadLetter.ofPayload (some e.key) e.payload reason).route s.deadLetterTopic).Asks
      (RelayCall.Calm s) :=
    DeadLetter.route_asks trivial (fun _ => DeadLetter.message_topic ..) trivial trivial
  exact (RelaySettings.obeys_of_calm calm v).bind fun _ _ still => ⟨rfl, still⟩

/-- What is published is owed no longer; otherwise nothing has changed. -/
theorem publish_clears (opened : v.alerts = some ⟨[], []⟩)
    (owed : v.pending = some e.event.id ∨ v.pending = none ∧ e.event.id ∈ v.published) :
    (e.publish s.alertsTopic).Obeys s.alertDiscipline (fun published after =>
      match published with
      | .ok () => v.Onward after ∧ after.pending = none ∧ e.event.id ∈ after.published
      | .error _ => v.Still after) v := by
  refine RelaySettings.obeys_ask trivial fun produced _ => ?_
  cases produced with
  | error cause => exact ⟨rfl, rfl, rfl⟩
  | ok =>
      have holds : (v.note (.produce .alerts (.plain s.alertsTopic (some e.key) e.payload))
          (.ok ())).alerts = some ⟨[.plain s.alertsTopic (some e.key) e.payload], []⟩ := by
        simp only [AlertView.note, RelayCall.transactionAfter, ↓reduceIte, opened, Option.map_some,
          List.nil_append]
      refine ⟨⟨_, holds, e.event.id, e.payload, rfl, owed⟩, ?_⟩
      rintro committed _ ⟨_, rfl⟩
      cases committed with
      | error cause => exact ⟨rfl, rfl, rfl⟩
      | ok =>
          refine ⟨⟨rfl, fun _ known => List.mem_append_right _ known⟩, rfl, ?_⟩
          change e.event.id ∈ v.pending.toList ++ v.published
          rcases owed with pending | ⟨_, known⟩
          · rw [pending]
            exact List.mem_append_left _ (List.mem_singleton_self _)
          · exact List.mem_append_right _ known

/-- A row that was stored and not published is taken out again. -/
theorem compensate_clears {inserted : Bool}
    (owed : v.pending = if inserted then some e.event.id else none) :
    (e.compensate inserted).Obeys s.alertDiscipline
      (fun _ after => v.Onward after ∧ after.pending = none) v := by
  cases inserted with
  | false => exact ⟨.refl v, owed⟩
  | true =>
      refine RelaySettings.obeys_ask owed fun deleted kept => ?_
      cases deleted with
      | error cause => cases kept
      | ok count => exact ⟨⟨rfl, fun _ known => known⟩, rfl⟩

/-- An emission that ends in quarantine leaves nothing owed. -/
theorem quarantine_emitted {reason : DeadLetterReason} {compensated : Bool} {before : AlertView}
    (onward : v.Onward before) (free : before.pending = none) :
    (e.quarantine s reason compensated >>= fun emission =>
        (Program.done (.ok emission) : RelayProgram (Except BrokerError Emission))).Obeys
      s.alertDiscipline (e.Emitted v) before := by
  refine (e.quarantine_clears reason compensated before).bind fun emission after ended => ?_
  obtain ⟨rfl, still⟩ := ended
  exact ⟨onward.trans still.onward, still.pending.trans free, fun _ _ is => by cases is⟩

/-- Emitting an alert leaves nothing owed, whether the alert is published or not. -/
theorem emit_clears (free : v.pending = none) :
    (e.emit s).Obeys s.alertDiscipline (e.Emitted v) v := by
  refine RelaySettings.obeys_ask trivial fun alertId _ =>
    RelaySettings.obeys_ask trivial fun begun _ => ?_
  cases begun with
  | error cause => exact ⟨.refl v, free, fun _ _ is => by cases is⟩
  | ok opened =>
      refine RelaySettings.obeys_ask free fun stored _ => ?_
      cases stored with
      | error cause =>
          refine RelaySettings.obeys_ask_calm trivial fun _ first one => ?_
          refine RelaySettings.obeys_ask_calm trivial fun _ second two => ?_
          refine RelaySettings.obeys_ask_calm trivial fun _ third three => ?_
          have still := (one.trans two).trans three
          refine e.quarantine_emitted ?_ (still.pending.trans free)
          exact ⟨still.results, still.onward.published⟩
      | ok inserted =>
          refine RelaySettings.obeys_ask trivial fun seen _ => ?_
          -- What is owed from here on depends on whether the row was there before.
          generalize start : (((v.note .freshId alertId).note (.begin .alerts) (.ok opened)).note
            (.insertAlert (e.alert alertId)) (.ok inserted)).note (.observe .insert true) seen = w
          have opened : w.alerts = some ⟨[], []⟩ := by
            subst start
            rfl
          have onward : v.Onward w := by
            subst start
            cases inserted with
            | true => exact ⟨rfl, fun _ known => known⟩
            | false => exact ⟨rfl, fun _ known => List.mem_cons_of_mem _ known⟩
          have owed : w.pending = if inserted then some e.event.id else none := by
            subst start
            cases inserted with
            | true => rfl
            | false => exact free
          have known : inserted = false → e.event.id ∈ w.published := by
            subst start
            rintro rfl
            exact List.mem_cons_self
          clear start
          refine (e.publish_clears opened ?_).bind fun published later ended => ?_
          · cases inserted with
            | true => exact .inl owed
            | false => exact .inr ⟨owed, known rfl⟩
          · cases published with
            | ok =>
                refine RelaySettings.obeys_ask_calm trivial fun _ last still => ?_
                obtain ⟨further, cleared, there⟩ := ended
                exact ⟨(onward.trans further).trans still.onward, still.pending.trans cleared,
                  fun _ _ _ => still.onward.published there⟩
            | error cause =>
                refine RelaySettings.obeys_ask_calm trivial fun _ first one => ?_
                refine RelaySettings.obeys_ask_calm trivial fun _ second two => ?_
                refine RelaySettings.obeys_ask_calm trivial fun _ third three => ?_
                have still := ((ended.trans one).trans two).trans three
                refine (e.compensate_clears (still.pending.trans owed)).bind
                  fun compensated last cleared => ?_
                exact e.quarantine_emitted ((onward.trans still.onward).trans cleared.1) cleared.2

end Enrichment

namespace Record

variable {s : RelaySettings} {r : Record} {c : OffsetCommit} {v : AlertView}

/-- Whether the alert that earlier attempts have published is known to be. -/
def Kept (p : UnitProgress) (v : AlertView) : Prop :=
  ∀ alertId inserted, p.emission = some (.published alertId inserted) →
    ∃ e, p.enrichment = some e ∧ e.event.id ∈ v.published

theorem Kept.mono {p : UnitProgress} {later : AlertView} (kept : Kept p v)
    (grown : v.published ⊆ later.published) : Kept p later := by
  intro alertId inserted emitted
  obtain ⟨e, enriched, known⟩ := kept alertId inserted emitted
  exact ⟨e, enriched, grown known⟩

/-- To confirm a result whose messages are backed leaves nothing owed. -/
theorem confirm_clears {t : Transaction} (free : v.pending = none) (held : v.results = some t)
    (backed : ∀ m ∈ t.messages, s.Backed v.published m) :
    c.confirm.Obeys s.alertDiscipline (fun _ after => v.Clear after) v := by
  refine RelaySettings.obeys_ask trivial fun sent _ => ?_
  cases sent with
  | error cause => exact ⟨free, fun _ known => known⟩
  | ok =>
      have holds : (v.note (.sendOffsets .results [c]) (.ok ())).results =
          some { t with offsets := t.offsets ++ [c] } := by
        simp only [AlertView.note, RelayCall.transactionAfter, ↓reduceIte, held, Option.map_some]
      refine RelaySettings.obeys_ask ⟨_, holds, backed⟩ fun committed _ => ?_
      cases committed with
      | error cause => exact ⟨free, fun _ known => known⟩
      | ok => exact ⟨free, fun _ known => known⟩

theorem produceAndConfirm_clears {m : Message} (free : v.pending = none)
    (held : v.results = some ⟨[], []⟩) (backed : s.Backed v.published m) :
    (produceAndConfirm m c).Obeys s.alertDiscipline (fun _ after => v.Clear after) v := by
  refine RelaySettings.obeys_ask trivial fun produced _ => ?_
  cases produced with
  | error cause => exact ⟨free, fun _ known => known⟩
  | ok =>
      have holds : (v.note (.produce .results m) (.ok ())).results = some ⟨[m], []⟩ := by
        simp only [AlertView.note, RelayCall.transactionAfter, ↓reduceIte, held, Option.map_some,
          List.nil_append]
      have still : (v.note (.produce .results m) (.ok ())).pending = none := free
      refine (confirm_clears still holds ?_).mono fun _ _ clear => ⟨clear.pending, clear.published⟩
      intro other one
      rw [List.mem_singleton.mp one]
      exact backed

theorem setAside_clears (reason : DeadLetterReason) (free : v.pending = none)
    (held : v.results = some ⟨[], []⟩) :
    (r.setAside s reason c).Obeys s.alertDiscipline (fun _ after => v.Clear after) v :=
  RelaySettings.obeys_ask trivial fun _ _ =>
    produceAndConfirm_clears free held (.inl (DeadLetter.message_topic ..))

/-- To conclude the work on an event leaves nothing owed. -/
theorem conclude_clears {e : Enrichment} {emission : Emission} (free : v.pending = none)
    (held : v.results = some ⟨[], []⟩) (kept : Kept ⟨some e, some emission⟩ v) :
    (conclude s c e emission).Obeys s.alertDiscipline (fun _ after => v.Clear after) v := by
  cases emission with
  | quarantined reason compensated =>
      exact (confirm_clears free held fun _ none => by cases none).bind fun _ _ clear => clear
  | published alertId inserted =>
      obtain ⟨_, same, known⟩ := kept alertId inserted rfl
      cases same
      exact (produceAndConfirm_clears free held (.inr ⟨rfl, e.event.id, known, rfl⟩)).bind
        fun _ _ clear => clear

/-- To enrich an event leaves what is owed alone. -/
theorem enrichOnce_clears {raw : RawEvent} {p : UnitProgress} (kept : Kept p v) :
    (enrichOnce s raw p).Obeys s.alertDiscipline (fun enriched after => v.Still after ∧
      ∀ e, enriched = .ok e → Kept ⟨some e, p.emission⟩ after) v := by
  unfold Record.enrichOnce
  cases achieved : p.enrichment with
  | some known =>
      refine ⟨⟨rfl, rfl, rfl⟩, fun e is alertId inserted emitted => ?_⟩
      obtain ⟨other, same, there⟩ := kept alertId inserted emitted
      cases is
      rw [achieved] at same
      exact ⟨other, same, there⟩
  | none =>
      refine (RelaySettings.obeys_of_quiet (raw.enrich_asks s.labelerRetry) v).mono
        fun enriched after still => ⟨still, fun e _ alertId inserted emitted => ?_⟩
      obtain ⟨other, same, _⟩ := kept alertId inserted emitted
      rw [achieved] at same
      cases same

/-- To emit an alert at most once leaves nothing owed. -/
theorem emitOnce_clears {e : Enrichment} {p : UnitProgress} (free : v.pending = none)
    (kept : Kept ⟨some e, p.emission⟩ v) :
    (emitOnce s e p).Obeys s.alertDiscipline (fun emitted after => v.Onward after ∧
      after.pending = none ∧ ∀ emission, emitted = .ok emission →
        Kept ⟨some e, some emission⟩ after) v := by
  unfold Record.emitOnce
  cases achieved : p.emission with
  | some known =>
      refine ⟨.refl v, free, fun emission is => ?_⟩
      cases is
      rw [← achieved]
      exact kept
  | none =>
      refine (e.emit_clears free).mono fun emitted after ended =>
        ⟨ended.onward, ended.pending, fun emission is alertId inserted same => ?_⟩
      cases same
      exact ⟨e, rfl, ended.published alertId inserted is⟩

/-- An attempt inside its transaction leaves nothing owed. -/
theorem work_clears {p : UnitProgress} (free : v.pending = none) (held : v.results = some ⟨[], []⟩)
    (kept : Kept p v) :
    (r.work s c p).Obeys s.alertDiscipline
      (fun made after => after.pending = none ∧ Kept made.2 after) v := by
  unfold Record.work
  cases r.rawEvent? with
  | none =>
      exact (setAside_clears .undecodable free held).bind fun _ _ clear =>
        ⟨clear.pending, kept.mono clear.published⟩
  | some raw =>
      refine (enrichOnce_clears kept).bind fun enriched later ended => ?_
      obtain ⟨still, found⟩ := ended
      cases enriched with
      | error cause =>
          exact ⟨still.pending.trans free, kept.mono still.onward.published⟩
      | ok e =>
          refine (emitOnce_clears (still.pending.trans free) (found e rfl)).bind
            fun emitted last ended => ?_
          obtain ⟨onward, cleared, out⟩ := ended
          cases emitted with
          | error cause => exact ⟨cleared, (found e rfl).mono onward.published⟩
          | ok emission =>
              have held := (onward.results.trans still.results).trans held
              exact (conclude_clears cleared held (out emission rfl)).bind fun _ _ clear =>
                ⟨clear.pending, (out emission rfl).mono clear.published⟩

/-- An attempt at a record leaves nothing owed. -/
theorem attemptWork_clears {p : UnitProgress} (free : v.pending = none) (kept : Kept p v) :
    (r.attemptWork s c p).Obeys s.alertDiscipline
      (fun made after => after.pending = none ∧ Kept made.2 after) v := by
  refine RelaySettings.obeys_ask trivial fun begun _ => ?_
  cases begun with
  | error cause => exact ⟨free, kept⟩
  | ok =>
      have begun : (v.note (.begin .results) (.ok ())).pending = none := free
      refine (work_clears begun rfl kept).bind fun made later ended => ?_
      obtain ⟨outcome, achieved⟩ := made
      cases left : leavesOpen outcome with
      | true =>
          simp only [left, ↓reduceIte]
          exact RelaySettings.obeys_ask trivial fun _ _ => ended
      | false =>
          simp only [left, Bool.false_eq_true, ↓reduceIte]
          exact ended

theorem attemptDeadLetter_clears (reason : DeadLetterReason) (free : v.pending = none) :
    (r.attemptDeadLetter s reason c).Obeys s.alertDiscipline
      (fun _ after => after.pending = none) v := by
  refine RelaySettings.obeys_ask trivial fun begun _ => ?_
  cases begun with
  | error cause => exact free
  | ok =>
      have begun : (v.note (.begin .results) (.ok ())).pending = none := free
      refine (setAside_clears reason begun rfl).bind fun written later clear => ?_
      cases written with
      | ok => exact clear.pending
      | error e => exact RelaySettings.obeys_ask trivial fun _ _ => clear.pending

theorem settle_clears (outcome : Outcome) (free : v.pending = none) :
    (settle c outcome).Obeys s.alertDiscipline (fun _ after => after.pending = none) v := by
  cases outcome with
  | failed => exact RelaySettings.obeys_ask trivial fun _ _ => free
  | processed | deadLettered =>
      exact RelaySettings.obeys_ask trivial fun _ _ => RelaySettings.obeys_ask trivial
        fun _ _ => free

/-- Working on a record leaves nothing owed. -/
theorem handle_clears (free : v.pending = none) :
    (r.handle s).Obeys s.alertDiscipline (fun _ after => after.pending = none) v := by
  refine RelaySettings.obeys_ask trivial fun checked _ => ?_
  cases checked with
  | error e => exact RelaySettings.obeys_ask trivial fun _ _ => free
  | ok =>
      refine Program.Obeys.bind (Program.attempt_obeys s.retry
        (fun p w => w.pending = none ∧ Kept p w) (fun _ w => w.pending = none)
        (fun p w ready => ?_) (fun p w ready => ?_) UnitProgress.none _ ?_) fun made w ended => ?_
      · refine (RelaySettings.obeys_of_quiet asks_share w).mono fun _ later still => ?_
        exact ⟨still.pending.trans ready.1, ready.2.mono still.onward.published⟩
      · exact (attemptWork_clears ready.1 ready.2).mono fun made later ended =>
          ⟨ended.1, fun _ _ _ => ended⟩
      · exact ⟨free, fun _ _ emitted => by cases emitted⟩
      · obtain ⟨⟨outcome, attempts⟩, achieved⟩ := made
        cases outcome with
        | ok done => exact (settle_clears done ended).bind fun _ _ cleared => cleared
        | error e => exact RelaySettings.obeys_ask trivial fun _ _ => ended

/-- To dead-letter a record leaves nothing owed. -/
theorem deadLetter_clears (reason : DeadLetterReason) (free : v.pending = none) :
    (r.deadLetter s reason).Obeys s.alertDiscipline (fun _ after => after.pending = none) v := by
  refine RelaySettings.obeys_ask trivial fun checked _ => ?_
  cases checked with
  | error e => exact RelaySettings.obeys_ask trivial fun _ _ => free
  | ok =>
      refine Program.Obeys.bind (Program.attemptPlain_obeys s.retry
        (fun w => w.pending = none) (fun _ w => w.pending = none)
        (fun w ready => ?_) (fun w ready => ?_) _ ?_) fun made w ended => ?_
      · exact (RelaySettings.obeys_of_quiet asks_share w).mono fun _ later still =>
          still.pending.trans ready
      · exact (attemptDeadLetter_clears reason ready).mono fun _ later cleared =>
          ⟨cleared, fun _ _ _ => cleared⟩
      · exact free
      · obtain ⟨outcome, attempts⟩ := made
        cases outcome with
        | ok => exact (settle_clears .deadLettered ended).bind fun _ _ cleared => cleared
        | error e => exact RelaySettings.obeys_ask trivial fun _ _ => ended

end Record

end AlertRelay
