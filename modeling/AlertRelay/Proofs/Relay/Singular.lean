import AlertRelay.Proofs.Relay.Emission

/-!
# What a unit of work does only once

A unit of work scores its event once, stores one row at most, publishes one alert at most and sends
one dead letter at most, however often it is attempted. `OnceView` is what a worker remembers of
that, and `RelaySettings.onceDiscipline` says what is in order then. Before the event is labeled
nothing is written for it, and from then on nothing is written for another event.
-/

namespace AlertRelay

/-- What has become of the row that a unit of work is to store. -/
inductive RowShare where
  /-- The store was not asked yet. -/
  | untried
  /-- The store was asked and has failed. -/
  | refused
  /-- The event had a row already. -/
  | found
  | stored
  /-- The row was stored and is taken out again. -/
  | removed
  deriving DecidableEq

/-- What a worker remembers of a unit of work, so as to do nothing twice. -/
structure OnceView where
  results : Option Transaction
  alerts : Option Transaction
  scored : Bool
  /-- The event that was labeled. -/
  event : Option String
  row : RowShare
  published : Bool
  lettered : Bool
  /-- Whether anything was to be written. -/
  wrote : Bool

namespace RelayCall

/-- Calls that are to leave something behind in the store or in the log. -/
def writes : RelayCall → Bool
  | .produce _ _ | .sendOffsets _ _ | .commit _ => true
  | .insertAlert _ | .deleteAlert _ | .sendDeadLetter _ => true
  | _ => false

/-- Whether a call writes under the identifier of an event, if it writes under any. -/
def About (id : String) : RelayCall → Prop
  | .produce _ m | .sendDeadLetter m => m.key = some (utf8 id)
  | .insertAlert a => a.eventId = id
  | .deleteAlert eventId => eventId = id
  | _ => True

/-- Calls of which nothing is remembered. -/
def Idle : RelayCall → Prop
  | .begin _ | .produce _ _ | .sendOffsets _ _ | .commit _ | .abort _ => False
  | .insertAlert _ | .deleteAlert _ | .sendDeadLetter _ => False
  | .score _ | .label _ _ => False
  | _ => True

end RelayCall

namespace OnceView

/-- The view of a worker that enters a unit. -/
def enter (results alerts : Option Transaction) : OnceView :=
  ⟨results, alerts, false, none, .untried, false, false, false⟩

/-- What a producer holds. -/
def held (v : OnceView) : Lane → Option Transaction
  | .results => v.results
  | .alerts => v.alerts

/-- Whether an event is scored after a call. -/
def scoredAfter (scored : Bool) : RelayCall → Bool
  | .score _ => true
  | _ => scored

/-- The event that is labeled after a call. -/
def eventAfter (event : Option String) : (request : RelayCall) → request.Reply → Option String
  | .label e _, .ok _ => some e.id
  | _, _ => event

/-- What has become of the row after a call. -/
def rowAfter (row : RowShare) : (request : RelayCall) → request.Reply → RowShare
  | .insertAlert _, .ok true => .stored
  | .insertAlert _, .ok false => .found
  | .insertAlert _, .error _ => .refused
  | .deleteAlert _, .ok _ => .removed
  | _, _ => row

/-- Whether an alert is published after a call. -/
def publishedAfter (published : Bool) : (request : RelayCall) → request.Reply → Bool
  | .commit .alerts, .ok _ => true
  | _, _ => published

/-- Whether a dead letter was to be sent after a call. -/
def letteredAfter (lettered : Bool) : RelayCall → Bool
  | .sendDeadLetter _ => true
  | _ => lettered

/-- The view after a call and its reply. -/
def note (v : OnceView) (request : RelayCall) (reply : request.Reply) : OnceView where
  results := RelayCall.transactionAfter .results v.results request reply
  alerts := RelayCall.transactionAfter .alerts v.alerts request reply
  scored := scoredAfter v.scored request
  event := eventAfter v.event request reply
  row := rowAfter v.row request reply
  published := publishedAfter v.published request reply
  lettered := letteredAfter v.lettered request
  wrote := if request.writes then true else v.wrote

theorem held_note (v : OnceView) (request : RelayCall) (reply : request.Reply) (lane : Lane) :
    (v.note request reply).held lane =
      RelayCall.transactionAfter lane (v.held lane) request reply := by
  cases lane with
  | results => rfl
  | alerts => rfl

theorem note_idle (v : OnceView) {request : RelayCall} (idle : request.Idle)
    (reply : request.Reply) : v.note request reply = v := by
  cases request with
  | begin | produce | sendOffsets | commit | abort => exact idle.elim
  | insertAlert | deleteAlert | sendDeadLetter | score | label => exact idle.elim
  | _ => rfl

/-- Whether nothing of an emission has been done yet. -/
structure Unemitted (v : OnceView) : Prop where
  row : v.row = .untried
  published : v.published = false
  lettered : v.lettered = false

end OnceView

namespace RelaySettings

/-- Which calls are in order while nothing is to be done twice. Rows are stored only for events of
certain names. -/
def AllowsOnce (s : RelaySettings) (names : String → Prop) (v : OnceView) : RelayCall → Prop
  | .score _ => v.scored = false
  | .label _ _ => v.event = none ∧ v.wrote = false
  | .insertAlert a => v.row = .untried ∧ v.event = some a.eventId ∧ names a.eventId
  | .deleteAlert eventId => v.row = .stored ∧ v.event = some eventId
  | .produce .alerts m => ∃ id, v.event = some id ∧ m.key = some (utf8 id)
  | .produce .results m => ∀ id, v.event = some id → m.key = some (utf8 id)
  | .sendOffsets .alerts _ => False
  | .commit .alerts => v.published = false ∧ ∃ m, v.alerts = some ⟨[m], []⟩
  | .commit .results => ∃ t, v.results = some t ∧
      ∀ m ∈ t.messages, m.topic = s.outputTopic ∨ m.topic = s.deadLetterTopic
  | .sendDeadLetter m => v.lettered = false ∧ m.topic = s.deadLetterTopic ∧
      ∃ id, v.event = some id ∧ m.key = some (utf8 id)
  | _ => True

/-- How a worker does nothing twice. -/
def onceDiscipline (s : RelaySettings) (names : String → Prop) :
    Discipline Interface.relay OnceView where
  allows := s.AllowsOnce names
  shows v request reply after := after = v.note request reply

end RelaySettings

namespace OnceView

variable {s : RelaySettings} {names : String → Prop} {v : OnceView} {α : Type}

theorem obeys_ask {request : RelayCall} {f : request.Reply → RelayProgram α}
    {ends : α → OnceView → Prop} (allowed : s.AllowsOnce names v request)
    (next : ∀ reply, (f reply).Obeys (s.onceDiscipline names) ends (v.note request reply)) :
    (request.ask >>= f).Obeys (s.onceDiscipline names) ends v :=
  ⟨allowed, fun reply _ shown => shown ▸ next reply⟩

/-- A call of which nothing is remembered is always in order. -/
theorem obeys_ask_idle {request : RelayCall} {f : request.Reply → RelayProgram α}
    {ends : α → OnceView → Prop} (idle : request.Idle)
    (next : ∀ reply, (f reply).Obeys (s.onceDiscipline names) ends v) :
    (request.ask >>= f).Obeys (s.onceDiscipline names) ends v := by
  refine obeys_ask ?_ fun reply => ?_
  · cases request with
    | begin | produce | sendOffsets | commit | abort => exact idle.elim
    | insertAlert | deleteAlert | sendDeadLetter | score | label => exact idle.elim
    | _ => trivial
  · rw [v.note_idle idle reply]
    exact next reply

theorem obeys_share : RelayCall.share.ask.Obeys (s.onceDiscipline names) (fun _ after => after = v)
    v :=
  obeys_ask_idle (f := Program.done) trivial fun _ => rfl

end OnceView

/-- A dead letter keeps the key of its record. -/
theorem DeadLetter.message_key (topic : String) (millis : Int) (d : DeadLetter) :
    (d.message topic millis).key = d.key := by
  unfold DeadLetter.message
  cases d.origin with
  | none => rfl
  | some origin => rfl

/-! ## Enriching -/

namespace RawEvent

variable {s : RelaySettings} {names : String → Prop} {v : OnceView}

/-- An event that is labeled settles the unit; until then nothing is written. -/
theorem enrich_once (raw : RawEvent) (unscored : v.scored = false) (open_ : v.event = none)
    (blank : v.wrote = false) :
    (raw.enrich s.labelerRetry).Obeys (s.onceDiscipline names) (fun enriched after =>
      match enriched with
      | .ok e => (∃ fresh, raw.normalize fresh = .ok e.event) ∧
          after = { v with scored := true, event := some e.event.id }
      | .error _ => after.wrote = false) v := by
  refine OnceView.obeys_ask_idle trivial fun fresh => ?_
  cases normal : raw.normalize fresh with
  | error e => exact blank
  | ok event =>
      refine OnceView.obeys_ask unscored fun scored => ?_
      cases scored with
      | error e => exact blank
      | ok score =>
          -- Labels are asked for until one is given; a label that is given is the last.
          let scored : OnceView := { v with scored := true }
          refine Program.Obeys.bind (Program.attemptPlain_obeys s.labelerRetry
            (fun w => w = scored)
            (fun outcome w => match outcome with
              | .ok _ => w = { scored with event := some event.id }
              | .error _ => w = scored)
            (fun w ready => ?_) (fun w ready => ?_) _ rfl) fun labeled after ended => ?_
          · subst ready
            exact OnceView.obeys_share
          · subst ready
            refine ⟨⟨open_, blank⟩, ?_⟩
            rintro outcome _ rfl
            cases outcome with
            | ok label => exact ⟨rfl, fun e is => by cases is⟩
            | error e => exact ⟨rfl, fun _ _ _ => rfl⟩
          · obtain ⟨outcome, attempts⟩ := labeled
            cases outcome with
            | ok label => exact ⟨⟨fresh, normal⟩, ended⟩
            | error e =>
                have same : after = scored := ended
                rw [same]
                exact blank

end RawEvent

/-! ## Emitting -/

namespace Enrichment

variable {s : RelaySettings} {names : String → Prop} {v : OnceView} (e : Enrichment)

/-- The row that an emission leaves behind, by how the emission ends. -/
def Leaves : Except BrokerError Emission → RowShare → Prop
  | .error _, row => row = .untried
  | .ok (.published _ true), row => row = .stored
  | .ok (.published _ false), row => row = .found
  | .ok (.quarantined _ true), row => row = .removed
  | .ok (.quarantined _ false), row => row ≠ .removed

/-- What a worker remembers once an emission has ended. -/
structure Resolved (v : OnceView) (emitted : Except BrokerError Emission) (after : OnceView) :
    Prop where
  results : after.results = v.results
  scored : after.scored = v.scored
  event : after.event = v.event
  row : Leaves emitted after.row
  error : ∀ cause, emitted = .error cause → after = v

/-- Whether a later view differs in nothing but the alert that is being published. -/
structure Publishing (v later : OnceView) : Prop where
  results : later.results = v.results
  scored : later.scored = v.scored
  event : later.event = v.event
  lettered : later.lettered = v.lettered

theorem Publishing.trans {a b c : OnceView} (first : Publishing a b) (second : Publishing b c) :
    Publishing a c :=
  ⟨second.results.trans first.results, second.scored.trans first.scored,
    second.event.trans first.event, second.lettered.trans first.lettered⟩

/-- An alert is published at most once. -/
theorem publish_once (event : v.event = some e.event.id) (unpublished : v.published = false)
    (opened : v.alerts = some ⟨[], []⟩) :
    (e.publish s.alertsTopic).Obeys (s.onceDiscipline names)
      (fun _ after => Publishing v after ∧ after.row = v.row) v := by
  refine OnceView.obeys_ask ⟨e.event.id, event, rfl⟩ fun produced => ?_
  cases produced with
  | error cause => exact ⟨⟨rfl, rfl, rfl, rfl⟩, rfl⟩
  | ok =>
      have holds : (v.note (.produce .alerts (.plain s.alertsTopic (some e.key) e.payload))
          (.ok ())).alerts = some ⟨[.plain s.alertsTopic (some e.key) e.payload], []⟩ := by
        simp only [OnceView.note, RelayCall.transactionAfter, ↓reduceIte, opened, Option.map_some,
          List.nil_append]
      refine ⟨⟨unpublished, _, holds⟩, ?_⟩
      rintro committed _ rfl
      cases committed with
      | error cause => exact ⟨⟨rfl, rfl, rfl, rfl⟩, rfl⟩
      | ok => exact ⟨⟨rfl, rfl, rfl, rfl⟩, rfl⟩

/-- A row is taken back just if the compensation says so. -/
theorem compensate_once {inserted : Bool} (event : v.event = some e.event.id)
    (row : v.row = if inserted then .stored else .found) :
    (e.compensate inserted).Obeys (s.onceDiscipline names) (fun compensated after =>
      Publishing v after ∧ (after.row = .removed ↔ compensated = true)) v := by
  cases inserted with
  | false =>
      have kept : v.row = .found := row
      refine ⟨⟨rfl, rfl, rfl, rfl⟩, ?_⟩
      simp only [kept, reduceCtorEq]
  | true =>
      have stored : v.row = .stored := row
      refine OnceView.obeys_ask ⟨stored, event⟩ fun deleted => ?_
      cases deleted with
      | ok count => exact ⟨⟨rfl, rfl, rfl, rfl⟩, iff_of_true rfl rfl⟩
      | error cause =>
          refine OnceView.obeys_ask_idle trivial fun _ => ⟨⟨rfl, rfl, rfl, rfl⟩, ?_⟩
          have kept : (v.note (.deleteAlert e.event.id) (.error cause)).row = .stored := stored
          simp only [kept, reduceCtorEq, Bool.false_eq_true]

/-- What could not be published becomes a dead letter, the only one. -/
theorem quarantine_once (reason : DeadLetterReason) {compensated : Bool} {w : OnceView}
    (unlettered : v.lettered = false) (event : v.event = some e.event.id)
    (along : Publishing v w) (row : w.row = .removed ↔ compensated = true) :
    (e.quarantine s reason compensated >>= fun emission =>
        (Program.done (.ok emission) : RelayProgram (Except BrokerError Emission))).Obeys
      (s.onceDiscipline names) (Resolved v) w := by
  have resolved : ∀ sent, Resolved v (.ok (.quarantined reason compensated))
      (w.note (.sendDeadLetter ((DeadLetter.ofPayload (some e.key) e.payload reason).message
        s.deadLetterTopic sent)) (.ok ())) := by
    refine fun sent => ⟨along.results, along.scored, along.event, ?_, fun _ is => by cases is⟩
    cases compensated with
    | true => exact row.mpr rfl
    | false => exact fun gone => Bool.false_ne_true (row.mp gone)
  refine OnceView.obeys_ask_idle trivial fun millis => ?_
  refine OnceView.obeys_ask ⟨along.lettered.trans unlettered, DeadLetter.message_topic ..,
    e.event.id, along.event.trans event, DeadLetter.message_key ..⟩ fun sent => ?_
  cases sent with
  | error cause => exact OnceView.obeys_ask_idle trivial fun _ => resolved millis
  | ok =>
      refine OnceView.obeys_ask_idle trivial fun flushed => ?_
      cases flushed with
      | error cause => exact OnceView.obeys_ask_idle trivial fun _ => resolved millis
      | ok => exact resolved millis

/-- Emitting an alert stores, publishes and sends once at most. Unless it ends with an error, it is
told from its end what has become of the row. -/
theorem emit_once (unemitted : v.Unemitted) (event : v.event = some e.event.id)
    (named : names e.event.id) :
    (e.emit s).Obeys (s.onceDiscipline names) (Resolved v) v := by
  refine OnceView.obeys_ask_idle trivial fun alertId => OnceView.obeys_ask trivial fun begun => ?_
  cases begun with
  | error cause => exact ⟨rfl, rfl, rfl, unemitted.row, fun _ _ => rfl⟩
  | ok =>
      refine OnceView.obeys_ask ⟨unemitted.row, event, named⟩ fun stored => ?_
      cases stored with
      | error cause =>
          refine OnceView.obeys_ask_idle trivial fun _ => ?_
          refine OnceView.obeys_ask_idle trivial fun _ => ?_
          refine OnceView.obeys_ask trivial fun dropped => ?_
          refine e.quarantine_once .databaseFailure unemitted.lettered event ?_ ?_
          · cases dropped <;> exact ⟨rfl, rfl, rfl, rfl⟩
          · exact iff_of_false (fun is => by cases is) Bool.false_ne_true
      | ok inserted =>
          refine OnceView.obeys_ask_idle trivial fun _ => ?_
          generalize start : ((v.note (.begin .alerts) (.ok ())).note
            (.insertAlert (e.alert alertId)) (.ok inserted)) = w
          have opened : w.alerts = some ⟨[], []⟩ := start ▸ rfl
          have along : Publishing v w := start ▸ ⟨rfl, rfl, rfl, rfl⟩
          have row : w.row = if inserted then .stored else .found := by
            cases inserted <;> exact start ▸ rfl
          have unpublished : w.published = false := start ▸ unemitted.published
          clear start
          refine (e.publish_once (along.event.trans event) unpublished opened).bind
            fun published later ended => ?_
          obtain ⟨further, same⟩ := ended
          cases published with
          | ok =>
              refine OnceView.obeys_ask_idle trivial fun _ => ?_
              have end_ := along.trans further
              refine ⟨end_.results, end_.scored, end_.event, ?_, fun _ is => by cases is⟩
              cases inserted <;> exact same.trans row
          | error cause =>
              refine OnceView.obeys_ask_idle trivial fun _ => ?_
              refine OnceView.obeys_ask_idle trivial fun _ => ?_
              refine OnceView.obeys_ask trivial fun dropped => ?_
              have last : Publishing later (later.note (.abort .alerts) dropped) := by
                cases dropped <;> exact ⟨rfl, rfl, rfl, rfl⟩
              have end_ := (along.trans further).trans last
              refine (e.compensate_once (end_.event.trans event) (same.trans row)).bind
                fun compensated after removed => ?_
              exact e.quarantine_once .brokerFailure unemitted.lettered event
                (end_.trans removed.1) removed.2

end Enrichment

/-! ## Working on a record -/

namespace Record

variable {s : RelaySettings} {r : Record} {c : OffsetCommit} {names : String → Prop}
  {v : OnceView}

/-- Whether an event that a record is read as can have an identifier. -/
def Names (r : Record) (id : String) : Prop :=
  ∃ raw fresh event, r.rawEvent? = some raw ∧ raw.normalize fresh = .ok event ∧ event.id = id

/-- What a worker remembers agrees with what the attempts so far have achieved. -/
structure Ready (names : String → Prop) (r : Record) (p : UnitProgress) (v : OnceView) : Prop where
  event : v.event = p.enrichment.map fun e => e.event.id
  named : ∀ e, p.enrichment = some e → names e.event.id
  decoded : r.rawEvent? = none → p.enrichment = none
  blank : p.enrichment = none → v.scored = false ∧ p.emission = none ∧
    (r.rawEvent? ≠ none → v.wrote = false)
  unemitted : p.emission = none → v.Unemitted

/-- Whether a later view differs in nothing but the result in the making. -/
structure Concluding (v later : OnceView) : Prop where
  scored : later.scored = v.scored
  event : later.event = v.event
  row : later.row = v.row
  published : later.published = v.published
  lettered : later.lettered = v.lettered

theorem Concluding.unemitted {later : OnceView} (along : Concluding v later)
    (unemitted : v.Unemitted) : later.Unemitted :=
  ⟨along.row.trans unemitted.row, along.published.trans unemitted.published,
    along.lettered.trans unemitted.lettered⟩

/-- What the attempts have achieved is remembered while a result is in the making. -/
theorem Ready.concluding {p : UnitProgress} {later : OnceView} (ready : Ready names r p v)
    (along : Concluding v later)
    (wrote : p.enrichment = none → r.rawEvent? ≠ none → later.wrote = v.wrote) :
    Ready names r p later where
  event := along.event.trans ready.event
  named := ready.named
  decoded := ready.decoded
  blank none := by
    obtain ⟨unscored, unemitted, blank⟩ := ready.blank none
    exact ⟨along.scored.trans unscored, unemitted,
      fun decoded => (wrote none decoded).trans (blank decoded)⟩
  unemitted none := along.unemitted (ready.unemitted none)

/-- Whether the open result is for the topics of results and dead letters. -/
def Plain (s : RelaySettings) (t : Transaction) : Prop :=
  ∀ m ∈ t.messages, m.topic = s.outputTopic ∨ m.topic = s.deadLetterTopic

/-- To confirm a result writes nothing twice. -/
theorem confirm_once {t : Transaction} (held : v.results = some t) (plain : Plain s t) :
    c.confirm.Obeys (s.onceDiscipline names) (fun _ after => Concluding v after) v := by
  refine OnceView.obeys_ask trivial fun sent => ?_
  cases sent with
  | error cause => exact ⟨rfl, rfl, rfl, rfl, rfl⟩
  | ok =>
      have holds : (v.note (.sendOffsets .results [c]) (.ok ())).results =
          some { t with offsets := t.offsets ++ [c] } := by
        simp only [OnceView.note, RelayCall.transactionAfter, ↓reduceIte, held, Option.map_some]
      refine OnceView.obeys_ask ⟨_, holds, plain⟩ fun committed => ?_
      cases committed <;> exact ⟨rfl, rfl, rfl, rfl, rfl⟩

theorem produceAndConfirm_once {m : Message} (held : v.results = some ⟨[], []⟩)
    (key : ∀ id, v.event = some id → m.key = some (utf8 id))
    (topic : m.topic = s.outputTopic ∨ m.topic = s.deadLetterTopic) :
    (produceAndConfirm m c).Obeys (s.onceDiscipline names) (fun _ after => Concluding v after)
      v := by
  refine OnceView.obeys_ask key fun produced => ?_
  cases produced with
  | error cause => exact ⟨rfl, rfl, rfl, rfl, rfl⟩
  | ok =>
      have holds : (v.note (.produce .results m) (.ok ())).results = some ⟨[m], []⟩ := by
        simp only [OnceView.note, RelayCall.transactionAfter, ↓reduceIte, held, Option.map_some,
          List.nil_append]
      refine (confirm_once holds fun other one => ?_).mono fun _ _ along =>
        ⟨along.scored, along.event, along.row, along.published, along.lettered⟩
      rw [List.mem_singleton.mp one]
      exact topic

theorem setAside_once (reason : DeadLetterReason) (held : v.results = some ⟨[], []⟩)
    (open_ : v.event = none) :
    (r.setAside s reason c).Obeys (s.onceDiscipline names) (fun _ after => Concluding v after)
      v := by
  refine OnceView.obeys_ask_idle trivial fun millis => produceAndConfirm_once held ?_ ?_
  · intro id labeled
    rw [open_] at labeled
    cases labeled
  · exact .inr (DeadLetter.message_topic ..)

/-- To conclude the work on an event writes nothing twice, and never gives the record up. -/
theorem conclude_once {e : Enrichment} {emission : Emission} (held : v.results = some ⟨[], []⟩)
    (event : v.event = some e.event.id) :
    (conclude s c e emission).Obeys (s.onceDiscipline names)
      (fun concluded after => Concluding v after ∧ concluded ≠ .ok .failed) v := by
  have final : ∀ (written : Except RelayError Unit) (done : Outcome), done ≠ .failed →
      (written.map fun _ => done) ≠ .ok .failed := by
    intro written done different
    cases written with
    | error cause => exact fun is => by cases is
    | ok => exact fun is => different (Except.ok.inj is)
  cases emission with
  | quarantined reason compensated =>
      have plain : Plain s ⟨[], []⟩ := fun _ member => by cases member
      exact (confirm_once held plain).bind fun written _ along =>
        ⟨along, final written .deadLettered fun is => by cases is⟩
  | published alertId inserted =>
      refine (produceAndConfirm_once held (fun id labeled => ?_) (.inl rfl)).bind
        fun written _ along => ⟨along, final written .processed fun is => by cases is⟩
      rw [event, Option.some.injEq] at labeled
      rw [← labeled]
      rfl

/-- An event is enriched once, before anything is written for it. -/
theorem enrichOnce_once {raw : RawEvent} {p : UnitProgress} (decoded : r.rawEvent? = some raw)
    (named : ∀ fresh event, raw.normalize fresh = .ok event → names event.id)
    (ready : Ready names r p v) :
    (enrichOnce s raw p).Obeys (s.onceDiscipline names) (fun enriched after =>
      match enriched with
      | .ok e => Ready names r ⟨some e, p.emission⟩ after ∧ after.results = v.results
      | .error _ => after.wrote = false) v := by
  unfold Record.enrichOnce
  cases achieved : p.enrichment with
  | some e =>
      refine ⟨⟨?_, fun other is => ?_, fun none => ?_, fun none => (by cases none),
        ready.unemitted⟩, rfl⟩
      · rw [ready.event, achieved]
      · cases is
        exact ready.named e achieved
      · rw [decoded] at none
        cases none
  | none =>
      obtain ⟨unscored, unemitted, blank⟩ := ready.blank achieved
      have open_ : v.event = none := by
        rw [ready.event, achieved]
        rfl
      have unwritten : v.wrote = false := by
        refine blank ?_
        rw [decoded]
        exact Option.some_ne_none raw
      refine (raw.enrich_once unscored open_ unwritten).mono fun enriched after ended => ?_
      cases enriched with
      | error e => exact ended
      | ok e =>
          obtain ⟨⟨fresh, normal⟩, same⟩ := ended
          subst same
          refine ⟨⟨rfl, fun other is => ?_, fun none => ?_, fun none => (by cases none),
            fun none => ?_⟩, rfl⟩
          · cases is
            exact named fresh e.event normal
          · rw [decoded] at none
            cases none
          · have before := ready.unemitted unemitted
            exact ⟨before.row, before.published, before.lettered⟩

/-- To emit an alert at most once writes nothing twice. -/
theorem emitOnce_once {e : Enrichment} {p : UnitProgress}
    (ready : Ready names r ⟨some e, p.emission⟩ v) :
    (emitOnce s e p).Obeys (s.onceDiscipline names) (fun emitted after =>
      after.results = v.results ∧ match emitted with
      | .ok emission => Ready names r ⟨some e, some emission⟩ after
      | .error _ => Ready names r ⟨some e, p.emission⟩ after) v := by
  unfold Record.emitOnce
  cases achieved : p.emission with
  | some emission =>
      rw [achieved] at ready
      exact ⟨rfl, ready⟩
  | none =>
      rw [achieved] at ready
      refine (e.emit_once (ready.unemitted rfl) ready.event (ready.named e rfl)).mono
        fun emitted after resolved => ⟨resolved.results, ?_⟩
      cases emitted with
      | error cause =>
          rw [resolved.error cause rfl]
          exact ready
      | ok emission =>
          exact ⟨resolved.event.trans ready.event, ready.named, ready.decoded,
            fun none => (by cases none), fun none => by cases none⟩

/-- How an attempt at a record can end: it can be followed by another one, or nothing was written
and there will be none. -/
def Attempts (names : String → Prop) (r : Record)
    (made : Except RelayError Outcome × UnitProgress) (after : OnceView) : Prop :=
  match made.1 with
  | .error _ => Ready names r made.2 after
  | .ok .failed => after.wrote = false
  | .ok _ => True

/-- An attempt that leaves its worker ready has ended as it may, unless the record failed. -/
theorem Attempts.of_ready {outcome : Except RelayError Outcome} {p : UnitProgress}
    (ready : Ready names r p v) (done : outcome ≠ .ok .failed) :
    Attempts names r (outcome, p) v := by
  cases outcome with
  | error e => exact ready
  | ok final =>
      cases final with
      | failed => exact (done rfl).elim
      | processed | deadLettered => trivial

/-- An attempt inside its transaction writes nothing twice. -/
theorem work_once {p : UnitProgress} (held : v.results = some ⟨[], []⟩)
    (named : ∀ id, r.Names id → names id) (ready : Ready names r p v) :
    (r.work s c p).Obeys (s.onceDiscipline names) (Attempts names r) v := by
  unfold Record.work
  cases decoded : r.rawEvent? with
  | none =>
      have open_ : v.event = none := by
        rw [ready.event, ready.decoded decoded]
        rfl
      refine (setAside_once .undecodable held open_).bind fun written after along => ?_
      refine Attempts.of_ready (ready.concluding along fun _ read => (read decoded).elim) ?_
      cases written <;> exact fun is => by cases is
  | some raw =>
      have known : ∀ fresh event, raw.normalize fresh = .ok event → names event.id :=
        fun fresh event normal => named _ ⟨raw, fresh, event, decoded, normal, rfl⟩
      refine (enrichOnce_once decoded known ready).bind fun enriched later ended => ?_
      cases enriched with
      | error cause => exact ended
      | ok e =>
          obtain ⟨ready, same⟩ := ended
          refine (emitOnce_once ready).bind fun emitted last ended => ?_
          obtain ⟨further, ready⟩ := ended
          cases emitted with
          | error cause => exact ready
          | ok emission =>
              have held := (further.trans same).trans held
              refine (conclude_once held ready.event).bind fun concluded after ended => ?_
              exact Attempts.of_ready (ready.concluding ended.1 fun none => by cases none) ended.2

/-- Opening or dropping a result changes nothing else. -/
theorem Attempts.concluding {made : Except RelayError Outcome × UnitProgress} {later : OnceView}
    (ended : Attempts names r made v) (along : Concluding v later) (wrote : later.wrote = v.wrote) :
    Attempts names r made later := by
  obtain ⟨outcome, p⟩ := made
  cases outcome with
  | error e => exact Ready.concluding ended along fun _ _ => wrote
  | ok done =>
      cases done with
      | failed => exact wrote.trans ended
      | processed | deadLettered => trivial

/-- An attempt at a record writes nothing twice. -/
theorem attemptWork_once {p : UnitProgress} (named : ∀ id, r.Names id → names id)
    (ready : Ready names r p v) :
    (r.attemptWork s c p).Obeys (s.onceDiscipline names) (Attempts names r) v := by
  refine OnceView.obeys_ask trivial fun begun => ?_
  cases begun with
  | error cause => exact ready
  | ok =>
      have along : Concluding v (v.note (.begin .results) (.ok ())) := ⟨rfl, rfl, rfl, rfl, rfl⟩
      have begun := ready.concluding along fun _ _ => rfl
      refine (work_once rfl named begun).bind fun made later ended => ?_
      obtain ⟨outcome, achieved⟩ := made
      cases left : leavesOpen outcome with
      | false =>
          simp only [left, Bool.false_eq_true, ↓reduceIte]
          exact ended
      | true =>
          simp only [left, ↓reduceIte]
          refine OnceView.obeys_ask trivial fun dropped => ?_
          cases dropped <;> exact ended.concluding ⟨rfl, rfl, rfl, rfl, rfl⟩ rfl

theorem settle_once (outcome : Outcome) :
    (settle c outcome).Obeys (s.onceDiscipline names) (fun _ after => after = v) v := by
  cases outcome with
  | failed => exact OnceView.obeys_ask_idle trivial fun _ => rfl
  | processed | deadLettered =>
      exact OnceView.obeys_ask_idle trivial fun _ => OnceView.obeys_ask_idle trivial fun _ => rfl

theorem ready_enter (results alerts : Option Transaction) :
    Ready names r UnitProgress.none (.enter results alerts) where
  event := rfl
  named _ achieved := by cases achieved
  decoded _ := rfl
  blank _ := ⟨rfl, rfl, fun _ => rfl⟩
  unemitted _ := ⟨rfl, rfl, rfl⟩

/-- Working on a record does nothing twice, and writes nothing if it fails. -/
theorem handle_once (s : RelaySettings) (r : Record) (results alerts : Option Transaction) :
    (r.handle s).Obeys (s.onceDiscipline r.Names)
      (fun outcome after => outcome = .ok .failed → after.wrote = false)
      (.enter results alerts) := by
  refine OnceView.obeys_ask_idle trivial fun checked => ?_
  cases checked with
  | error e => exact OnceView.obeys_ask_idle trivial fun _ is => by cases is
  | ok =>
      refine Program.Obeys.bind (Program.attempt_obeys s.retry (Ready r.Names r)
        (fun outcome w => outcome = .ok .failed → w.wrote = false)
        (fun p w ready => ?_) (fun p w ready => ?_) UnitProgress.none _
        (ready_enter results alerts)) fun made w ended => ?_
      · exact OnceView.obeys_share.mono fun _ later same => same ▸ ready
      · have attempted := attemptWork_once (s := s) (c := .forRecord r s.group)
          (fun _ named => named) ready
        refine attempted.mono fun made later ended => ⟨fun is => ?_, fun e is _ => ?_⟩
        · obtain ⟨outcome, achieved⟩ := made
          subst is
          exact ended
        · obtain ⟨outcome, achieved⟩ := made
          subst is
          exact ended
      · obtain ⟨⟨outcome, attempts⟩, achieved⟩ := made
        cases outcome with
        | error e => exact OnceView.obeys_ask_idle trivial fun _ is => by cases is
        | ok done =>
            refine (settle_once done).bind fun _ after same is => ?_
            rw [same]
            exact ended is

end Record

end AlertRelay
