import AlertRelay.Proofs.Ledger
import AlertRelay.Proofs.Program.Discipline
import AlertRelay.Proofs.Relay.Clients
import AlertRelay.Relay.Handle

/-!
# Units of work

What a worker has seen of its own calls says how far it has come with a record (`UnitView`): whether
the ledger has admitted the record, what is gathered in the open transactions, and what was
committed. `Record.unitDiscipline` says what is in order then. The results producer commits once at
most, only after the ledger has admitted the record, and then the offset behind the record together
with one of three things (`Upshot`): the result of the event, a dead letter of the record, or
nothing because the alert became a dead letter.
-/

namespace AlertRelay

/-- How far a unit of work has come. -/
inductive Standing where
  /-- The ledger was not asked yet. -/
  | entered
  /-- The ledger has refused the record. -/
  | refused
  /-- The ledger has admitted the record. -/
  | admitted
  /-- A transaction of the results producer is committed. -/
  | committed (content : Transaction)
  /-- The offset of the commit is noted in the ledger. -/
  | recorded (content : Transaction)

/-- What a worker has seen of its own calls since it entered a unit of work. -/
structure UnitView where
  /-- What the results producer holds. -/
  results : Option Transaction
  /-- What the alerts producer holds. -/
  alerts : Option Transaction
  standing : Standing
  /-- Whether the results producer may be unable to drop what it holds. -/
  stuck : Bool
  transcript : List (Exchange Interface.relay)

namespace Standing

/-- The transactions of the results producer that are committed. -/
def commits : Standing → List Transaction
  | committed t | recorded t => [t]
  | _ => []

/-- Whether the ledger has admitted the record. -/
def Passed : Standing → Prop
  | entered | refused => False
  | _ => True

/-- The ledger, given what it was when the unit was entered and the commit of its record. -/
def ledger (l : Ledger) (c : OffsetCommit) : Standing → Ledger
  | recorded _ => l.record c
  | _ => l

/-- How far a unit has come after a call, given what the results producer held. -/
def after (held : Option Transaction) (standing : Standing) :
    (request : RelayCall) → request.Reply → Standing
  | .checkOffset _, .ok () => admitted
  | .checkOffset _, .error _ => refused
  | .commit .results, .ok () => held.elim standing committed
  | .recordOffset _, () =>
    match standing with
    | committed t => recorded t
    | other => other
  | _, _ => standing

end Standing

/-- Whether a call shows that the results producer cannot drop what it holds. -/
def RelayCall.sticks : (request : RelayCall) → request.Reply → Bool
  | .abort .results, .error _ => true
  | _, _ => false

namespace UnitView

/-- The view of a worker that enters a unit. -/
def enter (results alerts : Option Transaction) (stuck : Bool) : UnitView :=
  ⟨results, alerts, .entered, stuck, []⟩

/-- The view after a call and its reply. -/
def note (v : UnitView) (request : RelayCall) (reply : request.Reply) : UnitView where
  results := RelayCall.transactionAfter .results v.results request reply
  alerts := RelayCall.transactionAfter .alerts v.alerts request reply
  standing := v.standing.after v.results request reply
  stuck := v.stuck || request.sticks reply
  transcript := v.transcript ++ [⟨request, reply⟩]

/-- What a producer holds. -/
def held (v : UnitView) : Lane → Option Transaction
  | .results => v.results
  | .alerts => v.alerts

/-- Whether nothing is left open that could have been dropped. -/
def Closed (v : UnitView) : Prop := v.results = none ∨ v.stuck = true

/-- Whether a later view differs in nothing that concerns the results producer and the ledger. -/
structure Beside (v later : UnitView) : Prop where
  results : later.results = v.results
  standing : later.standing = v.standing
  stuck : later.stuck = v.stuck
  transcript : v.transcript <+: later.transcript

theorem Beside.refl (v : UnitView) : v.Beside v := ⟨rfl, rfl, rfl, List.prefix_rfl⟩

theorem Beside.trans {a b c : UnitView} (first : a.Beside b) (second : b.Beside c) : a.Beside c :=
  ⟨second.results.trans first.results, second.standing.trans first.standing,
    second.stuck.trans first.stuck, first.transcript.trans second.transcript⟩

/-- What does not concern the results producer leaves it closed. -/
theorem Beside.closed {v later : UnitView} (beside : v.Beside later) (closed : v.Closed) :
    later.Closed := by
  unfold UnitView.Closed
  rw [beside.results, beside.stuck]
  exact closed

theorem Closed.note {v : UnitView} (closed : v.Closed) {request : RelayCall}
    {reply : request.Reply}
    (kept : RelayCall.transactionAfter .results v.results request reply = v.results) :
    (v.note request reply).Closed :=
  closed.imp kept.trans fun stuck => Bool.or_eq_true_iff.mpr (.inl stuck)

end UnitView

/-- What a committed transaction holds beside the offset of a record. -/
inductive Record.Upshot (s : RelaySettings) (r : Record)
    (transcript : List (Exchange Interface.relay)) : List Message → Prop where
  /-- The record was enriched, its alert published, and this is its result. -/
  | result (raw : RawEvent) (e : Enrichment) (alertId : Uuid) (inserted : Bool)
      (decoded : r.rawEvent? = some raw)
      (enriched : (raw.enrich s.labelerRetry).RanIn (.ok e) transcript)
      (published : (e.emit s).RanIn (.ok (.published alertId inserted)) transcript) :
      Upshot s r transcript [Record.resultMessage s e]
  /-- The record was set aside. -/
  | setAside (reason : DeadLetterReason) (millis : Int) :
      Upshot s r transcript [(DeadLetter.ofRecord r reason).message s.deadLetterTopic millis]
  /-- The record was enriched, and its alert became a dead letter. -/
  | quarantined (raw : RawEvent) (e : Enrichment) (reason : DeadLetterReason) (compensated : Bool)
      (decoded : r.rawEvent? = some raw)
      (enriched : (raw.enrich s.labelerRetry).RanIn (.ok e) transcript)
      (quarantined : (e.emit s).RanIn (.ok (.quarantined reason compensated)) transcript) :
      Upshot s r transcript []

/-- Whether a transaction is one that may be committed for a record. -/
structure Record.Fits (s : RelaySettings) (r : Record)
    (transcript : List (Exchange Interface.relay)) (t : Transaction) : Prop where
  offsets : t.offsets = [OffsetCommit.forRecord r s.group]
  messages : r.Upshot s transcript t.messages

/-- What came of a transcript came of a longer one. -/
theorem Record.Upshot.mono {s : RelaySettings} {r : Record}
    {transcript later : List (Exchange Interface.relay)} {messages : List Message}
    (upshot : r.Upshot s transcript messages) (grown : transcript <+: later) :
    r.Upshot s later messages := by
  obtain ⟨more, rfl⟩ := grown
  cases upshot with
  | result raw e alertId inserted decoded enriched published =>
      exact .result raw e alertId inserted decoded (enriched.append more) (published.append more)
  | setAside reason millis => exact .setAside reason millis
  | quarantined raw e reason compensated decoded enriched quarantined =>
      exact .quarantined raw e reason compensated decoded (enriched.append more)
        (quarantined.append more)

/-- What the alerts producer may commit: alerts, and no offset. -/
structure RelaySettings.Alerts (s : RelaySettings) (t : Transaction) : Prop where
  offsets : t.offsets = []
  messages : ∀ m ∈ t.messages, ∃ key payload, m = .plain s.alertsTopic key payload

/-- A dead letter of a payload that was not read from a log. -/
def RelaySettings.Stray (s : RelaySettings) (m : Message) : Prop :=
  ∃ key value reason millis,
    m = (DeadLetter.ofPayload key value reason).message s.deadLetterTopic millis

namespace Record

/-- Which calls are in order while a worker works on a record. -/
def Allows (s : RelaySettings) (r : Record) (v : UnitView) : RelayCall → Prop
  | .checkOffset c => v.standing = .entered ∧ c = OffsetCommit.forRecord r s.group
  | .commit .results =>
    v.standing = .admitted ∧ ∃ t, v.results = some t ∧ r.Fits s v.transcript t
  | .recordOffset c => (∃ t, v.standing = .committed t) ∧ c = OffsetCommit.forRecord r s.group
  | .sendOffsets .alerts _ => False
  | .commit .alerts => ∀ t, v.alerts = some t → s.Alerts t
  | .sendDeadLetter m => s.Stray m
  | _ => True

/-- What the surroundings never reply. -/
def Possible : (request : RelayCall) → request.Reply → Prop
  | .checkOffset _, .error e => ∃ detail, e = .offset detail
  | _, _ => True

/-- The world never replies what is impossible. -/
theorem possible_reply (worker : Nat) (request : RelayCall) (w : World) :
    Possible request (World.reply worker request w).1 := by
  cases request with
  | checkOffset c =>
      change Possible (.checkOffset c) (w.ledger.check c)
      cases checked : w.ledger.check c with
      | ok => trivial
      | error e => exact (Ledger.check_error checked).1
  | _ => trivial

/-- How a worker works on a record. -/
def unitDiscipline (s : RelaySettings) (r : Record) : Discipline Interface.relay UnitView where
  allows := r.Allows s
  shows v request reply after := Possible request reply ∧ after = v.note request reply

end Record

/-! ## What becomes visible -/

/-- The transaction of the results producer that has become visible. -/
def Posting.result? : Posting → Option Transaction
  | transaction .results t => some t
  | _ => none

namespace UnitView

/-- Whether a view has the transactions that the producers of a worker hold. -/
def Reads (v : UnitView) (w : World) (worker : Nat) : Prop :=
  ∀ lane, w.transaction? worker lane = v.held lane

theorem held_note (v : UnitView) (request : RelayCall) (reply : request.Reply) (lane : Lane) :
    (v.note request reply).held lane =
      RelayCall.transactionAfter lane (v.held lane) request reply := by
  cases lane with
  | results => rfl
  | alerts => rfl

/-- A view has the transactions that its producers hold after every call. -/
theorem Reads.reply {v : UnitView} {w : World} {worker : Nat} (reads : v.Reads w worker)
    (request : RelayCall) :
    (v.note request (World.reply worker request w).1).Reads (World.reply worker request w).2
      worker := by
  intro lane
  rw [(World.reply_accounts w worker request).transaction, if_pos rfl, held_note, reads lane]

/-- The calls of other workers leave the transactions of a worker alone. -/
theorem Reads.other {v : UnitView} {w : World} {worker other : Nat} (reads : v.Reads w worker)
    (different : other ≠ worker) (request : RelayCall) :
    v.Reads (World.reply other request w).2 worker := by
  intro lane
  rw [(World.reply_accounts w other request).transaction, if_neg different, reads lane]

/-- What a call makes visible can be told from the view. -/
theorem Reads.posting {v : UnitView} {w : World} {worker : Nat} (reads : v.Reads w worker)
    (request : RelayCall) (reply : request.Reply) :
    request.posting? (w.transaction? worker) reply = request.posting? v.held reply := by
  rw [funext reads]

end UnitView

namespace Record

variable {s : RelaySettings} {r : Record} {v : UnitView} {request : RelayCall}
  {reply : request.Reply}

/-- What may become visible while a worker works on a record. -/
inductive Posts (s : RelaySettings) (r : Record) (v : UnitView) : Posting → Prop where
  /-- The offset of the record, with what is committed beside it. -/
  | result (t : Transaction) (standing : v.standing = .admitted) (held : v.results = some t)
      (fits : r.Fits s v.transcript t) : Posts s r v (.transaction .results t)
  | alert (t : Transaction) (alerts : s.Alerts t) : Posts s r v (.transaction .alerts t)
  | letter (m : Message) (stray : s.Stray m) : Posts s r v (.letter m)

/-- What a call in order makes visible may become visible for the record. -/
theorem posts_of_allows {p : Posting} (allowed : r.Allows s v request)
    (posted : request.posting? v.held reply = some p) : r.Posts s v p := by
  cases request with
  | commit lane =>
      cases reply with
      | error cause => cases posted
      | ok =>
          obtain ⟨t, held, rfl⟩ := Option.map_eq_some_iff.mp posted
          cases lane with
          | alerts => exact .alert t (allowed t held)
          | results =>
              obtain ⟨standing, _, same, fits⟩ := allowed
              cases held.symm.trans same
              exact .result t standing held fits
  | sendDeadLetter m =>
      cases reply with
      | error cause => cases posted
      | ok =>
          cases posted
          exact .letter m allowed
  | _ => cases posted

/-- What is committed is what has become visible of the results producer. -/
theorem commits_note (allowed : r.Allows s v request) :
    (v.note request reply).standing.commits =
      v.standing.commits ++ ((request.posting? v.held reply).bind Posting.result?).toList := by
  have same : ∀ l : List Transaction, l = l ++ [] := fun l => (List.append_nil l).symm
  cases request with
  | commit lane =>
      cases reply with
      | error cause => cases lane <;> exact same _
      | ok =>
          cases lane with
          | alerts =>
              change _ = _ ++ ((v.alerts.map (Posting.transaction .alerts)).bind _).toList
              cases v.alerts <;> exact same _
          | results =>
              obtain ⟨standing, t, held, _⟩ := allowed
              simp only [UnitView.note, Standing.after, RelayCall.posting?, UnitView.held, held,
                standing, Option.elim_some, Option.map_some, Option.bind_some, Posting.result?,
                Option.toList_some, Standing.commits, List.nil_append]
  | sendDeadLetter m => cases reply <;> exact same _
  | checkOffset c =>
      simp only [UnitView.note, Standing.after, allowed.1]
      cases reply <;> rfl
  | recordOffset c =>
      obtain ⟨⟨t, standing⟩, _⟩ := allowed
      simp only [UnitView.note, Standing.after, standing]
      rfl
  | _ => exact same _

/-- The view of a unit tells what its calls make of the ledger. -/
theorem ledger_note (allowed : r.Allows s v request) (l : Ledger) :
    (v.note request reply).standing.ledger l (OffsetCommit.forRecord r s.group) =
      request.ledgerAfter (v.standing.ledger l (OffsetCommit.forRecord r s.group)) := by
  cases request with
  | commit lane =>
      cases reply with
      | error cause => cases lane <;> rfl
      | ok =>
          cases lane with
          | alerts => rfl
          | results =>
              obtain ⟨standing, t, held, _⟩ := allowed
              simp only [UnitView.note, Standing.after, held, standing, Option.elim_some]
              rfl
  | checkOffset c =>
      simp only [UnitView.note, Standing.after, allowed.1]
      cases reply <;> rfl
  | recordOffset c =>
      obtain ⟨⟨t, standing⟩, rfl⟩ := allowed
      simp only [UnitView.note, Standing.after, standing]
      rfl
  | _ => rfl

end Record

/-! ## Calls that do not concern the results producer -/

namespace RelayCall

/-- Calls that do not concern the producers, the store, the ledger and the dead letters. -/
def Quiet : RelayCall → Prop
  | .begin _ | .produce _ _ | .sendOffsets _ _ | .commit _ | .abort _ => False
  | .insertAlert _ | .deleteAlert _ => False
  | .checkOffset _ | .recordOffset _ | .sendDeadLetter _ => False
  | _ => True

/-- Calls that emitting an alert may make once its transaction is open. -/
def Emitting (s : RelaySettings) : RelayCall → Prop
  | .produce .alerts m => ∃ key payload, m = .plain s.alertsTopic key payload
  | .commit .alerts | .abort .alerts => True
  | .insertAlert _ | .deleteAlert _ => True
  | .sendDeadLetter m => s.Stray m
  | request => request.Quiet

theorem Quiet.emitting {s : RelaySettings} {request : RelayCall} (quiet : request.Quiet) :
    request.Emitting s := by
  cases request with
  | begin | produce | sendOffsets | commit | abort | checkOffset | recordOffset
  | sendDeadLetter => exact quiet.elim
  | insertAlert | deleteAlert => trivial
  | _ => exact quiet

end RelayCall

namespace UnitView

/-- Whether the open transaction of the alerts producer holds alerts and nothing else. -/
def Alerting (s : RelaySettings) (v : UnitView) : Prop := ∀ t, v.alerts = some t → s.Alerts t

variable {s : RelaySettings} {v : UnitView}

/-- A call of an emission leaves the results producer and the ledger alone. -/
theorem note_beside (v : UnitView) (request : RelayCall) (emitting : request.Emitting s)
    (reply : request.Reply) : v.Beside (v.note request reply) := by
  have grown : v.transcript <+: (v.note request reply).transcript := List.prefix_append ..
  cases request with
  | produce lane m =>
      cases lane with
      | results => exact emitting.elim
      | alerts => cases reply <;> exact ⟨rfl, rfl, Bool.or_false _, grown⟩
  | commit lane =>
      cases lane with
      | results => exact emitting.elim
      | alerts => cases reply <;> exact ⟨rfl, rfl, Bool.or_false _, grown⟩
  | abort lane =>
      cases lane with
      | results => exact emitting.elim
      | alerts => cases reply <;> exact ⟨rfl, rfl, Bool.or_false _, grown⟩
  | begin | sendOffsets | checkOffset | recordOffset => exact emitting.elim
  | _ => exact ⟨rfl, rfl, Bool.or_false _, grown⟩

/-- A call of an emission leaves nothing but alerts in its transaction. -/
theorem note_alerting {request : RelayCall} (emitting : request.Emitting s)
    (reply : request.Reply) (alerting : v.Alerting s) : (v.note request reply).Alerting s := by
  intro t held
  cases request with
  | produce lane m =>
      cases lane with
      | results => exact emitting.elim
      | alerts =>
          cases reply with
          | error cause => exact alerting t held
          | ok =>
              obtain ⟨before, open_, rfl⟩ := Option.map_eq_some_iff.mp held
              refine ⟨(alerting before open_).offsets, fun other among => ?_⟩
              rcases List.mem_append.mp among with earlier | new
              · exact (alerting before open_).messages other earlier
              · cases List.mem_singleton.mp new
                exact emitting
  | commit lane =>
      cases lane with
      | results => exact emitting.elim
      | alerts =>
          cases reply with
          | error cause => exact alerting t held
          | ok => cases held
  | abort lane =>
      cases lane with
      | results => exact emitting.elim
      | alerts =>
          cases reply with
          | error cause => exact alerting t held
          | ok => cases held
  | begin | sendOffsets | checkOffset | recordOffset => exact emitting.elim
  | _ => exact alerting t held

end UnitView

namespace Record

variable {s : RelaySettings} {r : Record} {α : Type}

/-- A call of an emission is in order. -/
theorem allows_emitting {v : UnitView} {request : RelayCall} (emitting : request.Emitting s)
    (alerting : v.Alerting s) : r.Allows s v request := by
  cases request with
  | begin | sendOffsets | checkOffset | recordOffset => exact emitting.elim
  | commit lane =>
      cases lane with
      | results => exact emitting.elim
      | alerts => exact alerting
  | sendDeadLetter m => exact emitting
  | _ => trivial

/-- A quiet call is in order. -/
theorem allows_quiet {v : UnitView} {request : RelayCall} (quiet : request.Quiet) :
    r.Allows s v request := by
  cases request with
  | sendOffsets | commit | checkOffset | recordOffset | sendDeadLetter => exact quiet.elim
  | _ => trivial

/-- The transcript holds what makes a program end. -/
theorem obeys_ran {ends : α → UnitView → Prop} {p : RelayProgram α} {v : UnitView}
    (obeys : p.Obeys (r.unitDiscipline s) ends v) :
    p.Obeys (r.unitDiscipline s) (fun a after => ends a after ∧ p.RanIn a after.transcript) v := by
  refine (obeys.transcribed UnitView.transcript ?_).mono ?_
  · rintro _ _ _ _ ⟨_, rfl⟩
    rfl
  · rintro a after ⟨ended, during, same, yields⟩
    refine ⟨ended, v.transcript, during, [], ?_, yields⟩
    rw [same, List.append_nil]

/-- A program whose calls concern no producer leaves the view as it was, and adds to the transcript
what makes it end. -/
theorem obeys_of_quiet {p : RelayProgram α} (asks : p.Asks RelayCall.Quiet) (v : UnitView) :
    p.Obeys (r.unitDiscipline s)
      (fun a after => v.Beside after ∧ p.RanIn a after.transcript) v := by
  have obeys : p.Obeys (r.unitDiscipline s) (fun _ after => v.Beside after) v := by
    refine asks.obeys v.Beside (fun _ request _ quiet => allows_quiet quiet) ?_ (.refl v)
    rintro before request reply _ beside quiet ⟨_, rfl⟩
    exact beside.trans (before.note_beside (s := s) request quiet.emitting reply)
  exact obeys_ran obeys

end Record

end AlertRelay
