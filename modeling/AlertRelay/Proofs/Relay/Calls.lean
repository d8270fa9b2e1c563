import AlertRelay.Proofs.Program.Discipline
import AlertRelay.Relay.Handle

/-!
# Which calls relay work makes

What enriching an event, emitting its alert and committing its record may ask for, whatever the
replies are (`RawEvent.enrich_calls`, `Enrichment.emit_calls`, `Record.produceAndConfirm_asks`).
-/

namespace AlertRelay

variable {s : RelaySettings} {kind : RelayCall → Prop} {α : Type}

theorem asks_ask {request : RelayCall} {f : request.Reply → RelayProgram α} (is : kind request)
    (rest : ∀ reply, (f reply).Asks kind) : (request.ask >>= f).Asks kind :=
  .call is rest

/-- Calls that enriching an event makes. -/
def RelayCall.Enriching : RelayCall → Prop
  | .freshId | .score _ | .label _ _ | .share => True
  | _ => False

/-- To enrich an event makes calls of an enrichment only. -/
theorem RawEvent.enrich_calls (labelerRetry : RetryPolicy) (raw : RawEvent) :
    (raw.enrich labelerRetry).Asks RelayCall.Enriching := by
  refine asks_ask trivial fun fresh => ?_
  cases raw.normalize fresh with
  | error e => exact .done _
  | ok event =>
      refine asks_ask trivial fun scored => ?_
      cases scored with
      | error e => exact .done _
      | ok score =>
          refine .bind (.attemptPlain _ (.call trivial fun _ => .done _)
            (.call trivial fun _ => .done _)) fun labeled => ?_
          cases labeled.outcome with
          | error e => exact .done _
          | ok label => exact .done _

theorem DeadLetter.route_asks {topic : String} {d : DeadLetter} (time : kind .now)
    (sends : ∀ millis, kind (.sendDeadLetter (d.message topic millis)))
    (flushes : kind .flushDeadLetters) (counts : kind .countDeadLetterFailure) :
    (d.route topic).Asks kind := by
  refine asks_ask time fun millis => asks_ask (sends millis) fun sent => ?_
  cases sent with
  | error cause => exact .call counts fun _ => .done _
  | ok =>
      refine asks_ask flushes fun flushed => ?_
      cases flushed with
      | error cause => exact .call counts fun _ => .done _
      | ok => exact .done _

namespace Enrichment

variable (e : Enrichment)

/-- Calls that emitting an alert makes. -/
def Emits (s : RelaySettings) (e : Enrichment) : RelayCall → Prop
  | .freshId | .begin .alerts | .commit .alerts | .abort .alerts => True
  | .produce .alerts m => m = .plain s.alertsTopic (some e.key) e.payload
  | .insertAlert a => a.eventId = e.event.id
  | .deleteAlert eventId => eventId = e.event.id
  | .sendDeadLetter m => ∃ reason millis,
      m = (DeadLetter.ofPayload (some e.key) e.payload reason).message s.deadLetterTopic millis
  | .now | .flushDeadLetters | .countDeadLetterFailure | .observe _ _ => True
  | .countFailure stage => stage = .insert ∨ stage = .publish ∨ stage = .compensation
  | _ => False

theorem quarantine_calls (reason : DeadLetterReason) (compensated : Bool) :
    (e.quarantine s reason compensated).Asks (e.Emits s) :=
  .bind (DeadLetter.route_asks trivial (fun millis => ⟨reason, millis, rfl⟩) trivial trivial)
    fun _ => .done _

theorem publish_calls : (e.publish s.alertsTopic).Asks (e.Emits s) := by
  refine asks_ask rfl fun produced => ?_
  cases produced with
  | error cause => exact .done _
  | ok => exact .call trivial fun _ => .done _

theorem compensate_calls (inserted : Bool) : (e.compensate inserted).Asks (e.Emits s) := by
  cases inserted with
  | false => exact .done _
  | true =>
      refine asks_ask rfl fun deleted => ?_
      cases deleted with
      | ok count => exact .done _
      | error cause => exact .call (.inr (.inr rfl)) fun _ => .done _

/-- To emit an alert makes calls of an emission only. -/
theorem emit_calls : (e.emit s).Asks (e.Emits s) := by
  refine asks_ask trivial fun alertId => asks_ask trivial fun begun => ?_
  cases begun with
  | error cause => exact .done _
  | ok =>
      refine asks_ask rfl fun stored => ?_
      cases stored with
      | error cause =>
          exact asks_ask trivial fun _ => asks_ask (.inl rfl) fun _ => asks_ask trivial fun _ =>
            (e.quarantine_calls _ _).bind fun _ => .done _
      | ok inserted =>
          refine asks_ask trivial fun _ => e.publish_calls.bind fun published => ?_
          cases published with
          | ok => exact asks_ask trivial fun _ => .done _
          | error cause =>
              exact asks_ask trivial fun _ => asks_ask (.inr (.inl rfl)) fun _ =>
                asks_ask trivial fun _ => (e.compensate_calls inserted).bind fun _ =>
                  (e.quarantine_calls _ _).bind fun _ => .done _

end Enrichment

namespace Record

variable {c : OffsetCommit} {m : Message}

theorem confirm_asks (adds : kind (.sendOffsets .results [c])) (commits : kind (.commit .results)) :
    c.confirm.Asks kind := by
  refine asks_ask adds fun sent => ?_
  cases sent with
  | error cause => exact .done _
  | ok =>
      refine asks_ask commits fun committed => ?_
      cases committed with
      | error cause => exact .done _
      | ok => exact .done _

theorem produceAndConfirm_asks (produces : kind (.produce .results m))
    (adds : kind (.sendOffsets .results [c])) (commits : kind (.commit .results)) :
    (produceAndConfirm m c).Asks kind := by
  refine asks_ask produces fun produced => ?_
  cases produced with
  | error cause => exact .done _
  | ok => exact confirm_asks adds commits

end Record

end AlertRelay
