import AlertRelay.Proofs.Program.Transcript
import AlertRelay.Proofs.Relay.Handling

/-!
# Where messages come from

While a worker works on a record, the alerts it publishes and the payloads it makes dead letters of
are those of an enrichment of that record, and its results are results of one
(`Record.handle_origin`): the event was normalized from the record, and its scores and its label are
what the models have replied.
-/

namespace AlertRelay

namespace Program

variable {I : Interface} {α : Type} {allows : I.Call → Prop}
  {shows : (request : I.Call) → I.Reply request → Prop}

/-- A program that keeps to a discipline without a view makes only calls that are in order, as long
as the replies are what the discipline says. -/
theorem Obeys.requests {ends : α → Unit → Prop} {p : Program I α} {transcript : List (Exchange I)}
    {a : α}
    (obeys : p.Obeys ⟨fun _ => allows, fun _ request reply _ => shows request reply⟩ ends ())
    (yields : p.Yields transcript a) (replied : ∀ x ∈ transcript, shows x.request x.reply) :
    ∀ x ∈ transcript, allows x.request := by
  induction p generalizing transcript with
  | done b =>
      obtain ⟨rfl, _⟩ := yields
      exact nofun
  | call request next ih =>
      obtain ⟨reply, rest, rfl, later⟩ := yields
      obtain ⟨shown, others⟩ := List.forall_mem_cons.mp replied
      exact List.forall_mem_cons.mpr ⟨obeys.1, ih reply (obeys.2 reply () shown) later others⟩
  | pause nanos next ih => exact ih obeys yields replied
  | crash => exact obeys.elim

end Program

/-- Whether the models give scores and labels of a kind. -/
def RelayCall.Models (scores : Score → Prop) (labels : Label → Prop) :
    (request : RelayCall) → request.Reply → Prop
  | .score _, reply => ∀ score, reply = .ok score → scores score
  | .label _ _, reply => ∀ label, reply = .ok label → labels label
  | _, _ => True

namespace Record

/-- Whether an enrichment is one of a record, with scores and a label of a kind. -/
structure Enriches (r : Record) (scores : Score → Prop) (labels : Label → Prop) (e : Enrichment) :
    Prop where
  normalized : ∃ raw fresh, r.rawEvent? = some raw ∧ raw.normalize fresh = .ok e.event
  score : scores e.score
  label : labels e.label

/-- Whether what a call writes is about one of certain enrichments, if the record is decoded. -/
def Writes (s : RelaySettings) (r : Record) (ours : Enrichment → Prop) : RelayCall → Prop
  | .produce .alerts m => ∃ e, ours e ∧ m = .plain s.alertsTopic (some e.key) e.payload
  | .produce .results m => (∃ e, ours e ∧ m = resultMessage s e) ∨ r.rawEvent? = none
  | .sendDeadLetter m => ∃ e reason millis, ours e ∧
      m = (DeadLetter.ofPayload (some e.key) e.payload reason).message s.deadLetterTopic millis
  | _ => True

/-- How a worker writes about a record, as far as the origin of the messages is concerned. -/
def originDiscipline (s : RelaySettings) (r : Record) (scores : Score → Prop)
    (labels : Label → Prop) : Discipline Interface.relay Unit :=
  ⟨fun _ => r.Writes s (r.Enriches scores labels), fun _ request reply _ =>
    request.Models scores labels reply⟩

variable {s : RelaySettings} {r : Record} {c : OffsetCommit} {scores : Score → Prop}
  {labels : Label → Prop} {ours : Enrichment → Prop} {e : Enrichment} {raw : RawEvent} {α : Type}

/-- Quiet calls write nothing. -/
theorem writes_of_quiet {request : RelayCall} (quiet : request.Quiet) :
    r.Writes s ours request := by
  cases request with
  | produce | sendDeadLetter => exact quiet.elim
  | _ => trivial

theorem origin_ask {request : RelayCall} {f : request.Reply → RelayProgram α}
    {ends : α → Unit → Prop} (allowed : r.Writes s (r.Enriches scores labels) request)
    (next : ∀ reply, request.Models scores labels reply →
      (f reply).Obeys (r.originDiscipline s scores labels) ends ()) :
    (request.ask >>= f).Obeys (r.originDiscipline s scores labels) ends () :=
  ⟨allowed, fun reply _ shown => next reply shown⟩

/-- Calls that write about enrichments of the record are always in order. -/
theorem origin_of_asks {p : RelayProgram α}
    (asks : p.Asks (r.Writes s (r.Enriches scores labels))) :
    p.Obeys (r.originDiscipline s scores labels) (fun _ _ => True) () :=
  asks.obeys (fun _ => True) (fun _ _ _ is => is) (fun _ _ _ _ _ _ _ => trivial) trivial

theorem origin_of_quiet {p : RelayProgram α} (asks : p.Asks RelayCall.Quiet) :
    p.Obeys (r.originDiscipline s scores labels) (fun _ _ => True) () :=
  origin_of_asks (asks.weaken fun _ quiet => writes_of_quiet quiet)

/-- What is enriched is an enrichment of the record. -/
theorem enrich_origin (decoded : r.rawEvent? = some raw) :
    (raw.enrich s.labelerRetry).Obeys (r.originDiscipline s scores labels)
      (fun enriched _ => ∀ e, enriched = .ok e → r.Enriches scores labels e) () := by
  refine origin_ask trivial fun fresh _ => ?_
  cases normalized : raw.normalize fresh with
  | error cause => exact fun e is => (by cases is)
  | ok event =>
      refine origin_ask trivial fun scored given => ?_
      cases scored with
      | error cause => exact fun e is => (by cases is)
      | ok score =>
          refine Program.Obeys.bind (Program.attemptPlain_obeys s.labelerRetry (fun _ => True)
            (fun outcome _ => ∀ label, outcome = .ok label → labels label)
            (fun _ _ => origin_of_quiet asks_share) (fun _ _ => ?_) () trivial)
            fun labeled _ found => ?_
          · exact ⟨trivial, fun reply _ shown => ⟨shown, fun _ _ _ => trivial⟩⟩
          · cases outcome : labeled.outcome with
            | error cause => exact fun e is => (by cases is)
            | ok label =>
                intro e is
                cases is
                exact ⟨⟨raw, fresh, decoded, normalized⟩, given score rfl, found label outcome⟩

/-- Emitting an alert writes about nothing else. -/
theorem emit_writes (own : ours e) : (e.emit s).Asks (r.Writes s ours) := by
  refine e.emit_calls.weaken fun request emits => ?_
  cases request with
  | produce lane m =>
      cases lane with
      | results => exact emits.elim
      | alerts => exact ⟨e, own, emits⟩
  | sendDeadLetter m =>
      obtain ⟨reason, millis, same⟩ := emits
      exact ⟨e, reason, millis, own, same⟩
  | _ => trivial

/-- The result of an enrichment is written about that enrichment. -/
theorem conclude_writes (own : ours e) (emission : Emission) :
    (conclude s c e emission).Asks (r.Writes s ours) := by
  cases emission with
  | quarantined reason compensated => exact (confirm_asks trivial trivial).bind fun _ => .done _
  | published alertId inserted =>
      exact (produceAndConfirm_asks (.inl ⟨e, own, rfl⟩) trivial trivial).bind fun _ => .done _

/-- Whether what earlier attempts have enriched is an enrichment of the record. -/
def Own (r : Record) (scores : Score → Prop) (labels : Label → Prop) (p : UnitProgress) : Prop :=
  ∀ e, p.enrichment = some e → r.Enriches scores labels e

/-- An attempt inside its transaction writes about enrichments of the record. -/
theorem work_origin {p : UnitProgress} (own : r.Own scores labels p) :
    (r.work s c p).Obeys (r.originDiscipline s scores labels)
      (fun made _ => r.Own scores labels made.2) () := by
  unfold Record.work
  cases decoded : r.rawEvent? with
  | none =>
      have aside : (r.setAside s .undecodable c).Asks
          (r.Writes s (r.Enriches scores labels)) :=
        asks_ask trivial fun millis => produceAndConfirm_asks (.inr decoded) trivial trivial
      exact (origin_of_asks aside).bind fun written _ _ => own
  | some raw =>
      have enriching : (enrichOnce s raw p).Obeys (r.originDiscipline s scores labels)
          (fun enriched _ => ∀ e, enriched = .ok e → r.Enriches scores labels e) () := by
        unfold Record.enrichOnce
        cases achieved : p.enrichment with
        | some known =>
            intro e is
            cases is
            exact own known achieved
        | none => exact enrich_origin decoded
      refine enriching.bind fun enriched _ found => ?_
      cases enriched with
      | error cause => exact own
      | ok e =>
          have now : ∀ emission, r.Own scores labels ⟨some e, emission⟩ := by
            intro emission other same
            cases same
            exact found e rfl
          have emitting : (emitOnce s e p).Obeys (r.originDiscipline s scores labels)
              (fun _ _ => True) () := by
            unfold Record.emitOnce
            cases p.emission with
            | some known => trivial
            | none => exact origin_of_asks (emit_writes (found e rfl))
          refine emitting.bind fun emitted _ _ => ?_
          cases emitted with
          | error cause => exact now _
          | ok emission =>
              exact (origin_of_asks (conclude_writes (found e rfl) emission)).bind
                fun _ _ _ => now _

/-- An attempt at a record writes about enrichments of the record. -/
theorem attemptWork_origin {p : UnitProgress} (own : r.Own scores labels p) :
    (r.attemptWork s c p).Obeys (r.originDiscipline s scores labels)
      (fun made _ => r.Own scores labels made.2) () := by
  refine origin_ask trivial fun begun _ => ?_
  cases begun with
  | error cause => exact own
  | ok =>
      refine (work_origin own).bind fun made _ kept => ?_
      obtain ⟨outcome, achieved⟩ := made
      dsimp only
      split
      · exact origin_ask trivial fun _ _ => kept
      · exact kept

/-- What a worker writes about a record comes from enrichments of it. -/
theorem handle_origin : (r.handle s).Obeys (r.originDiscipline s scores labels)
    (fun _ _ => True) () := by
  refine origin_ask trivial fun checked _ => ?_
  cases checked with
  | error e => exact origin_ask trivial fun _ _ => trivial
  | ok =>
      refine Program.Obeys.bind (Program.attempt_obeys s.retry (fun p _ => r.Own scores labels p)
        (fun _ _ => True) (fun p _ own => ?_) (fun p _ own => ?_) UnitProgress.none () nofun)
        fun made _ _ => ?_
      · exact (origin_of_quiet asks_share).mono fun _ _ _ => own
      · exact (attemptWork_origin own).mono fun _ _ kept => ⟨trivial, fun _ _ _ => kept⟩
      · obtain ⟨⟨outcome, attempts⟩, achieved⟩ := made
        cases outcome with
        | error e => exact origin_ask trivial fun _ _ => trivial
        | ok done =>
            cases done with
            | failed => exact origin_ask trivial fun _ _ => trivial
            | processed | deadLettered =>
                exact origin_ask trivial fun _ _ => origin_ask trivial fun _ _ => trivial

end Record

end AlertRelay
