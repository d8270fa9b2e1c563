import AlertRelay.Proofs.Relay.Calls
import AlertRelay.Proofs.Relay.Unit

/-!
# Working on a record

The ways to work on a record keep to the discipline of its unit (`Record.handle_obeys`,
`Record.deadLetter_obeys`): every attempt ends with a commit or with nothing left open that could
have been dropped, and what one attempt has enriched or published is not done again by the next.
-/

namespace AlertRelay

/-! ## Enriching and emitting -/

section Steps

variable {s : RelaySettings} {α : Type}

theorem yields_ask {request : RelayCall} {f : request.Reply → RelayProgram α}
    {transcript : List (Exchange Interface.relay)} {a : α} :
    (request.ask >>= f).Yields transcript a ↔ ∃ reply rest,
      transcript = ⟨request, reply⟩ :: rest ∧ (f reply).Yields rest a := Iff.rfl

theorem asks_share : RelayCall.share.ask.Asks RelayCall.Quiet :=
  .call trivial fun _ => .done _

/-- To enrich an event asks nothing that concerns producers, store or ledger. -/
theorem RawEvent.enrich_asks (labelerRetry : RetryPolicy) (raw : RawEvent) :
    (raw.enrich labelerRetry).Asks RelayCall.Quiet := by
  refine (raw.enrich_calls labelerRetry).weaken fun request enriching => ?_
  cases request with
  | freshId | score | label | share => trivial
  | _ => exact enriching.elim

namespace Enrichment

variable (e : Enrichment)

theorem quarantine_asks (reason : DeadLetterReason) (compensated : Bool) :
    (e.quarantine s reason compensated).Asks (RelayCall.Emitting s) :=
  .bind (DeadLetter.route_asks trivial (fun millis => ⟨_, _, _, millis, rfl⟩) trivial trivial)
    fun _ => .done _

theorem publish_asks : (e.publish s.alertsTopic).Asks (RelayCall.Emitting s) := by
  refine asks_ask ⟨_, _, rfl⟩ fun produced => ?_
  cases produced with
  | error cause => exact .done _
  | ok => exact .call trivial fun _ => .done _

theorem compensate_asks (inserted : Bool) :
    (e.compensate inserted).Asks (RelayCall.Emitting s) := by
  cases inserted with
  | false => exact .done _
  | true =>
      refine asks_ask trivial fun deleted => ?_
      cases deleted with
      | ok count => exact .done _
      | error cause => exact .call trivial fun _ => .done _

end Enrichment

namespace Record

variable {r : Record}

theorem obeys_ask {request : RelayCall} {f : request.Reply → RelayProgram α}
    {ends : α → UnitView → Prop} {v : UnitView} (allowed : r.Allows s v request)
    (next : ∀ reply, Possible request reply →
      (f reply).Obeys (r.unitDiscipline s) ends (v.note request reply)) :
    (request.ask >>= f).Obeys (r.unitDiscipline s) ends v :=
  ⟨allowed, fun reply _ shown => shown.2 ▸ next reply shown.1⟩

/-- Once the transaction of the alerts producer is open, what emission does leaves the rest of the
view as it was. -/
theorem obeys_of_emitting {p : RelayProgram α} (asks : p.Asks (RelayCall.Emitting s)) {v : UnitView}
    (alerting : v.Alerting s) :
    p.Obeys (r.unitDiscipline s) (fun _ after => v.Beside after) v := by
  refine (asks.obeys (fun after => v.Beside after ∧ after.Alerting s)
    (fun _ request kept emitting => allows_emitting emitting kept.2) ?_
    ⟨.refl v, alerting⟩).mono fun _ _ kept => kept.1
  rintro before request reply _ kept emitting ⟨_, rfl⟩
  exact ⟨kept.1.trans (before.note_beside request emitting reply),
    before.note_alerting emitting reply kept.2⟩

/-- Emitting an alert concerns the results producer in nothing. -/
theorem emit_obeys (e : Enrichment) (v : UnitView) :
    (e.emit s).Obeys (r.unitDiscipline s)
      (fun emitted after => v.Beside after ∧ (e.emit s).RanIn emitted after.transcript) v := by
  have obeys : (e.emit s).Obeys (r.unitDiscipline s) (fun _ after => v.Beside after) v := by
    refine obeys_ask trivial fun alertId _ => obeys_ask trivial fun begun _ => ?_
    have beside : v.Beside ((v.note .freshId alertId).note (.begin .alerts) begun) := by
      cases begun <;> exact ⟨rfl, rfl,
        by simp only [UnitView.note, RelayCall.sticks, Bool.or_false],
        (List.prefix_append _ _).trans (List.prefix_append _ _)⟩
    cases begun with
    | error cause => exact beside
    | ok =>
        refine (obeys_of_emitting (s := s) ?_ ?_).mono fun _ _ later => beside.trans later
        · refine asks_ask trivial fun inserted => ?_
          cases inserted with
          | error cause =>
              exact asks_ask trivial fun _ => asks_ask trivial fun _ => asks_ask trivial fun _ =>
                .bind (e.quarantine_asks _ _) fun _ => .done _
          | ok inserted =>
              refine asks_ask trivial fun _ => .bind e.publish_asks fun published => ?_
              cases published with
              | ok => exact asks_ask trivial fun _ => .done _
              | error cause =>
                  exact asks_ask trivial fun _ => asks_ask trivial fun _ =>
                    asks_ask trivial fun _ => .bind (e.compensate_asks inserted) fun _ =>
                      .bind (e.quarantine_asks _ _) fun _ => .done _
        · rintro t held
          cases held
          exact ⟨rfl, fun m among => (by cases among)⟩
  exact obeys_ran obeys

/-- A program only adds to the transcript. -/
theorem obeys_grown {ends : α → UnitView → Prop} {p : RelayProgram α} {v : UnitView}
    (obeys : p.Obeys (r.unitDiscipline s) ends v) :
    p.Obeys (r.unitDiscipline s)
      (fun a after => ends a after ∧ v.transcript <+: after.transcript) v := by
  refine (obeys.transcribed UnitView.transcript ?_).mono ?_
  · rintro _ _ _ _ ⟨_, rfl⟩
    rfl
  · rintro a after ⟨ended, during, same, _⟩
    exact ⟨ended, during, same.symm⟩

/-! ## Committing -/

/-- How the work inside a transaction can end: the transaction is committed, or the unit is still
where the ledger has admitted it. -/
structure Tried (s : RelaySettings) (r : Record) (outcome : Except RelayError Outcome)
    (after : UnitView) : Prop where
  cause : ∀ e, outcome = .error e → ∃ cause, e = .broker cause
  kept : leavesOpen outcome = true → after.standing = .admitted
  committed : leavesOpen outcome = false → after.results = none ∧
    ∃ t, after.standing = .committed t ∧ r.Fits s after.transcript t

/-- An attempt that fails while the record is admitted can be made again. -/
theorem Tried.of_error {v : UnitView} {cause : BrokerError} (standing : v.standing = .admitted) :
    r.Tried s (.error (.broker cause)) v where
  cause _ is := by
    cases is
    exact ⟨cause, rfl⟩
  kept _ := standing
  committed closed := by cases closed

/-- An attempt that commits a transaction which fits the record has succeeded. -/
theorem Tried.of_commit {v : UnitView} {t : Transaction} {done : Outcome}
    (final : leavesOpen (.ok done) = false) (held : v.results = some t)
    (fits : r.Fits s v.transcript t) :
    r.Tried s (.ok done) (v.note (.commit .results) (.ok ())) where
  cause _ is := by cases is
  kept left := by
    rw [final] at left
    cases left
  committed _ := by
    refine ⟨rfl, t, ?_, fits.offsets, fits.messages.mono (List.prefix_append ..)⟩
    change v.results.elim v.standing .committed = .committed t
    rw [held, Option.elim_some]

/-- An offset is committed with what the open transaction holds already. -/
theorem confirm_obeys {v : UnitView} {messages : List Message} {done : Outcome}
    (final : leavesOpen (.ok done) = false) (standing : v.standing = .admitted)
    (held : v.results = some ⟨messages, []⟩) (upshot : r.Upshot s v.transcript messages) :
    (OffsetCommit.forRecord r s.group).confirm.Obeys (r.unitDiscipline s)
      (fun confirmed after => r.Tried s (confirmed.map fun _ => done) after) v := by
  refine obeys_ask trivial fun sent _ => ?_
  cases sent with
  | error cause => exact Program.obeys_done.mpr (.of_error standing)
  | ok =>
      have added : (v.note (.sendOffsets .results [OffsetCommit.forRecord r s.group])
          (.ok ())).results = some ⟨messages, [OffsetCommit.forRecord r s.group]⟩ := by
        simp only [UnitView.note, RelayCall.transactionAfter, ↓reduceIte, held, Option.map_some,
          List.nil_append]
      have later := upshot.mono (List.prefix_append v.transcript
        [⟨.sendOffsets .results [OffsetCommit.forRecord r s.group], .ok ()⟩])
      refine obeys_ask ⟨standing, _, added, rfl, later⟩ fun committed _ => ?_
      cases committed with
      | error cause => exact Program.obeys_done.mpr (.of_error standing)
      | ok => exact Program.obeys_done.mpr (.of_commit final added ⟨rfl, later⟩)

/-- To write and confirm an outcome of the record is in order. -/
theorem produceAndConfirm_obeys {v : UnitView} {m : Message} {done : Outcome}
    (final : leavesOpen (.ok done) = false) (standing : v.standing = .admitted)
    (held : v.results = some ⟨[], []⟩) (upshot : r.Upshot s v.transcript [m]) :
    (produceAndConfirm m (OffsetCommit.forRecord r s.group)).Obeys (r.unitDiscipline s)
      (fun confirmed after => r.Tried s (confirmed.map fun _ => done) after) v := by
  refine obeys_ask trivial fun produced _ => ?_
  cases produced with
  | error cause => exact Program.obeys_done.mpr (.of_error standing)
  | ok =>
      have added : (v.note (.produce .results m) (.ok ())).results = some ⟨[m], []⟩ := by
        simp only [UnitView.note, RelayCall.transactionAfter, ↓reduceIte, held, Option.map_some,
          List.nil_append]
      exact confirm_obeys final standing added (upshot.mono (List.prefix_append ..))

/-- To set the record aside is in order. -/
theorem setAside_obeys {v : UnitView} (reason : DeadLetterReason) (done : Outcome)
    (final : leavesOpen (.ok done) = false) (standing : v.standing = .admitted)
    (held : v.results = some ⟨[], []⟩) :
    (r.setAside s reason (OffsetCommit.forRecord r s.group)).Obeys (r.unitDiscipline s)
      (fun written after => r.Tried s (written.map fun _ => done) after) v :=
  obeys_ask trivial fun millis _ =>
    produceAndConfirm_obeys final standing held (.setAside reason millis)

/-! ## Attempts -/

/-- What earlier attempts have achieved was done within the transcript. -/
structure Knows (s : RelaySettings) (r : Record) (p : UnitProgress)
    (transcript : List (Exchange Interface.relay)) : Prop where
  enriched : ∀ e, p.enrichment = some e → ∃ raw, r.rawEvent? = some raw ∧
    (raw.enrich s.labelerRetry).RanIn (.ok e) transcript
  emitted : ∀ emission, p.emission = some emission → ∃ e, p.enrichment = some e ∧
    (e.emit s).RanIn (.ok emission) transcript

/-- What was achieved within a transcript was achieved within a longer one. -/
theorem Knows.mono {p : UnitProgress} {transcript later : List (Exchange Interface.relay)}
    (knows : r.Knows s p transcript) (grown : transcript <+: later) : r.Knows s p later := by
  obtain ⟨more, rfl⟩ := grown
  constructor
  · intro e achieved
    obtain ⟨raw, decoded, ran⟩ := knows.enriched e achieved
    exact ⟨raw, decoded, ran.append more⟩
  · intro emission achieved
    obtain ⟨e, enriched, ran⟩ := knows.emitted emission achieved
    exact ⟨e, enriched, ran.append more⟩

theorem knows_none (transcript : List (Exchange Interface.relay)) :
    r.Knows s UnitProgress.none transcript where
  enriched _ achieved := by cases achieved
  emitted _ achieved := by cases achieved

/-- To enrich an event at most once is in order, and what comes of it was done within the
transcript. -/
theorem enrichOnce_obeys {v : UnitView} {raw : RawEvent} {p : UnitProgress}
    (decoded : r.rawEvent? = some raw) (knows : r.Knows s p v.transcript) :
    (enrichOnce s raw p).Obeys (r.unitDiscipline s) (fun enriched after => v.Beside after ∧
      ∀ e, enriched = .ok e → r.Knows s ⟨some e, p.emission⟩ after.transcript) v := by
  unfold Record.enrichOnce
  cases achieved : p.enrichment with
  | some known =>
      refine ⟨.refl v, fun e is => ?_⟩
      cases is
      rw [← achieved]
      exact knows
  | none =>
      refine (obeys_of_quiet (raw.enrich_asks s.labelerRetry) v).mono fun enriched after ended => ?_
      refine ⟨ended.1, fun e is => ⟨fun other same => ?_, fun emission emitted => ?_⟩⟩
      · cases same
        exact ⟨raw, decoded, is ▸ ended.2⟩
      · obtain ⟨e, enriched, _⟩ := knows.emitted emission emitted
        rw [achieved] at enriched
        cases enriched

/-- To emit an alert at most once is in order, and what comes of it was done within the transcript.
-/
theorem emitOnce_obeys {v : UnitView} {e : Enrichment} {p : UnitProgress}
    (knows : r.Knows s ⟨some e, p.emission⟩ v.transcript) :
    (emitOnce s e p).Obeys (r.unitDiscipline s) (fun emitted after => v.Beside after ∧
      ∀ emission, emitted = .ok emission →
        r.Knows s ⟨some e, some emission⟩ after.transcript) v := by
  unfold Record.emitOnce
  cases achieved : p.emission with
  | some known =>
      refine ⟨.refl v, fun emission is => ?_⟩
      cases is
      rw [← achieved]
      exact knows
  | none =>
      refine (emit_obeys e v).mono fun emitted after ended => ?_
      refine ⟨ended.1, fun emission is =>
        ⟨(knows.mono ended.1.transcript).enriched, fun other same => ?_⟩⟩
      cases same
      exact ⟨e, rfl, is ▸ ended.2⟩

/-- What the emission of an event calls for is committed. -/
theorem conclude_obeys {v : UnitView} {e : Enrichment} {emission : Emission}
    (standing : v.standing = .admitted) (held : v.results = some ⟨[], []⟩)
    (knows : r.Knows s ⟨some e, some emission⟩ v.transcript) :
    (conclude s (OffsetCommit.forRecord r s.group) e emission).Obeys (r.unitDiscipline s)
      (fun outcome after => r.Tried s outcome after) v := by
  obtain ⟨raw, decoded, enriched⟩ := knows.enriched e rfl
  obtain ⟨_, same, emitted⟩ := knows.emitted emission rfl
  cases same
  cases emission with
  | published alertId inserted =>
      exact (produceAndConfirm_obeys rfl standing held
        (.result raw e alertId inserted decoded enriched emitted)).bind fun _ _ tried => tried
  | quarantined reason compensated =>
      exact (confirm_obeys rfl standing held
        (.quarantined raw e reason compensated decoded enriched emitted)).bind
          fun _ _ tried => tried

/-- An attempt inside its transaction is in order. -/
theorem work_obeys {v : UnitView} {p : UnitProgress} (standing : v.standing = .admitted)
    (held : v.results = some ⟨[], []⟩) (knows : r.Knows s p v.transcript) :
    (r.work s (OffsetCommit.forRecord r s.group) p).Obeys (r.unitDiscipline s)
      (fun made after => r.Tried s made.1 after ∧ r.Knows s made.2 after.transcript) v := by
  unfold Record.work
  cases decoded : r.rawEvent? with
  | none =>
      refine (obeys_grown (setAside_obeys .undecodable .deadLettered rfl standing
        held)).bind fun written after ended => ?_
      exact ⟨ended.1, knows.mono ended.2⟩
  | some raw =>
      refine (enrichOnce_obeys decoded knows).bind fun enriched later ended => ?_
      obtain ⟨beside, found⟩ := ended
      cases enriched with
      | error cause =>
          exact ⟨⟨fun e is => (by cases is), fun _ => beside.standing.trans standing,
            fun left => (by cases left)⟩, knows.mono beside.transcript⟩
      | ok e =>
          refine (emitOnce_obeys (found e rfl)).bind fun emitted last ended => ?_
          obtain ⟨further, out⟩ := ended
          have standing := (beside.trans further).standing.trans standing
          cases emitted with
          | error cause =>
              exact ⟨.of_error standing, (found e rfl).mono further.transcript⟩
          | ok emission =>
              have held := (beside.trans further).results.trans held
              refine (obeys_grown (conclude_obeys standing held (out emission rfl))).bind
                fun concluded after ended => ?_
              exact ⟨ended.1, (out emission rfl).mono ended.2⟩

/-- Dropping an open transaction closes it, and leaves the unit where it was. -/
theorem note_abort {v : UnitView} {outcome : Except RelayError Outcome}
    (tried : r.Tried s outcome v) (left : leavesOpen outcome = true)
    (dropped : Except BrokerError Unit) :
    r.Tried s outcome (v.note (.abort .results) dropped) ∧
      (v.note (.abort .results) dropped).Closed := by
  refine ⟨⟨tried.cause, fun _ => tried.kept left, fun final => ?_⟩, ?_⟩
  · rw [left] at final
    cases final
  · cases dropped with
    | error cause => exact .inr (Bool.or_true _)
    | ok => exact .inl rfl

/-- One attempt at a record leaves nothing open that could have been dropped. -/
theorem attemptWork_obeys {v : UnitView} {p : UnitProgress} (standing : v.standing = .admitted)
    (closed : v.Closed) (knows : r.Knows s p v.transcript) :
    (r.attemptWork s (OffsetCommit.forRecord r s.group) p).Obeys (r.unitDiscipline s)
      (fun made after => (r.Tried s made.1 after ∧ after.Closed) ∧
        r.Knows s made.2 after.transcript) v := by
  refine obeys_ask trivial fun begun _ => ?_
  have grown := knows.mono (List.prefix_append v.transcript [⟨.begin .results, begun⟩])
  cases begun with
  | error cause =>
      exact Program.obeys_done.mpr ⟨⟨.of_error standing, closed.note rfl⟩, grown⟩
  | ok =>
      have begun : (v.note (.begin .results) (.ok ())).standing = .admitted := standing
      refine (work_obeys begun rfl grown).bind fun made later ended => ?_
      obtain ⟨outcome, achieved⟩ := made
      cases left : leavesOpen outcome with
      | true =>
          simp only [left, ↓reduceIte]
          refine obeys_ask trivial fun dropped _ => ?_
          exact ⟨note_abort ended.1 left dropped, ended.2.mono (List.prefix_append ..)⟩
      | false =>
          simp only [left, Bool.false_eq_true, ↓reduceIte]
          exact ⟨⟨ended.1, .inl (ended.1.committed left).1⟩, ended.2⟩

/-- An attempt to set the record aside is in order. -/
theorem attemptDeadLetter_obeys {v : UnitView} (reason : DeadLetterReason)
    (standing : v.standing = .admitted) (closed : v.Closed) :
    (r.attemptDeadLetter s reason (OffsetCommit.forRecord r s.group)).Obeys (r.unitDiscipline s)
      (fun written after => r.Tried s (written.map fun _ => .deadLettered) after ∧
        after.Closed) v := by
  refine obeys_ask trivial fun begun _ => ?_
  cases begun with
  | error cause =>
      exact Program.obeys_done.mpr ⟨.of_error standing, closed.note rfl⟩
  | ok =>
      have begun : (v.note (.begin .results) (.ok ())).standing = .admitted := standing
      refine (setAside_obeys reason .deadLettered rfl begun rfl).bind
        fun written later tried => ?_
      cases written with
      | ok => exact ⟨tried, .inl (tried.committed rfl).1⟩
      | error e => exact obeys_ask trivial fun dropped _ => note_abort tried rfl dropped

/-! ## Units -/

/-- How a unit of work can end. -/
structure Finished (s : RelaySettings) (r : Record) (outcome : Except RelayError Outcome)
    (after : UnitView) : Prop where
  closed : after.Closed
  failed : outcome = .ok .failed → after.standing = .admitted
  done : leavesOpen outcome = false → ∃ t, after.standing = .recorded t ∧
    r.Fits s after.transcript t
  error : ∀ e, outcome = .error e → e.isRetryable = false ∧
    (after.standing = .admitted ∧ (∀ detail, e ≠ .offset detail) ∨
      after.standing = .refused ∧ ∃ detail, e = .offset detail)

/-- What is given up because of the broker is not tried again, and no offset was refused. -/
theorem givenUp_broker (cause : BrokerError) (attempts : Nat) :
    (givenUp (.broker cause) attempts).isRetryable = false ∧
      ∀ detail, givenUp (.broker cause) attempts ≠ .offset detail := by
  unfold Record.givenUp
  split
  · exact ⟨rfl, fun _ same => by cases same⟩
  · next firm => exact ⟨Bool.eq_false_iff.mpr firm, fun _ same => by cases same⟩

/-- Whether a commit of the unit is made and noted in the ledger. -/
def Settled (s : RelaySettings) (r : Record) (v : UnitView) : Prop :=
  v.Closed ∧ ∃ t, v.standing = .recorded t ∧ r.Fits s v.transcript t

/-- What does not concern the results producer leaves a unit settled. -/
theorem Settled.beside {v later : UnitView} (settled : r.Settled s v) (beside : v.Beside later) :
    r.Settled s later := by
  obtain ⟨closed, t, standing, fits⟩ := settled
  exact ⟨beside.closed closed, t, beside.standing.trans standing, fits.offsets,
    fits.messages.mono beside.transcript⟩

/-- A unit is settled once the ledger has noted its commit. -/
theorem Settled.of_record {v : UnitView} {t : Transaction} (c : OffsetCommit) (closed : v.Closed)
    (standing : v.standing = .committed t) (fits : r.Fits s v.transcript t) :
    r.Settled s (v.note (.recordOffset c) ()) := by
  refine ⟨closed.note rfl, t, ?_, fits.offsets, fits.messages.mono (List.prefix_append ..)⟩
  simp only [UnitView.note, Standing.after, standing]

/-- To note the commit of a unit is in order and settles it. -/
theorem settle_obeys {v : UnitView} {t : Transaction} {done : Outcome} (closed : v.Closed)
    (final : leavesOpen (.ok done) = false) (standing : v.standing = .committed t)
    (fits : r.Fits s v.transcript t) :
    (settle (OffsetCommit.forRecord r s.group) done).Obeys (r.unitDiscipline s)
      (fun _ after => r.Settled s after) v := by
  have noted := Settled.of_record (OffsetCommit.forRecord r s.group) closed standing fits
  cases done with
  | failed => cases final
  | processed =>
      exact obeys_ask ⟨⟨t, standing⟩, rfl⟩ fun _ _ => obeys_ask trivial fun _ _ =>
        noted.beside (UnitView.note_beside (s := s) _ .countProcessed trivial ())
  | deadLettered =>
      exact obeys_ask ⟨⟨t, standing⟩, rfl⟩ fun _ _ => obeys_ask trivial fun _ _ =>
        noted.beside (UnitView.note_beside (s := s) _ .countDeadLettered trivial ())

/-- A unit that is settled is finished with its outcome. -/
theorem Finished.of_settled {v : UnitView} {done : Outcome} (final : leavesOpen (.ok done) = false)
    (settled : r.Settled s v) : r.Finished s (.ok done) v where
  closed := settled.1
  failed is := by
    cases is
    cases final
  done _ := settled.2
  error _ is := by cases is

/-- A unit that the ledger refuses ends there. -/
theorem refused_obeys {v : UnitView} {e : RelayError} {c : OffsetCommit} (closed : v.Closed)
    (possible : Possible (.checkOffset c) (.error e)) :
    (RelayCall.countFailure .offset).ask.Obeys (r.unitDiscipline s)
      (fun _ after => r.Finished s (.error e) after) (v.note (.checkOffset c) (.error e)) := by
  obtain ⟨detail, rfl⟩ := possible
  refine obeys_ask trivial fun _ _ => ?_
  have beside := (v.note (.checkOffset c) (.error (.offset detail))).note_beside (s := s)
    (.countFailure .offset) trivial ()
  refine ⟨beside.closed (closed.note rfl),
    fun is => (by cases is), fun left => (by cases left), fun e is => ?_⟩
  cases is
  exact ⟨rfl, .inr ⟨rfl, detail, rfl⟩⟩

/-- A unit that is given up is finished with an error. -/
theorem givenUp_obeys {v : UnitView} {cause : BrokerError} (closed : v.Closed)
    (standing : v.standing = .admitted) (attempts : Nat) :
    (RelayCall.countFailure .commit).ask.Obeys (r.unitDiscipline s)
      (fun _ after => r.Finished s (.error (givenUp (.broker cause) attempts)) after) v := by
  refine obeys_ask trivial fun _ _ => ?_
  have beside := v.note_beside (s := s) (.countFailure .commit) trivial ()
  refine ⟨beside.closed closed, fun is => (by cases is), fun left => (by cases left),
    fun e is => ?_⟩
  cases is
  exact ⟨(givenUp_broker cause attempts).1,
    .inl ⟨beside.standing.trans standing, (givenUp_broker cause attempts).2⟩⟩

/-- Working on a record keeps to the discipline of its unit. -/
theorem handle_obeys {v : UnitView} (entered : v.standing = .entered) (closed : v.Closed) :
    (r.handle s).Obeys (r.unitDiscipline s) (r.Finished s) v := by
  refine obeys_ask ⟨entered, rfl⟩ fun checked possible => ?_
  cases checked with
  | error e => exact (refused_obeys closed possible).bind fun _ _ finished => finished
  | ok =>
      refine Program.Obeys.bind (Program.attempt_obeys s.retry
        (fun p w => w.standing = .admitted ∧ w.Closed ∧ r.Knows s p w.transcript)
        (fun outcome w => r.Tried s outcome w ∧ w.Closed)
        (fun p w ready => ?_) (fun p w ready => ?_) UnitProgress.none _ ?_) fun made w ended => ?_
      · refine (obeys_of_quiet asks_share w).mono fun _ later drawn => ?_
        exact ⟨drawn.1.standing.trans ready.1, drawn.1.closed ready.2.1,
          ready.2.2.mono drawn.1.transcript⟩
      · refine (attemptWork_obeys ready.1 ready.2.1 ready.2.2).mono fun made later ended => ?_
        refine ⟨ended.1, fun e is _ => ⟨ended.1.1.kept ?_, ended.1.2, ended.2⟩⟩
        rw [is]
        rfl
      · exact ⟨rfl, closed.note rfl, knows_none _⟩
      · obtain ⟨⟨outcome, attempts⟩, achieved⟩ := made
        obtain ⟨tried, closed⟩ := ended
        cases outcome with
        | error e =>
            obtain ⟨cause, rfl⟩ := tried.cause e rfl
            exact (givenUp_obeys closed (tried.kept rfl) attempts).bind
              fun _ _ finished => finished
        | ok done =>
            cases final : leavesOpen (.ok done) with
            | false =>
                obtain ⟨_, t, standing, fits⟩ := tried.committed final
                exact (settle_obeys closed final standing fits).bind
                  fun _ _ settled => Finished.of_settled final settled
            | true =>
                have same : done = .failed := by
                  cases done with
                  | failed => rfl
                  | processed | deadLettered => cases final
                subst same
                refine obeys_ask trivial fun _ _ => ?_
                have beside := w.note_beside (s := s) (.countFailure .enrichment) trivial ()
                exact ⟨beside.closed closed, fun _ => beside.standing.trans (tried.kept rfl),
                  fun left => (by cases left), fun _ is => (by cases is)⟩

/-- Setting a record aside keeps to the discipline of its unit. -/
theorem deadLetter_obeys {v : UnitView} (reason : DeadLetterReason)
    (entered : v.standing = .entered) (closed : v.Closed) :
    (r.deadLetter s reason).Obeys (r.unitDiscipline s)
      (fun result after => r.Finished s (result.map fun _ => .deadLettered) after) v := by
  refine obeys_ask ⟨entered, rfl⟩ fun checked possible => ?_
  cases checked with
  | error e => exact (refused_obeys closed possible).bind fun _ _ finished => finished
  | ok =>
      refine Program.Obeys.bind (Program.attemptPlain_obeys s.retry
        (fun w => w.standing = .admitted ∧ w.Closed)
        (fun result w => r.Tried s (result.map fun _ => .deadLettered) w ∧ w.Closed)
        (fun w ready => ?_) (fun w ready => ?_) _ ?_) fun made w ended => ?_
      · refine (obeys_of_quiet asks_share w).mono fun _ later drawn => ?_
        exact ⟨drawn.1.standing.trans ready.1, drawn.1.closed ready.2⟩
      · refine (attemptDeadLetter_obeys reason ready.1 ready.2).mono fun result later ended => ?_
        refine ⟨ended, fun e is _ => ⟨ended.1.kept ?_, ended.2⟩⟩
        rw [is]
        rfl
      · exact ⟨rfl, closed.note rfl⟩
      · obtain ⟨outcome, attempts⟩ := made
        obtain ⟨tried, closed⟩ := ended
        cases outcome with
        | error e =>
            obtain ⟨cause, same⟩ := tried.cause e rfl
            subst same
            exact (givenUp_obeys closed (tried.kept rfl) attempts).bind
              fun _ _ finished => finished
        | ok =>
            obtain ⟨_, t, standing, fits⟩ := tried.committed rfl
            exact (settle_obeys closed rfl standing fits).bind
              fun _ _ settled => Finished.of_settled rfl settled

end Record

end Steps

end AlertRelay
