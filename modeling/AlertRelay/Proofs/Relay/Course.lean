import AlertRelay.Proofs.Relay.Provenance

/-!
# Work that goes well

A record whose event can be enriched is worked on to the end if every call succeeds, whatever the
settings are: `Record.handle_course` gives the transcript. Its score and its label are the only ones
in the transcript, and all that is published about the record is about the one enrichment.
-/

namespace AlertRelay

theorem ask_yields (request : RelayCall) (reply : request.Reply) :
    request.ask.Yields [⟨request, reply⟩] reply := ⟨reply, [], rfl, rfl, rfl⟩

variable {s : RelaySettings} {r : Record} {raw : RawEvent} {e : Enrichment} {fresh alertId : Uuid}

/-- The calls that enrich an event. -/
def Enrichment.enriching (e : Enrichment) (fresh : Uuid) : List (Exchange Interface.relay) :=
  [⟨.freshId, fresh⟩, ⟨.score e.event, .ok e.score⟩, ⟨.label e.event e.score, .ok e.label⟩]

/-- The calls that store and publish an alert. -/
def Enrichment.emitting (e : Enrichment) (s : RelaySettings) (alertId : Uuid) :
    List (Exchange Interface.relay) :=
  [⟨.freshId, alertId⟩, ⟨.begin .alerts, .ok ()⟩, ⟨.insertAlert (e.alert alertId), .ok true⟩,
    ⟨.observe .insert true, ()⟩,
    ⟨.produce .alerts (.plain s.alertsTopic (some e.key) e.payload), .ok ()⟩,
    ⟨.commit .alerts, .ok ()⟩, ⟨.observe .publish true, ()⟩]

/-- An event is enriched by the calls of its course. -/
theorem RawEvent.yields_enriching (retry : RetryPolicy)
    (normalized : raw.normalize fresh = .ok e.event) :
    (raw.enrich retry).Yields (e.enriching fresh) (.ok e) := by
  have labeled := (ask_yields (.label e.event e.score) (.ok e.label)).attemptPlain retry
    RelayCall.share.ask EnrichmentError.isRetryable
  refine yields_ask.mpr ⟨fresh, _, rfl, ?_⟩
  rw [normalized]
  exact yields_ask.mpr ⟨.ok e.score, _, rfl, labeled.bind ⟨rfl, rfl⟩⟩

/-- An alert is emitted by the calls of its course. -/
theorem Enrichment.yields_emitting :
    (e.emit s).Yields (e.emitting s alertId) (.ok (.published alertId true)) := by
  refine yields_ask.mpr ⟨alertId, _, rfl, yields_ask.mpr ⟨.ok (), _, rfl, ?_⟩⟩
  refine yields_ask.mpr ⟨.ok true, _, rfl, yields_ask.mpr ⟨(), _, rfl, ?_⟩⟩
  refine yields_ask.mpr ⟨.ok (), _, rfl, yields_ask.mpr ⟨.ok (), _, rfl, ?_⟩⟩
  exact yields_ask.mpr ⟨(), _, rfl, rfl, rfl⟩

namespace Record

/-- The calls that commit the result of an event. -/
def concluding (s : RelaySettings) (c : OffsetCommit) (e : Enrichment) :
    List (Exchange Interface.relay) :=
  [⟨.produce .results (resultMessage s e), .ok ()⟩, ⟨.sendOffsets .results [c], .ok ()⟩,
    ⟨.commit .results, .ok ()⟩]

/-- The transcript of the work on a record where all goes well. -/
def course (s : RelaySettings) (r : Record) (fresh alertId : Uuid) (e : Enrichment) :
    List (Exchange Interface.relay) :=
  let c := OffsetCommit.forRecord r s.group
  ⟨.checkOffset c, .ok ()⟩ :: (⟨.begin .results, .ok ()⟩ :: (e.enriching fresh ++
    (e.emitting s alertId ++ concluding s c e)) ++ [⟨.recordOffset c, ()⟩, ⟨.countProcessed, ()⟩])

/-- The work on a record is done by the calls of its course. -/
theorem work_course {c : OffsetCommit} (decoded : r.rawEvent? = some raw)
    (normalized : raw.normalize fresh = .ok e.event) :
    (r.work s c .none).Yields (e.enriching fresh ++ (e.emitting s alertId ++ concluding s c e))
      (.ok .processed, ⟨some e, some (.published alertId true)⟩) := by
  have concluded : (conclude s c e (.published alertId true)).Yields (concluding s c e)
      (.ok .processed) := by
    refine yields_ask.mpr ⟨.ok (), _, rfl, yields_ask.mpr ⟨.ok (), _, rfl, ?_⟩⟩
    exact yields_ask.mpr ⟨.ok (), _, rfl, rfl, rfl⟩
  unfold Record.work
  rw [decoded]
  refine (RawEvent.yields_enriching s.labelerRetry normalized).bind ?_
  refine Enrichment.yields_emitting.bind ?_
  rw [← List.append_nil (concluding s c e)]
  exact concluded.bind ⟨rfl, rfl⟩

/-- A record whose event can be enriched is processed where all goes well. -/
theorem handle_course (s : RelaySettings) (alertId : Uuid) (decoded : r.rawEvent? = some raw)
    (normalized : raw.normalize fresh = .ok e.event) :
    (r.handle s).Yields (r.course s fresh alertId e) (.ok .processed) := by
  have attempt : (r.attemptWork s (.forRecord r s.group) .none).Yields
      (⟨.begin .results, .ok ()⟩ :: (e.enriching fresh ++ (e.emitting s alertId ++
        concluding s (.forRecord r s.group) e)))
      (.ok .processed, ⟨some e, some (.published alertId true)⟩) := by
    refine yields_ask.mpr ⟨.ok (), _, rfl, ?_⟩
    rw [← List.append_nil (_ ++ _)]
    exact (work_course decoded normalized).bind ⟨rfl, rfl⟩
  refine yields_ask.mpr ⟨.ok (), _, rfl, ?_⟩
  refine (attempt.attempt s.retry RelayCall.share.ask RelayError.isRetryable).bind ?_
  exact yields_ask.mpr ⟨(), _, rfl, yields_ask.mpr ⟨(), _, rfl, rfl, rfl⟩⟩

/-- Where all goes well, the alert and the result are published. -/
theorem course_publishes :
    ⟨.produce .alerts (.plain s.alertsTopic (some e.key) e.payload), .ok ()⟩ ∈
        r.course s fresh alertId e ∧
      ⟨.produce .results (resultMessage s e), .ok ()⟩ ∈ r.course s fresh alertId e := by
  simp only [Record.course, Enrichment.enriching, Enrichment.emitting, Record.concluding,
    List.cons_append, List.nil_append, List.mem_cons, true_or, or_true, and_self]

/-- One score and one label are given where all goes well. -/
theorem course_models : ∀ x ∈ r.course s fresh alertId e,
    x.request.Models (· = e.score) (· = e.label) x.reply := by
  simp only [Record.course, Enrichment.enriching, Enrichment.emitting, Record.concluding,
    List.cons_append, List.nil_append, List.forall_mem_cons, RelayCall.Models, true_and]
  exact ⟨fun _ same => (Except.ok.inj same).symm, fun _ same => (Except.ok.inj same).symm,
    List.forall_mem_nil _⟩

end Record

end AlertRelay
