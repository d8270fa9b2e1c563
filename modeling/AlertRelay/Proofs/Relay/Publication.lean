import AlertRelay.Proofs.Enrich.Normalize
import AlertRelay.Proofs.Number.Finite
import AlertRelay.Proofs.Relay.Course

/-!
# Reading what is published

Whatever a worker publishes about a record can be read by the decoders of this project, but for one
kind of payload: a record is accepted with members nested in up to 126 lists and objects, the
payload puts what was not recognized inside three more, and the decoder of payloads takes 127 in
all. A member nested in 125 or 126 of them is published where no decoder of payloads reads it
(`Record.messages_read_back`). Results are always read.
-/

namespace AlertRelay

namespace Score

/-- Whether a score was put together by one of its constructors. -/
def Built (s : Score) : Prop :=
  (∃ isolation sequence aggregate, s = clamped isolation sequence aggregate) ∨
    ∃ isolation sequence, s = ofComponents isolation sequence

/-- A score that was put together by a constructor has finite parts. -/
theorem Built.finite {s : Score} (built : s.Built) : ∀ x ∈ s.reals, x.isFinite = true := by
  have kept : ∀ isolation sequence aggregate, ∀ x ∈ (clamped isolation sequence aggregate).reals,
      x.isFinite = true := by
    intro isolation sequence aggregate
    simp only [Score.reals, Score.clamped, List.forall_mem_cons]
    exact ⟨isFinite_clampUnit _, isFinite_clampUnit _, isFinite_clampUnit _, List.forall_mem_nil _⟩
  rcases built with ⟨isolation, sequence, aggregate, rfl⟩ | ⟨isolation, sequence, rfl⟩
  · exact kept _ _ _
  · exact kept _ _ _

end Score

namespace Json

/-- A list inside a list, and so on. -/
def nest : Nat → Json
  | 0 => .null
  | depth + 1 => .list [nest depth]

theorem normal_nest (depth : Nat) : (nest depth).Normal := by
  induction depth with
  | zero => trivial
  | succ depth ih => exact ⟨ih, trivial⟩

theorem reals_nest (depth : Nat) : (nest depth).reals = [] := by
  induction depth with
  | zero => rfl
  | succ depth ih => exact (List.append_nil _).trans ih

/-- A list inside so many lists is nested so deep. -/
theorem nesting_nest (depth : Nat) : (nest depth).toDocument.nesting = depth := by
  induction depth with
  | zero => rfl
  | succ depth ih => exact congrArg (· + 1) ((Nat.max_zero _).trans ih)

end Json

namespace Record

variable {s : RelaySettings} {r : Record} {raw : RawEvent} {e : Enrichment}
  {scores : Score → Prop} {labels : Label → Prop} {transcript : List (Exchange Interface.relay)}
  {outcome : Except RelayError Outcome}

/-- Whether an enrichment is one of a record, with a score and a label of a transcript. -/
def EnrichedIn (r : Record) (transcript : List (Exchange Interface.relay)) : Enrichment → Prop :=
  r.Enriches (fun score => ∃ event, ⟨.score event, .ok score⟩ ∈ transcript)
    fun label => ∃ event score, ⟨.label event score, .ok label⟩ ∈ transcript

/-- Whether a number stands in a record or in a score of a transcript. -/
def Mentions (r : Record) (transcript : List (Exchange Interface.relay)) (x : Float) : Prop :=
  (∃ raw, r.rawEvent? = some raw ∧ x ∈ Json.memberReals raw) ∨
    ∃ event score, ⟨.score event, .ok score⟩ ∈ transcript ∧ x ∈ score.reals

/-- The raw event of a record is sorted and sound. -/
theorem sound_rawEvent? (decoded : r.rawEvent? = some raw) :
    Json.Sorted raw ∧ Json.MembersSound raw := by
  obtain ⟨text, _, parsed⟩ := Option.bind_eq_some_iff.mp decoded
  exact Json.sound_parseObject? parsed

/-- The event of an enrichment is well-formed. -/
theorem Enriches.wellFormed (enriched : r.Enriches scores labels e) :
    e.event.WellFormed ∧ Json.MembersSound e.event.extra := by
  obtain ⟨raw, fresh, decoded, normalized⟩ := enriched.normalized
  obtain ⟨sorted, sound⟩ := sound_rawEvent? decoded
  exact RawEvent.wellFormed_normalize sorted sound normalized

/-- What an event keeps of its record has the numbers of the record. -/
theorem Enriches.mentions {x : Float} (enriched : r.Enriches scores labels e)
    (among : x ∈ Json.memberReals e.event.extra) :
    ∃ raw, r.rawEvent? = some raw ∧ x ∈ Json.memberReals raw := by
  obtain ⟨raw, fresh, decoded, normalized⟩ := enriched.normalized
  obtain ⟨_, _, _, _, extra⟩ := RawEvent.normalize_ok normalized
  rw [extra] at among
  obtain ⟨member, within, real⟩ := Json.mem_memberReals.mp among
  exact ⟨raw, decoded, Json.mem_memberReals.mpr ⟨member, (List.mem_filter.mp within).1, real⟩⟩

/-- The numbers of a payload are read back if those of the record and of its scores are. -/
theorem EnrichedIn.readsBack (enriched : r.EnrichedIn transcript e)
    (built : ∀ event score, ⟨.score event, .ok score⟩ ∈ transcript → score.Built)
    (numbers : ∀ x, r.Mentions transcript x → x.isFinite = true → Document.ReadsBack x) :
    ∀ x ∈ e.reals, Document.ReadsBack x := by
  intro x among
  rcases List.mem_append.mp among with extra | scored
  · exact numbers x (.inl (enriched.mentions extra)) (enriched.wellFormed.2.2 x extra)
  · obtain ⟨event, replied⟩ := enriched.score
    exact numbers x (.inr ⟨event, e.score, replied, scored⟩)
      ((built event e.score replied).finite x scored)

/-- What a worker that works on a record has written is about enrichments of the record. -/
theorem writes_enriched (ran : (r.handle s).Yields transcript outcome) :
    ∀ x ∈ transcript, r.Writes s (r.EnrichedIn transcript) x.request := by
  refine Program.Obeys.requests handle_origin ran fun x among => ?_
  obtain ⟨request, reply⟩ := x
  cases request with
  | score event => exact fun score is => ⟨event, is ▸ among⟩
  | label event score => exact fun label is => ⟨event, score, is ▸ among⟩
  | _ => trivial

/-- The decoder of payloads reads the payload of an enrichment unless a member that was not
recognized is nested in more than 124 lists and objects. -/
theorem EnrichedIn.reads_payload (enriched : r.EnrichedIn transcript e)
    (fits : e.label.usage ≤ maxWord32) (read : ∀ x ∈ e.reals, Document.ReadsBack x) :
    Decoder.ofBytes Enrichment.decoder e.payload =
      if ∀ member ∈ e.event.extra, member.2.toDocument.nesting ≤ 124 then .ok e
      else .error .malformed := by
  rw [Enrichment.ofBytes_payload enriched.wellFormed.1 fits read]
  simp only [Enrichment.nesting_le_iff]

/-- The course of a record enriches it. -/
theorem enrichedIn_course {fresh alertId : Uuid} (decoded : r.rawEvent? = some raw)
    (normalized : raw.normalize fresh = .ok e.event) :
    r.EnrichedIn (r.course s fresh alertId e) e := by
  refine ⟨⟨raw, fresh, decoded, normalized⟩, ⟨e.event, ?_⟩, e.event, e.score, ?_⟩ <;>
    simp only [Record.course, Enrichment.enriching, List.cons_append, List.mem_cons, true_or,
      or_true]

/-! ## Records that are nested deep -/

/-- The members of a record, one of them nested so deep. -/
def deepMembers (depth : Nat) : RawEvent :=
  [("deep", .nest depth), ("id", .text "e"), ("src_ip", .text "10.0.0.1"),
    ("timestamp", .text "2024-05-01T12:00:00Z")]

/-- A record with a member that is nested so deep. -/
def deep (depth : Nat) : Record :=
  ⟨"events", 0, 0, none, utf8 (Json.object (deepMembers depth)).render, []⟩

/-- The enrichment of such a record. -/
def deepEnrichment (depth : Nat) : Enrichment :=
  ⟨⟨"e", .v4 10 0 0 1, none, none, ⟨1714564800, 0⟩, [("deep", .nest depth)]⟩,
    .clamped 0.25 0.5 0.5, ⟨"Malware", .medium, "beacon", 12⟩⟩

def deepSettings : RelaySettings := ⟨"group", "results", "alerts", "dead", .once, .once⟩

/-- The transcript of the work on such a record. -/
def deepCourse (depth : Nat) : List (Exchange Interface.relay) :=
  (deep depth).course deepSettings ⟨0⟩ ⟨1⟩ (deepEnrichment depth)

variable {depth : Nat}

/-- A record with a deep member is read as an event. -/
theorem normalize_deep (depth : Nat) (fresh : Uuid) :
    RawEvent.normalize fresh (deepMembers depth) = .ok (deepEnrichment depth).event := rfl

theorem memberReals_deep (depth : Nat) : Json.memberReals (deepMembers depth) = [] :=
  (List.append_nil _).trans (Json.reals_nest depth)

/-- A record is decoded while its member is not too deep. -/
theorem rawEvent?_deep (accepted : depth ≤ 126) :
    (deep depth).rawEvent? = some (deepMembers depth) := by
  have names : ((deepMembers depth).map Prod.fst).Pairwise (· < ·) := by
    change ["deep", "id", "src_ip", "timestamp"].Pairwise (· < ·)
    decide
  have normal : (Json.object (deepMembers depth)).Normal :=
    ⟨List.pairwise_map.mp names, Json.normal_nest depth, trivial, trivial, trivial, trivial⟩
  have nesting : (Json.object (deepMembers depth)).toDocument.nesting = depth + 1 := by
    change max (Json.nest depth).toDocument.nesting 0 + 1 = _
    rw [Json.nesting_nest, Nat.max_zero]
  have read : ∀ x ∈ Json.memberReals (deepMembers depth), Document.ReadsBack x := by
    rw [memberReals_deep]
    exact nofun
  unfold Record.rawEvent? Record.deep
  rw [ofUtf8?_utf8, Option.bind_some, Json.parseObject?_render normal read, nesting,
    if_pos (Nat.succ_le_succ accepted)]

/-- The work on such a record is done by the calls of its course. -/
theorem yields_deepCourse (accepted : depth ≤ 126) :
    ((deep depth).handle deepSettings).Yields (deepCourse depth) (.ok .processed) :=
  handle_course deepSettings ⟨1⟩ (rawEvent?_deep accepted) (normalize_deep depth ⟨0⟩)

theorem readsBack_deep : ∀ x ∈ (deepEnrichment depth).score.reals, Document.ReadsBack x := by
  have quarter : (Binary64.ofFloat (Score.clampUnit 0.25)).jsonText = "0.25" := by decide +kernel
  have half : (Binary64.ofFloat (Score.clampUnit 0.5)).jsonText = "0.5" := by decide +kernel
  simp only [deepEnrichment, Score.reals, Score.clamped, List.forall_mem_cons,
    Document.ReadsBack, quarter, half]
  exact ⟨⟨⟨false, [0], some [2, 5], none⟩, rfl, rfl⟩, ⟨⟨false, [0], some [5], none⟩, rfl, rfl⟩,
    ⟨⟨false, [0], some [5], none⟩, rfl, rfl⟩, List.forall_mem_nil _⟩

theorem built_deep : ∀ event score, ⟨.score event, .ok score⟩ ∈ deepCourse depth →
    score.Built := by
  intro event score among
  cases course_models _ among score rfl
  exact .inl ⟨0.25, 0.5, 0.5, rfl⟩

theorem fits_deep : ∀ event score label, ⟨.label event score, .ok label⟩ ∈ deepCourse depth →
    label.usage ≤ maxWord32 := by
  intro event score label among
  cases course_models _ among label rfl
  change 12 ≤ maxWord32
  decide

/-- No number stands in such a record or its scores that does not read back. -/
theorem numbers_deep (accepted : depth ≤ 126) : ∀ x, (deep depth).Mentions (deepCourse depth) x →
    x.isFinite = true → Document.ReadsBack x := by
  rintro x (⟨raw, decoded, among⟩ | ⟨event, score, scored, among⟩) _
  · rw [rawEvent?_deep accepted] at decoded
    cases decoded
    rw [memberReals_deep] at among
    cases among
  · rw [course_models _ scored score rfl] at among
    exact readsBack_deep x among

/-- Such a record is enriched in one way only. -/
theorem enrichedIn_deepCourse (accepted : depth ≤ 126)
    (enriched : (deep depth).EnrichedIn (deepCourse depth) e) : e = deepEnrichment depth := by
  obtain ⟨raw, fresh, decoded, normalized⟩ := enriched.normalized
  obtain ⟨event, scored⟩ := enriched.score
  obtain ⟨labeled, score, replied⟩ := enriched.label
  rw [rawEvent?_deep accepted] at decoded
  cases decoded
  rw [normalize_deep] at normalized
  have sameScore := course_models _ scored e.score rfl
  have sameLabel := course_models _ replied e.label rfl
  cases e with
  | mk event score label =>
      cases normalized
      cases sameScore
      cases sameLabel
      rfl

/-! ## What is published -/

/-- Every alert that a worker publishes about a record, and every payload that it makes a dead
letter of, is read back as the payload that was written, unless a member that was not recognized is
nested in more than 124 lists and objects; then it is refused. Every result is read back. The
numbers that are written are assumed to be read as they were. -/
theorem messages_read_back (decoded : r.rawEvent? = some raw)
    (ran : (r.handle s).Yields transcript outcome)
    (built : ∀ event score, ⟨.score event, .ok score⟩ ∈ transcript → score.Built)
    (fits : ∀ event score label, ⟨.label event score, .ok label⟩ ∈ transcript →
      label.usage ≤ maxWord32)
    (numbers : ∀ x, r.Mentions transcript x → x.isFinite = true → Document.ReadsBack x) :
    (∀ x ∈ transcript, ∀ m, x.request = .produce .alerts m ∨ x.request = .sendDeadLetter m →
      ∃ e, r.EnrichedIn transcript e ∧ m.value = e.payload ∧
        Decoder.ofBytes Enrichment.decoder m.value =
          if ∀ member ∈ e.event.extra, member.2.toDocument.nesting ≤ 124 then .ok e
          else .error .malformed) ∧
    ∀ x ∈ transcript, ∀ m, x.request = .produce .results m →
      ∃ e, r.EnrichedIn transcript e ∧ m.value = utf8 e.result.toDocument.render ∧
        Decoder.ofBytes Result.decoder m.value = .ok e.result := by
  have written := writes_enriched ran
  have payload : ∀ e, r.EnrichedIn transcript e → Decoder.ofBytes Enrichment.decoder e.payload =
      if ∀ member ∈ e.event.extra, member.2.toDocument.nesting ≤ 124 then .ok e
      else .error .malformed := by
    intro e enriched
    obtain ⟨event, score, replied⟩ := enriched.label
    exact enriched.reads_payload (fits event score e.label replied)
      (enriched.readsBack built numbers)
  constructor
  · intro x among m request
    have allowed := written x among
    rcases request with alert | letter
    · rw [alert] at allowed
      obtain ⟨e, enriched, rfl⟩ := allowed
      exact ⟨e, enriched, rfl, payload e enriched⟩
    · rw [letter] at allowed
      obtain ⟨e, reason, millis, enriched, rfl⟩ := allowed
      exact ⟨e, enriched, rfl, payload e enriched⟩
  · intro x among m request
    have allowed := written x among
    rw [request] at allowed
    rcases allowed with ⟨e, enriched, rfl⟩ | undecoded
    · have aggregate : e.score.aggregate ∈ e.reals :=
        List.mem_append_right _ (by simp only [Score.reals, List.mem_cons, true_or, or_true])
      exact ⟨e, enriched, rfl, Result.ofBytes_render
        (enriched.readsBack built numbers e.score.aggregate aggregate)⟩
    · rw [decoded] at undecoded
      cases undecoded

/-- A member that is nested in 124 lists is published and read back. -/
theorem messages_read_back_deep :
    (deep 124).rawEvent? = some (deepMembers 124) ∧
      ((deep 124).handle deepSettings).Yields (deepCourse 124) (.ok .processed) ∧
      (∀ event score, ⟨.score event, .ok score⟩ ∈ deepCourse 124 → score.Built) ∧
      (∀ event score label, ⟨.label event score, .ok label⟩ ∈ deepCourse 124 →
        label.usage ≤ maxWord32) ∧
      (∀ x, (deep 124).Mentions (deepCourse 124) x → x.isFinite = true → Document.ReadsBack x) ∧
      Decoder.ofBytes Enrichment.decoder (deepEnrichment 124).payload =
        .ok (deepEnrichment 124) ∧
      Decoder.ofBytes Result.decoder (utf8 (deepEnrichment 124).result.toDocument.render) =
        .ok (deepEnrichment 124).result := by
  have accepted : 124 ≤ 126 := by decide
  have decoded := rawEvent?_deep accepted
  have ran := yields_deepCourse accepted
  have numbers := numbers_deep accepted
  obtain ⟨alerts, results⟩ := messages_read_back decoded ran built_deep fits_deep numbers
  obtain ⟨e, enriched, _, alert⟩ := alerts _ course_publishes.1 _ (.inl rfl)
  cases enrichedIn_deepCourse accepted enriched
  obtain ⟨e, enriched, _, result⟩ := results _ course_publishes.2 _ rfl
  cases enrichedIn_deepCourse accepted enriched
  have shallow : ∀ member ∈ (deepEnrichment 124).event.extra,
      member.2.toDocument.nesting ≤ 124 :=
    List.forall_mem_singleton.mpr (Nat.le_of_eq (Json.nesting_nest 124))
  rw [if_pos shallow] at alert
  exact ⟨decoded, ran, built_deep, fits_deep, numbers, alert, result⟩

/-- A member that is nested in 125 lists is published and not read back. -/
theorem deep_alert_not_read_back :
    (deep 125).rawEvent? = some (deepMembers 125) ∧
      ((deep 125).handle deepSettings).Yields (deepCourse 125) (.ok .processed) ∧
      (deepEnrichment 125).score.Built ∧
      (∀ x ∈ (deepEnrichment 125).reals, Document.ReadsBack x) ∧
      ⟨.produce .alerts (.plain "alerts" (some (deepEnrichment 125).key)
        (deepEnrichment 125).payload), .ok ()⟩ ∈ deepCourse 125 ∧
      Decoder.ofBytes Enrichment.decoder (deepEnrichment 125).payload = .error .malformed := by
  have accepted : 125 ≤ 126 := by decide
  have decoded := rawEvent?_deep accepted
  have enriched : (deep 125).EnrichedIn (deepCourse 125) (deepEnrichment 125) :=
    enrichedIn_course decoded (normalize_deep 125 ⟨0⟩)
  have built : (deepEnrichment 125).score.Built := .inl ⟨0.25, 0.5, 0.5, rfl⟩
  have read := enriched.readsBack built_deep (numbers_deep accepted)
  have alert : Decoder.ofBytes Enrichment.decoder (deepEnrichment 125).payload = _ :=
    enriched.reads_payload (by decide +kernel) read
  rw [if_neg] at alert
  · exact ⟨decoded, yields_deepCourse accepted, built, read, course_publishes.1, alert⟩
  · intro shallow
    have nested := shallow _ List.mem_cons_self
    rw [Json.nesting_nest] at nested
    omega

end Record

end AlertRelay
