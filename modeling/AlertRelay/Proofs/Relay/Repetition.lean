import AlertRelay.Proofs.Program.Transcript
import AlertRelay.Proofs.Relay.Atomicity
import AlertRelay.Proofs.Relay.DualWrite
import AlertRelay.Proofs.Relay.Singular

/-!
# Attempts do nothing twice

A unit of work is attempted again while anything may go wrong just before any of its calls. Over all
its attempts the event is enriched once at most, all that is written is written for that event, its
emission is resolved once at most, one alert at most becomes visible and one dead letter at most is
sent outside of transactions. A unit that fails has not tried to write anything
(`Record.unit_does_nothing_twice`).
-/

namespace AlertRelay

namespace RelayCall

def asksScore : RelayCall → Bool
  | .score _ => true
  | _ => false

def asksRow : RelayCall → Bool
  | .insertAlert _ => true
  | _ => false

def asksLetter : RelayCall → Bool
  | .sendDeadLetter _ => true
  | _ => false

end RelayCall

namespace Posting

/-- The alerts that become visible. -/
def alerts : Posting → List Message
  | transaction .alerts t => t.messages
  | _ => []

/-- A topic gains no more records than were written to it. -/
theorem length_records_post (p : Posting) (l : Log) (topic : String) :
    ((p.post l).records topic).length ≤
      (l.records topic).length + p.messages.countP fun m => m.topic = topic := by
  cases p with
  | transaction lane t => exact l.length_records_applyTransaction t.messages t.offsets topic
  | letter m =>
      have added := l.length_records_append m topic
      simp only [Posting.messages, List.countP_singleton, decide_eq_true_eq]
      exact added

theorem length_records_postAll (postings : List Posting) (l : Log) (topic : String) :
    ((postAll postings l).records topic).length ≤
      (l.records topic).length + (postings.flatMap messages).countP fun m => m.topic = topic := by
  unfold Posting.postAll
  induction postings generalizing l with
  | nil => exact Nat.le_refl _
  | cons p rest ih =>
      have first := p.length_records_post l topic
      have others := ih (p.post l)
      rw [List.foldl_cons, List.flatMap_cons, List.countP_append]
      omega

end Posting

/-! ## What runs of enrichment and emission ask for -/

/-- An enrichment that succeeds scores its event right after its identifier, and gets its label. -/
theorem RawEvent.yields_enrich {labelerRetry : RetryPolicy} {raw : RawEvent} {e : Enrichment}
    {during : List (Exchange Interface.relay)}
    (yields : (raw.enrich labelerRetry).Yields during (.ok e)) :
    (∃ x, during[1]? = some x ∧ x.request.asksScore = true) ∧
      ∃ score label,
        (⟨.label e.event score, .ok label⟩ : Exchange Interface.relay) ∈ during := by
  obtain ⟨fresh, rest, rfl, normalized⟩ := yields_ask.mp yields
  cases normal : raw.normalize fresh with
  | error cause =>
      rw [normal] at normalized
      cases normalized.2
  | ok event =>
      rw [normal] at normalized
      obtain ⟨scored, later, rfl, labeling⟩ := yields_ask.mp normalized
      cases scored with
      | error cause => cases labeling.2
      | ok score =>
          obtain ⟨labeled, asked, last, rfl, attempts, ends⟩ := Program.yields_bind.mp labeling
          cases outcome : labeled.outcome with
          | error cause =>
              rw [outcome] at ends
              cases ends.2
          | ok label =>
              rw [outcome] at ends
              obtain ⟨rfl, is⟩ := ends
              cases is
              obtain ⟨before, _, after, rfl, _, rest, rfl, none, same⟩ :=
                Program.ranIn_of_attemptPlain _ attempts outcome
              subst same
              refine ⟨⟨_, rfl, rfl⟩, score, label, ?_⟩
              simp only [List.append_nil, List.mem_cons, List.mem_append, true_or, or_true]

/-- An emission that is resolved has asked for its row right after its transaction. -/
theorem Enrichment.yields_emit {s : RelaySettings} {e : Enrichment} {emission : Emission}
    {during : List (Exchange Interface.relay)} (yields : (e.emit s).Yields during (.ok emission)) :
    ∃ x, during[2]? = some x ∧ x.request.asksRow = true := by
  obtain ⟨alertId, rest, rfl, beginning⟩ := yields_ask.mp yields
  obtain ⟨begun, later, rfl, storing⟩ := yields_ask.mp beginning
  cases begun with
  | error cause => cases storing.2
  | ok =>
      obtain ⟨stored, last, rfl, _⟩ := yields_ask.mp storing
      exact ⟨_, rfl, rfl⟩

namespace OnceView

variable {s : RelaySettings} {names : String → Prop} {v : OnceView} {worker : Nat} {w : World}
  {transcript : List (Exchange Interface.relay)}

/-- What a worker remembers agrees with the transcript of its calls. -/
structure Tells (transcript : List (Exchange Interface.relay)) (v : OnceView) : Prop where
  scores : transcript.countP (fun x => x.request.asksScore) = v.scored.toNat
  rows : transcript.countP (fun x => x.request.asksRow) = (decide (v.row ≠ .untried)).toNat
  letters : transcript.countP (fun x => x.request.asksLetter) = v.lettered.toNat
  labeled : ∀ event score label,
    (⟨.label event score, .ok label⟩ : Exchange Interface.relay) ∈ transcript →
      v.event = some event.id
  writes : ∀ x ∈ transcript, x.request.writes = true →
    v.wrote = true ∧ ∀ id, v.event = some id → x.request.About id

theorem tells_enter (results alerts : Option Transaction) : Tells [] (.enter results alerts) :=
  ⟨rfl, rfl, rfl, fun _ _ _ none => (by cases none), fun _ none => by cases none⟩

private theorem countP_snoc (asks : RelayCall → Bool)
    (transcript : List (Exchange Interface.relay)) (x : Exchange Interface.relay) :
    (transcript ++ [x]).countP (fun y => asks y.request) =
      transcript.countP (fun y => asks y.request) + (asks x.request).toNat := by
  rw [List.countP_append, List.countP_singleton]
  cases asks x.request with
  | false => rfl
  | true => rfl

/-- What is written is written for the event that is labeled, once there is one. -/
private theorem about_of_allows {request : RelayCall} (allowed : s.AllowsOnce names v request)
    (writing : request.writes = true) (id : String) (event : v.event = some id) :
    request.About id := by
  cases request with
  | produce lane m =>
      cases lane with
      | results => exact allowed id event
      | alerts =>
          obtain ⟨other, labeled, key⟩ := allowed
          cases event.symm.trans labeled
          exact key
  | insertAlert a =>
      obtain ⟨_, labeled, _⟩ := allowed
      cases event.symm.trans labeled
      rfl
  | deleteAlert eventId =>
      cases event.symm.trans allowed.2
      rfl
  | sendDeadLetter m =>
      obtain ⟨_, _, other, labeled, key⟩ := allowed
      cases event.symm.trans labeled
      exact key
  | sendOffsets | commit => trivial
  | _ => cases writing

/-- What a worker remembers stays in agreement with its calls. -/
theorem Tells.note (tells : Tells transcript v) {request : RelayCall}
    (allowed : s.AllowsOnce names v request) (reply : request.Reply) :
    Tells (transcript ++ [⟨request, reply⟩]) (v.note request reply) := by
  constructor
  · rw [countP_snoc RelayCall.asksScore, tells.scores]
    cases request with
    | score event =>
        have unscored : v.scored = false := allowed
        rw [unscored]
        rfl
    | _ => rfl
  · rw [countP_snoc RelayCall.asksRow, tells.rows]
    cases request with
    | insertAlert a =>
        rw [allowed.1]
        cases reply with
        | error cause => rfl
        | ok stored => cases stored <;> rfl
    | deleteAlert eventId =>
        rw [allowed.1]
        cases reply with
        | error cause =>
            change _ = (decide (v.row ≠ .untried)).toNat
            rw [allowed.1]
            rfl
        | ok count => rfl
    | _ => rfl
  · rw [countP_snoc RelayCall.asksLetter, tells.letters]
    cases request with
    | sendDeadLetter m =>
        rw [allowed.1]
        rfl
    | _ => rfl
  · intro event score label member
    rcases List.mem_append.mp member with earlier | now
    · have labeled := tells.labeled event score label earlier
      cases request with
      | label other asked =>
          rw [allowed.1] at labeled
          cases labeled
      | _ => exact labeled
    · cases List.mem_singleton.mp now
      rfl
  · intro x member writing
    rcases List.mem_append.mp member with earlier | now
    · obtain ⟨wrote, about⟩ := tells.writes x earlier writing
      refine ⟨?_, fun id event => about id ?_⟩
      · change (if request.writes then true else v.wrote) = true
        rw [wrote, ite_self]
      · cases request with
        | label other asked =>
            rw [allowed.2] at wrote
            cases wrote
        | _ => exact event
    · cases List.mem_singleton.mp now
      refine ⟨if_pos writing, fun id event => about_of_allows allowed writing id ?_⟩
      cases request with
      | label other asked => cases writing
      | _ => exact event

/-- What a worker remembers agrees with the world and with what has become visible in it. -/
structure Shows (s : RelaySettings) (worker : Nat) (w : World) (h : Hindered) (v : OnceView) :
    Prop where
  reads : ∀ lane, h.world.transaction? worker lane = v.held lane
  log : h.world.log.Agrees (Posting.postAll h.postings w.log)
  alerts : (h.postings.flatMap Posting.alerts).length = v.published.toNat
  topic : s.Apart → ((h.postings.flatMap Posting.messages).countP fun m =>
    m.topic = s.alertsTopic) ≤ v.published.toNat

/-- A worker that enters a unit remembers nothing. -/
theorem shows_start (s : RelaySettings) (worker : Nat) (w : World) :
    Shows s worker w (.start w)
      (.enter (w.transaction? worker .results) (w.transaction? worker .alerts)) where
  reads lane := by
    cases lane with
    | results => rfl
    | alerts => rfl
  log := .refl _
  alerts := rfl
  topic _ := Nat.le_refl _

/-- What spares the world leaves what a worker remembers true. -/
theorem Shows.spares {h : Hindered} {after : World} (shows : Shows s worker w h v)
    (spares : h.world.Spares after) : Shows s worker w { h with world := after } v where
  reads lane := (spares.transaction worker lane).trans (shows.reads lane)
  log := by
    rw [spares.log]
    exact shows.log
  alerts := shows.alerts
  topic := shows.topic

/-- Messages for the topics of results and dead letters are no alerts. -/
private theorem countP_eq_zero_of_plain (apart : s.Apart) {messages : List Message}
    (plain : ∀ m ∈ messages, m.topic = s.outputTopic ∨ m.topic = s.deadLetterTopic) :
    (messages.countP fun m => m.topic = s.alertsTopic) = 0 := by
  refine List.countP_eq_zero.mpr fun m member same => ?_
  have same := of_decide_eq_true same
  rcases plain m member with output | letter
  · exact apart.output (output.symm.trans same)
  · exact apart.letters (letter.symm.trans same)

/-- What a call makes visible: the only alert, or no alert at all. -/
private theorem posting_of_allows {request : RelayCall} (reply : request.Reply)
    (allowed : s.AllowsOnce names v request) :
    let added := (request.posting? v.held reply).toList
    v.published.toNat + (added.flatMap Posting.alerts).length =
        (v.note request reply).published.toNat ∧
      (s.Apart → v.published.toNat + ((added.flatMap Posting.messages).countP fun m =>
        m.topic = s.alertsTopic) ≤ (v.note request reply).published.toNat) := by
  cases request with
  | commit lane =>
      cases lane with
      | alerts =>
          obtain ⟨unpublished, m, held⟩ := allowed
          cases reply with
          | error cause => exact ⟨rfl, fun _ => Nat.le_refl _⟩
          | ok =>
              simp only [RelayCall.posting?, OnceView.held, held, Option.map_some,
                Option.toList_some, List.flatMap_singleton, unpublished]
              refine ⟨rfl, fun _ => ?_⟩
              rw [Bool.toNat_false, Nat.zero_add]
              exact List.countP_le_length
      | results =>
          obtain ⟨t, held, plain⟩ := allowed
          cases reply with
          | error cause => exact ⟨rfl, fun _ => Nat.le_refl _⟩
          | ok =>
              simp only [RelayCall.posting?, OnceView.held, held, Option.map_some,
                Option.toList_some, List.flatMap_singleton]
              refine ⟨rfl, fun apart => Nat.le_of_eq ?_⟩
              change _ + t.messages.countP _ = v.published.toNat
              rw [countP_eq_zero_of_plain apart plain, Nat.add_zero]
  | sendDeadLetter m =>
      cases reply with
      | error cause => exact ⟨rfl, fun _ => Nat.le_refl _⟩
      | ok =>
          refine ⟨rfl, fun apart => Nat.le_of_eq ?_⟩
          change _ + [m].countP _ = v.published.toNat
          rw [countP_eq_zero_of_plain apart, Nat.add_zero]
          intro other member
          rw [List.mem_singleton.mp member]
          exact .inr allowed.2.1
  | _ => exact ⟨rfl, fun _ => Nat.le_refl _⟩

/-- What a worker remembers stays true after a call that is in order. -/
theorem Shows.reply {h : Hindered} (shows : Shows s worker w h v) (plan : Nat → List Disturbance)
    {request : RelayCall} (allowed : s.AllowsOnce names v request) :
    Shows s worker w (Hindered.reply plan worker request h).2
      (v.note request (Hindered.reply plan worker request h).1) := by
  have disturbed := shows.spares (h.world.disturb_spares (plan h.calls))
  unfold Hindered.reply
  dsimp only
  generalize h.world.disturb (plan h.calls) = before at disturbed ⊢
  have accounts := World.reply_accounts before worker request
  have visible := posting_of_allows (World.reply worker request before).1 allowed
  rw [← funext disturbed.reads] at visible
  constructor
  · intro lane
    rw [accounts.transaction, if_pos rfl, held_note, disturbed.reads lane]
  · refine accounts.log.trans ?_
    rw [Posting.postAll_append]
    unfold World.logAfter
    cases request.posting? (before.transaction? worker) (World.reply worker request before).1 with
    | none => exact disturbed.log
    | some p => exact p.post_agrees disturbed.log
  · rw [List.flatMap_append, List.length_append, disturbed.alerts]
    exact visible.1
  · intro apart
    rw [List.flatMap_append, List.countP_append]
    exact Nat.le_trans (Nat.add_le_add_right (disturbed.topic apart) _) (visible.2 apart)

end OnceView

namespace Record

/-- What was done once at most in a unit of work, over all its attempts. -/
structure Single (s : RelaySettings) (w : World) (outcome : Except RelayError Outcome)
    (h : Hindered) (transcript : List (Exchange Interface.relay)) : Prop where
  /-- An enrichment has succeeded once at most. -/
  enriched : ∀ (raw raw' : RawEvent) e e' place place',
    (raw.enrich s.labelerRetry).RanAt (.ok e) place transcript →
      (raw'.enrich s.labelerRetry).RanAt (.ok e') place' transcript → place = place'
  /-- Everything is written for the event that was enriched. -/
  about : ∀ (raw : RawEvent) e place, (raw.enrich s.labelerRetry).RanAt (.ok e) place transcript →
    ∀ x ∈ transcript, x.request.writes = true → x.request.About e.event.id
  /-- An emission was resolved once at most. -/
  emitted : ∀ (e e' : Enrichment) emission emission' place place',
    (e.emit s).RanAt (.ok emission) place transcript →
      (e'.emit s).RanAt (.ok emission') place' transcript → place = place'
  alerts : (h.postings.flatMap Posting.alerts).length ≤ 1
  topic : s.Apart → (h.world.log.records s.alertsTopic).length ≤
    (w.log.records s.alertsTopic).length + 1
  letters : transcript.countP (fun x => x.request.asksLetter) ≤ 1
  failed : outcome = .ok .failed → ∀ x ∈ transcript, x.request.writes = false

/-- What stands in a run stands in the transcript, at its place. -/
private theorem getElem?_of_ranAt {transcript during : List (Exchange Interface.relay)}
    {place index : Nat} {x : Exchange Interface.relay} (within : during <+: transcript.drop place)
    (found : during[index]? = some x) : transcript[place + index]? = some x := by
  rw [← List.getElem?_drop]
  obtain ⟨rest, same⟩ := within
  rw [← same]
  exact List.getElem?_append_left (List.getElem?_eq_some_iff.mp found).1 ▸ found

/-- A unit whose worker remembers to do nothing twice has done nothing twice. -/
theorem single_of_tells {s : RelaySettings} {worker : Nat} {w : World} {h : Hindered}
    {transcript : List (Exchange Interface.relay)} {v : OnceView}
    {outcome : Except RelayError Outcome} (tells : v.Tells transcript)
    (shows : OnceView.Shows s worker w h v) (failed : outcome = .ok .failed → v.wrote = false) :
    Single s w outcome h transcript where
  enriched raw raw' e e' place place' := by
    rintro ⟨during, within, yields⟩ ⟨during', within', yields'⟩
    -- Both have asked for a score in their second call, and the unit has asked only once.
    obtain ⟨x, second, scores⟩ := (RawEvent.yields_enrich yields).1
    obtain ⟨y, second', scores'⟩ := (RawEvent.yields_enrich yields').1
    have once := Nat.le_trans (Nat.le_of_eq tells.scores) (Bool.toNat_le v.scored)
    have same := Exchange.place_unique once (getElem?_of_ranAt within second) scores
      (getElem?_of_ranAt within' second') scores'
    exact Nat.add_right_cancel same
  about raw e place := by
    rintro ⟨during, within, yields⟩ x member writing
    obtain ⟨score, label, labeled⟩ := (RawEvent.yields_enrich yields).2
    have there := List.mem_of_mem_drop (within.subset labeled)
    exact (tells.writes x member writing).2 _ (tells.labeled _ _ _ there)
  emitted e e' emission emission' place place' := by
    rintro ⟨during, within, yields⟩ ⟨during', within', yields'⟩
    obtain ⟨x, third, stores⟩ := Enrichment.yields_emit yields
    obtain ⟨y, third', stores'⟩ := Enrichment.yields_emit yields'
    have once := Nat.le_trans (Nat.le_of_eq tells.rows) (Bool.toNat_le _)
    have same := Exchange.place_unique once (getElem?_of_ranAt within third) stores
      (getElem?_of_ranAt within' third') stores'
    exact Nat.add_right_cancel same
  alerts := Nat.le_trans (Nat.le_of_eq shows.alerts) (Bool.toNat_le v.published)
  topic apart := by
    rw [shows.log.records]
    refine Nat.le_trans (Posting.length_records_postAll h.postings w.log s.alertsTopic) ?_
    have once := Nat.le_trans (shows.topic apart) (Bool.toNat_le v.published)
    exact Nat.add_le_add_left once _
  letters := Nat.le_trans (Nat.le_of_eq tells.letters) (Bool.toNat_le v.lettered)
  failed is x member := by
    refine Bool.eq_false_iff.mpr fun writing => ?_
    have wrote := (tells.writes x member writing).1
    rw [failed is] at wrote
    cases wrote

/-- Whatever goes wrong before whichever call, and whatever the labeler does, the work on a record
comes to an end and has done nothing twice. -/
theorem unit_does_nothing_twice (s : RelaySettings) (r : Record) (worker : Nat)
    (plan : Nat → List Disturbance) (w : World) :
    ∃ outcome h transcript,
      (r.handle s).run (Hindered.surroundings plan worker).transcribed (.start w, []) =
          (some outcome, h, transcript) ∧
        (r.handle s).Yields transcript outcome ∧ Single s w outcome h transcript := by
  have shows := OnceView.shows_start s worker w
  have tells := OnceView.tells_enter (w.transaction? worker .results)
    (w.transaction? worker .alerts)
  have obeys := handle_once s r (w.transaction? worker .results) (w.transaction? worker .alerts)
  generalize OnceView.enter _ _ = v at shows tells obeys
  -- The world and the transcript are run side by side; what the worker remembers agrees with both.
  have runs := obeys.run (s := (Hindered.surroundings plan worker).transcribed)
    (fun state view => OnceView.Shows s worker w state.1 view ∧ view.Tells state.2) ?_ ?_
    (w := (.start w, [])) ⟨shows, tells⟩
  · obtain ⟨outcome, ⟨h, transcript⟩, after, ran, failed, shown, told⟩ := runs
    obtain ⟨during, same, yields⟩ := Program.run_transcribed _ _ _ _ ran
    rw [List.nil_append] at same
    subst same
    exact ⟨outcome, h, _, ran, yields, single_of_tells told shown failed⟩
  · rintro ⟨h, transcript⟩ view request ⟨shows, tells⟩ allowed
    exact ⟨_, rfl, shows.reply plan allowed, tells.note allowed _⟩
  · rintro ⟨h, transcript⟩ view nanos ⟨shows, tells⟩
    exact ⟨shows.spares (h.world.wait_spares nanos), tells⟩

end Record

end AlertRelay
