import AlertRelay.Proofs.DeadLetter
import AlertRelay.Proofs.Delivery.Chronicle
import Mathlib.Data.List.Nodup

/-!
# One end for each record

Whatever happens to a consumer, and however often it is started again, an offset that becomes
committed comes from one transaction of one worker, and beside the offset this transaction holds the
result of the record, its dead letter, or nothing if its alert became a dead letter
(`Deployment.commits_once`). So no record leads to two messages.

Nothing is asked of the order of assignments here: where a record slips past its predecessors, they
are lost, and not worked on twice.
-/

namespace AlertRelay

/-- What a record has come to. -/
inductive Fate where
  | result
  | deadLetter
  | quarantined

/-- The fate that messages tell of: a result does not say where it was read, and the dead letter of
a record does. -/
def Fate.ofMessages : List Message → Fate
  | [] => quarantined
  | m :: _ => if m.header? DeadLetter.offsetHeader = none then result else deadLetter

/-- Whether a message tells the output topic of an event: under the identifier of the event, with
its score, its severity and what its label says, and without headers. -/
structure Message.Reports (m : Message) (s : RelaySettings) (e : Enrichment) : Prop where
  topic : m.topic = s.outputTopic
  key : m.key = some (utf8 e.event.id)
  value : m.value = utf8 (Document.ofFields [("id", .text e.event.id),
    ("score", .real e.score.aggregate), ("label", .text e.label.reason),
    ("severity", .text e.label.severity.name), ("class", .text e.label.incident)]).render
  headers : m.headers = []

namespace Record

/-- The message that a unit of work commits reports the event. -/
theorem reports_resultMessage (s : RelaySettings) (e : Enrichment) :
    (resultMessage s e).Reports s e := ⟨rfl, rfl, rfl, rfl⟩

/-- Whether the messages that are committed beside the offset of a record are what its fate calls
for, given what the worker has seen. -/
def Meets (s : RelaySettings) (r : Record) (transcript : List (Exchange Interface.relay))
    (messages : List Message) : Fate → Prop
  | .result => ∃ raw e alertId inserted m, r.rawEvent? = some raw ∧
    (raw.enrich s.labelerRetry).RanIn (.ok e) transcript ∧
    (e.emit s).RanIn (.ok (.published alertId inserted)) transcript ∧ m.Reports s e ∧
    messages = [m]
  | .deadLetter => ∃ m, m.topic = s.deadLetterTopic ∧ m.Preserves r ∧ messages = [m]
  | .quarantined => ∃ raw e reason compensated, r.rawEvent? = some raw ∧
    (raw.enrich s.labelerRetry).RanIn (.ok e) transcript ∧
    (e.emit s).RanIn (.ok (.quarantined reason compensated)) transcript ∧ messages = []

variable {s : RelaySettings} {r : Record} {transcript : List (Exchange Interface.relay)}
  {messages : List Message}

/-- What is committed for a record is what one of the fates calls for. -/
theorem Upshot.meets (upshot : r.Upshot s transcript messages) :
    ∃ fate, r.Meets s transcript messages fate := by
  cases upshot with
  | result raw e alertId inserted decoded enriched published =>
      exact ⟨.result, raw, e, alertId, inserted, _, decoded, enriched, published,
        reports_resultMessage s e, rfl⟩
  | setAside reason millis =>
      exact ⟨.deadLetter, _, rfl, DeadLetter.preserves_ofRecord r reason _ millis, rfl⟩
  | quarantined raw e reason compensated decoded enriched quarantined =>
      exact ⟨.quarantined, raw, e, reason, compensated, decoded, enriched, quarantined, rfl⟩

/-- The messages tell the fate of their record. -/
theorem Meets.fate_eq {fate : Fate} (meets : r.Meets s transcript messages fate) :
    fate = .ofMessages messages := by
  cases fate with
  | result =>
      obtain ⟨_, _, _, _, m, _, _, _, reports, rfl⟩ := meets
      have unmarked : m.header? DeadLetter.offsetHeader = none := by
        rw [Message.header?, reports.headers]
        rfl
      simp only [Fate.ofMessages, unmarked, ↓reduceIte]
  | deadLetter =>
      obtain ⟨m, _, preserves, rfl⟩ := meets
      simp only [Fate.ofMessages, preserves.offset, reduceCtorEq, ↓reduceIte]
  | quarantined =>
      obtain ⟨_, _, _, _, _, _, _, rfl⟩ := meets
      rfl

/-- No fate calls for more than one message. -/
theorem Meets.messages_length {fate : Fate} (meets : r.Meets s transcript messages fate) :
    messages.length ≤ 1 := by
  cases fate with
  | result =>
      obtain ⟨_, _, _, _, _, _, _, _, _, rfl⟩ := meets
      exact Nat.le_refl 1
  | deadLetter =>
      obtain ⟨_, _, _, rfl⟩ := meets
      exact Nat.le_refl 1
  | quarantined =>
      obtain ⟨_, _, _, _, _, _, _, rfl⟩ := meets
      exact Nat.zero_le 1

end Record

namespace Entry

/-- The messages that became visible. -/
def messages : Entry → List Message
  | posted _ _ _ _ p => p.messages
  | published m _ => [m]
  | created _ _ => []

/-- The group and the place of the record whose work a worker has brought to an end. -/
def settles? : Entry → Option (String × TopicPartition × Int)
  | posted _ s r _ (.transaction .results _) => some (s.group, r.topicPartition, r.offset)
  | _ => none

/-- Whether an entry is the transaction of a worker that commits an offset. -/
def Commits (e : Entry) (c : OffsetCommit) : Prop :=
  ∃ worker s r transcript t,
    e = posted worker s r transcript (.transaction .results t) ∧ t.offsets = [c]

/-- Whether what has come into a log is accounted for. A transaction that commits an offset does so
for a record that lies in the log, and holds what one fate calls for. Nothing else that comes from a
worker commits an offset or says where it was read. -/
def Accounted (l : Log) : Entry → Prop
  | posted _ s r transcript (.transaction .results t) =>
    r.LiesIn l ∧ t.offsets = [.forRecord r s.group] ∧ ∃! fate, r.Meets s transcript t.messages fate
  | posted _ s _ _ (.transaction .alerts t) =>
    t.offsets = [] ∧ ∀ m ∈ t.messages, m.topic = s.alertsTopic ∧ m.Originless
  | posted _ s _ _ (.letter m) => m.topic = s.deadLetterTopic ∧ m.Originless
  | published _ _ | created _ _ => True

variable {e : Entry} {l : Log} {orderly : Prop} {entries : List Entry}

/-- What may come into a log is accounted for. -/
theorem Lawful.accounted (lawful : e.Lawful l) : e.Accounted l := by
  cases e with
  | posted worker s r transcript p =>
      cases p with
      | transaction lane t =>
          cases lane with
          | results =>
              obtain ⟨lies, fits⟩ := lawful
              obtain ⟨fate, meets⟩ := fits.messages.meets
              exact ⟨lies, fits.offsets, fate, meets, fun other also =>
                also.fate_eq.trans meets.fate_eq.symm⟩
          | alerts =>
              refine ⟨lawful.offsets, fun m there => ?_⟩
              obtain ⟨key, payload, rfl⟩ := lawful.messages m there
              exact ⟨rfl, Message.originless_plain _ _ _⟩
      | letter m =>
          obtain ⟨key, value, reason, millis, rfl⟩ := lawful
          exact ⟨rfl, DeadLetter.originless_ofPayload key value reason _ millis⟩
  | published m partition => trivial
  | created topic count => trivial

/-- The offset that an entry commits is that of the record that it settles. -/
theorem Accounted.offsets_eq (accounted : e.Accounted l) :
    e.offsets = (e.settles?.map fun (group, tp, offset) =>
      (⟨tp.topic, tp.partition, offset + 1, group⟩ : OffsetCommit)).toList := by
  cases e with
  | posted worker s r transcript p =>
      cases p with
      | transaction lane t =>
          cases lane with
          | results =>
              obtain ⟨lies, offsets, _⟩ := accounted
              change t.offsets = [⟨r.topic, r.partition, r.offset + 1, s.group⟩]
              rw [offsets, OffsetCommit.forRecord, lies.nextOffset]
          | alerts => exact accounted.1
      | letter m => rfl
  | published m partition => rfl
  | created topic count => rfl

/-- An offset of an entry that is accounted for is committed by a worker, alone. -/
theorem Accounted.commits {c : OffsetCommit} (accounted : e.Accounted l) (there : c ∈ e.offsets) :
    e.Commits c := by
  cases e with
  | posted worker s r transcript p =>
      cases p with
      | transaction lane t =>
          cases lane with
          | results =>
              have one : t.offsets = [.forRecord r s.group] := accounted.2.1
              have same : c = .forRecord r s.group := by
                change c ∈ t.offsets at there
                rw [one] at there
                exact List.mem_singleton.mp there
              exact ⟨worker, s, r, transcript, t, rfl, same ▸ one⟩
          | alerts =>
              change c ∈ t.offsets at there
              rw [accounted.1] at there
              cases there
      | letter m => cases there
  | published m partition => cases there
  | created topic count => cases there

/-- What an entry commits is among its offsets. -/
theorem Commits.mem {c : OffsetCommit} (commits : e.Commits c) : c ∈ e.offsets := by
  obtain ⟨worker, s, r, transcript, t, rfl, one⟩ := commits
  change c ∈ t.offsets
  rw [one]
  exact List.mem_singleton_self c

/-- An entry that brings the work on a record to an end has one message at most. -/
theorem Accounted.messages_length (accounted : e.Accounted l) (settles : e.settles?.isSome) :
    e.messages.length ≤ 1 := by
  cases e with
  | posted worker s r transcript p =>
      cases p with
      | transaction lane t =>
          cases lane with
          | results =>
              obtain ⟨_, _, fate, meets, _⟩ := accounted
              exact meets.messages_length
          | alerts => cases settles
      | letter m => cases settles
  | published m partition => cases settles
  | created topic count => cases settles

/-- No offset is committed twice by entries that are due. -/
theorem nodup_offsets (due : DueAll orderly l entries) : (entries.flatMap offsets).Nodup := by
  refine (ascending_replay due).1.imp fun {a b} ascends same => ?_
  have := ascends (congrArg _ same) (congrArg _ same)
  rw [same] at this
  exact Int.lt_irrefl _ this

/-- Entries with distinct offsets share none. -/
theorem disjoint_offsets (distinct : (entries.flatMap offsets).Nodup) :
    entries.Pairwise fun e f => ∀ c ∈ e.offsets, c ∉ f.offsets :=
  (List.nodup_flatMap.mp distinct).2.imp fun apart _ first second => apart first second

/-- One entry alone commits an offset, if the offsets are distinct. -/
theorem index_unique (distinct : (entries.flatMap offsets).Nodup) {i j : Nat} {e f : Entry}
    {c : OffsetCommit} (first : entries[i]? = some e) (second : entries[j]? = some f)
    (commits : c ∈ e.offsets) (also : c ∈ f.offsets) : i = j := by
  have apart := List.pairwise_iff_getElem.mp (disjoint_offsets distinct)
  obtain ⟨inside, rfl⟩ := List.getElem?_eq_some_iff.mp first
  obtain ⟨within, rfl⟩ := List.getElem?_eq_some_iff.mp second
  rcases Nat.lt_trichotomy i j with before | same | after
  · exact (apart i j inside within before c commits also).elim
  · exact same
  · exact (apart j i within inside after c also commits).elim

/-- A record is settled by one entry, hence it leads to one message at most. -/
theorem messages_length (distinct : (entries.flatMap offsets).Nodup)
    (accounted : ∀ e ∈ entries, e.Accounted l) (place : String × TopicPartition × Int) :
    ((entries.filter fun e => e.settles? = some place).flatMap messages).length ≤ 1 := by
  have settled : ∀ e ∈ entries.filter fun e => e.settles? = some place,
      e.Accounted l ∧ e.settles? = some place := by
    intro e there
    obtain ⟨there, settles⟩ := List.mem_filter.mp there
    exact ⟨accounted e there, of_decide_eq_true settles⟩
  have apart := (disjoint_offsets distinct).filter fun e => e.settles? = some place
  generalize entries.filter (fun e => e.settles? = some place) = left at settled apart
  match left with
  | [] => exact Nat.zero_le 1
  | [e] =>
      obtain ⟨accounted, settles⟩ := settled e List.mem_cons_self
      rw [List.flatMap_singleton]
      exact accounted.messages_length (Option.isSome_of_eq_some settles)
  | e :: f :: _ =>
      obtain ⟨accounted, settles⟩ := settled e List.mem_cons_self
      obtain ⟨also, same⟩ := settled f (List.mem_cons_of_mem e List.mem_cons_self)
      have different := (List.pairwise_cons.mp apart).1 f List.mem_cons_self
      rw [accounted.offsets_eq, also.offsets_eq, settles, same] at different
      exact (different _ (List.mem_singleton_self _) (List.mem_singleton_self _)).elim

end Entry

namespace Deployment

/-- Whether all that has come into a log since an earlier one is told by the chronicle of a
deployment, and each record has one end. -/
structure SettlesOnce (before : Log) (d : Deployment) : Prop where
  /-- The log has become what it is by what the chronicle tells. -/
  log : d.log.Agrees (Entry.replay d.chronicle before)
  commitLog : d.log.commitLog = before.commitLog ++ d.chronicle.flatMap Entry.offsets
  accounted : ∀ e ∈ d.chronicle, e.Accounted d.log
  /-- Each offset is committed once, by one transaction of one worker. -/
  distinct : (d.chronicle.flatMap Entry.offsets).Nodup
  transaction : ∀ c ∈ d.chronicle.flatMap Entry.offsets,
    ∃! i : Nat, ∃ e : Entry, d.chronicle[i]? = some e ∧ e.Commits c
  /-- No record leads to two messages. -/
  messages : ∀ place, ((d.chronicle.filter fun e => e.settles? = some place).flatMap
    Entry.messages).length ≤ 1

/-- From whatever log a consumer begins, and whatever happens to it in whatever order, each record
has one end. -/
theorem commits_once (w : World) (history : List Entry) (config : ConsumerConfig) (workers : Nat)
    (happenings : List Happening) :
    ((start config workers (w.founded history) []).after happenings).SettlesOnce
      (w.founded history).log := by
  have begun : (start config workers (w.founded history) []).Chronicled False
      (w.founded history).log := chronicled_start config workers (w.founded_wellFormed history)
  have told := begun.after happenings False.elim
  have accounted := fun e there => (told.lawful e there).accounted
  have distinct := Entry.nodup_offsets told.due
  refine ⟨told.log, ?_, accounted, distinct, fun c there => ?_,
    Entry.messages_length distinct accounted⟩
  · rw [told.log.commitLog, Entry.replay_commitLog]
  · obtain ⟨e, among, commits⟩ := List.mem_flatMap.mp there
    obtain ⟨i, at_⟩ := List.getElem?_of_mem among
    refine ⟨i, ⟨e, at_, (accounted e among).commits commits⟩, fun j also => ?_⟩
    obtain ⟨f, also, same⟩ := also
    exact Entry.index_unique distinct also at_ same.mem commits

end Deployment

end AlertRelay
