import AlertRelay.Outcome
import AlertRelay.Relay.Emit
import AlertRelay.Relay.Enrich

/-!
# Handling records

One record is one unit of work: its result and its offset are committed in one transaction, or
neither is. The unit is attempted again after errors that allow it; what earlier attempts have
enriched and emitted is kept.
-/

namespace AlertRelay

/-- What earlier attempts at a unit of work have achieved. -/
structure UnitProgress where
  enrichment : Option Enrichment
  emission : Option Emission
  deriving Inhabited

namespace UnitProgress

/-- Nothing achieved yet. -/
def none : UnitProgress := ⟨Option.none, Option.none⟩

end UnitProgress

namespace OffsetCommit

/-- Adds an offset to the open transaction and commits it. -/
def confirm (c : OffsetCommit) : RelayProgram (Except RelayError Unit) := do
  match ← (RelayCall.sendOffsets .results [c]).ask with
  | .error cause => return .error (.broker cause)
  | .ok () =>
    match ← (RelayCall.commit .results).ask with
    | .error cause => return .error (.broker cause)
    | .ok () => return .ok ()

end OffsetCommit

namespace Record

/-- The name under which the work on records appears in diagnostics. -/
def handlerName : String := "TransactionalRecordProcessor"

/-- The raw event that a record holds, if it holds a JSON object. -/
def rawEvent? (r : Record) : Option RawEvent := (ofUtf8? r.value).bind Json.parseObject?

/-- Produces a message and commits it with an offset. -/
def produceAndConfirm (m : Message) (c : OffsetCommit) : RelayProgram (Except RelayError Unit) := do
  match ← (RelayCall.produce .results m).ask with
  | .error cause => return .error (.broker cause)
  | .ok () => c.confirm

/-- Sets a record aside and commits past it, inside the open transaction. -/
def setAside (s : RelaySettings) (r : Record) (reason : DeadLetterReason) (c : OffsetCommit) :
    RelayProgram (Except RelayError Unit) := do
  let millis ← RelayCall.now.ask
  produceAndConfirm ((DeadLetter.ofRecord r reason).message s.deadLetterTopic millis) c

/-- The message that writes the result of an event. -/
def resultMessage (s : RelaySettings) (e : Enrichment) : Message :=
  .plain s.outputTopic (some e.key) (utf8 e.result.toDocument.render)

/-- Commits what the emission of an event calls for: its result, or only the offset. -/
def conclude (s : RelaySettings) (c : OffsetCommit) (e : Enrichment) :
    Emission → RelayProgram (Except RelayError Outcome)
  | .quarantined _ _ => do return (← c.confirm).map fun _ => .deadLettered
  | .published _ _ => do
    return (← produceAndConfirm (resultMessage s e) c).map fun _ => .processed

/-- Enriches a raw event unless an earlier attempt has. -/
def enrichOnce (s : RelaySettings) (raw : RawEvent) (p : UnitProgress) :
    RelayProgram (Except EnrichmentError Enrichment) :=
  match p.enrichment with
  | some e => return .ok e
  | none => raw.enrich s.labelerRetry

/-- Emits the alert of an event unless an earlier attempt has. -/
def emitOnce (s : RelaySettings) (e : Enrichment) (p : UnitProgress) :
    RelayProgram (Except BrokerError Emission) :=
  match p.emission with
  | some emission => return .ok emission
  | none => e.emit s

/-- The work on a record inside the open transaction. -/
def work (s : RelaySettings) (r : Record) (c : OffsetCommit) (p : UnitProgress) :
    RelayProgram (Except RelayError Outcome × UnitProgress) := do
  match r.rawEvent? with
  | none => do
    let written ← r.setAside s .undecodable c
    return (written.map fun _ => .deadLettered, p)
  | some raw =>
    match ← enrichOnce s raw p with
    | .error _ => return (.ok .failed, p)
    | .ok e =>
      match ← emitOnce s e p with
      | .error cause => return (.error (.broker cause), ⟨some e, p.emission⟩)
      | .ok emission => do
        let concluded ← conclude s c e emission
        return (concluded, ⟨some e, some emission⟩)

/-- Whether the work on a record has left its transaction open. -/
def leavesOpen : Except RelayError Outcome → Bool
  | .ok .failed => true
  | .ok _ => false
  | .error _ => true

/-- One attempt at a record: a transaction that ends with a commit or an abort. -/
def attemptWork (s : RelaySettings) (r : Record) (c : OffsetCommit) (p : UnitProgress) :
    RelayProgram (Except RelayError Outcome × UnitProgress) := do
  match ← (RelayCall.begin .results).ask with
  | .error cause => return (.error (.broker cause), p)
  | .ok () => do
    let (outcome, p) ← r.work s c p
    if leavesOpen outcome then do
      let _ ← (RelayCall.abort .results).ask
      return (outcome, p)
    else return (outcome, p)

/-- One attempt at setting a record aside. -/
def attemptDeadLetter (s : RelaySettings) (r : Record) (reason : DeadLetterReason)
    (c : OffsetCommit) : RelayProgram (Except RelayError Unit) := do
  match ← (RelayCall.begin .results).ask with
  | .error cause => return .error (.broker cause)
  | .ok () =>
    match ← r.setAside s reason c with
    | .ok () => return .ok ()
    | .error e => do
      let _ ← (RelayCall.abort .results).ask
      return .error e

/-- The error of a unit whose attempts are over. -/
def givenUp (e : RelayError) (attempts : Nat) : RelayError :=
  if e.isRetryable then .retriesExhausted attempts e else e

/-- Counts the outcome of a unit, and remembers its offset if it was committed. -/
def settle (c : OffsetCommit) : Outcome → RelayProgram Unit
  | .processed => do
    (RelayCall.recordOffset c).ask
    RelayCall.countProcessed.ask
  | .deadLettered => do
    (RelayCall.recordOffset c).ask
    RelayCall.countDeadLettered.ask
  | .failed => (RelayCall.countFailure .enrichment).ask

/-- Works on a record until it has an outcome. A record at or below the committed offset is refused.
-/
def handle (s : RelaySettings) (r : Record) : RelayProgram (Except RelayError Outcome) := do
  let c := OffsetCommit.forRecord r s.group
  match ← (RelayCall.checkOffset c).ask with
  | .error e => do
    (RelayCall.countFailure .offset).ask
    return .error e
  | .ok () => do
    let (attempted, _) ← s.retry.attempt RelayCall.share.ask RelayError.isRetryable
      (r.attemptWork s c) UnitProgress.none
    match attempted.outcome with
    | .ok outcome => do
      settle c outcome
      return .ok outcome
    | .error e => do
      (RelayCall.countFailure .commit).ask
      return .error (givenUp e attempted.attempts)

/-- Sets a record aside and commits past it. -/
def deadLetter (s : RelaySettings) (r : Record) (reason : DeadLetterReason) :
    RelayProgram (Except RelayError Unit) := do
  let c := OffsetCommit.forRecord r s.group
  match ← (RelayCall.checkOffset c).ask with
  | .error e => do
    (RelayCall.countFailure .offset).ask
    return .error e
  | .ok () => do
    let attempted ← s.retry.attemptPlain RelayCall.share.ask RelayError.isRetryable
      (r.attemptDeadLetter s reason c)
    match attempted.outcome with
    | .ok () => do
      settle c .deadLettered
      return .ok ()
    | .error e => do
      (RelayCall.countFailure .commit).ask
      return .error (givenUp e attempted.attempts)

end Record

end AlertRelay
