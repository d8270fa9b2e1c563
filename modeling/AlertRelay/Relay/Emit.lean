import AlertRelay.Relay.Route
import AlertRelay.Relay.Settings
import AlertRelay.Wire.Event

/-!
# Emitting alerts

An alert is stored and published inside one transaction. A row that was newly stored is taken out
again when the publication fails, so that an alert is on both sides or on neither; in the latter
case its payload becomes a dead letter.
-/

namespace AlertRelay

/-- How the emission of an alert ended. -/
inductive Emission where
  /-- The alert is stored and published. `alertId` names the stored row only if it was inserted. -/
  | published (alertId : Uuid) (inserted : Bool)
  /-- The payload became a dead letter. -/
  | quarantined (reason : DeadLetterReason) (compensated : Bool)
  deriving DecidableEq, Inhabited

namespace Enrichment

/-- The key under which everything about an event is written. -/
def key (e : Enrichment) : Bytes := utf8 e.event.id

/-- The payload of the alerts topic. -/
def payload (e : Enrichment) : Bytes := utf8 e.toDocument.render

/-- Produces the alert and commits it. -/
def publish (alertsTopic : String) (e : Enrichment) : RelayProgram (Except BrokerError Unit) := do
  match ← (RelayCall.produce .alerts (.plain alertsTopic (some e.key) e.payload)).ask with
  | .error cause => return .error cause
  | .ok () => (RelayCall.commit .alerts).ask

/-- Makes a dead letter of the payload. -/
def quarantine (s : RelaySettings) (e : Enrichment) (reason : DeadLetterReason)
    (compensated : Bool) : RelayProgram Emission := do
  let _ ← (DeadLetter.ofPayload (some e.key) e.payload reason).route s.deadLetterTopic
  return .quarantined reason compensated

/-- Takes a newly stored row out again. Says whether that was done. -/
def compensate (e : Enrichment) (inserted : Bool) : RelayProgram Bool :=
  if inserted then do
    match ← (RelayCall.deleteAlert e.event.id).ask with
    | .ok _ => return true
    | .error _ => do
      (RelayCall.countFailure .compensation).ask
      return false
  else return false

/-- Stores and publishes the alert of an event. Only a transaction that cannot be opened is an
error. -/
def emit (s : RelaySettings) (e : Enrichment) : RelayProgram (Except BrokerError Emission) := do
  let alertId ← RelayCall.freshId.ask
  match ← (RelayCall.begin .alerts).ask with
  | .error cause => return .error cause
  | .ok () =>
    match ← (RelayCall.insertAlert (e.alert alertId)).ask with
    | .error _ => do
      (RelayCall.observe .insert false).ask
      (RelayCall.countFailure .insert).ask
      let _ ← (RelayCall.abort .alerts).ask
      return .ok (← e.quarantine s .databaseFailure false)
    | .ok inserted => do
      (RelayCall.observe .insert true).ask
      match ← e.publish s.alertsTopic with
      | .ok () => do
        (RelayCall.observe .publish true).ask
        return .ok (.published alertId inserted)
      | .error _ => do
        (RelayCall.observe .publish false).ask
        (RelayCall.countFailure .publish).ask
        let _ ← (RelayCall.abort .alerts).ask
        let compensated ← e.compensate inserted
        return .ok (← e.quarantine s .brokerFailure compensated)

end Enrichment

end AlertRelay
