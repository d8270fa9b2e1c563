import AlertRelay.Enrich.Normalize
import AlertRelay.Relay.Effect
import AlertRelay.Retry.Attempts

/-!
# Enriching events

A raw event is normalized, scored and labeled. Only the label is asked for more than once, and only
if the labeler says that it is worth it.
-/

namespace AlertRelay

/-- Enriches a raw event. -/
def RawEvent.enrich (labelerRetry : RetryPolicy) (raw : RawEvent) :
    RelayProgram (Except EnrichmentError Enrichment) := do
  let fresh ← RelayCall.freshId.ask
  match raw.normalize fresh with
  | .error e => return .error e
  | .ok event =>
    match ← (RelayCall.score event).ask with
    | .error e => return .error e
    | .ok score => do
      let labeled ← labelerRetry.attemptPlain RelayCall.share.ask EnrichmentError.isRetryable
        (RelayCall.label event score).ask
      match labeled.outcome with
      | .error e => return .error e
      | .ok label => return .ok ⟨event, score, label⟩

end AlertRelay
