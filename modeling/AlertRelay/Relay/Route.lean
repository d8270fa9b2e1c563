import AlertRelay.Relay.Effect

/-!
# Routing dead letters

Dead letters are sent as well as possible: a failure is counted and reported, but it is no error.
-/

namespace AlertRelay

/-- Sends a dead letter and says whether it has arrived. -/
def DeadLetter.route (topic : String) (d : DeadLetter) : RelayProgram Bool := do
  let millis ← RelayCall.now.ask
  match ← (RelayCall.sendDeadLetter (d.message topic millis)).ask with
  | .error _ => do
    RelayCall.countDeadLetterFailure.ask
    return false
  | .ok () =>
    match ← RelayCall.flushDeadLetters.ask with
    | .error _ => do
      RelayCall.countDeadLetterFailure.ask
      return false
    | .ok () => return true

end AlertRelay
