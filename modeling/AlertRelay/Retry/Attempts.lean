import AlertRelay.Program
import AlertRelay.Retry.Policy

/-!
# Attempts

An operation is attempted until it succeeds, fails with an error that is not worth another attempt,
or the policy allows no more attempts. Between two attempts the backoff is waited once. What an
attempt has achieved can be handed on to the next one.
-/

namespace AlertRelay

/-- How the attempts at an operation ended, and how many were made. -/
structure Attempted (ε α : Type) where
  outcome : Except ε α
  attempts : Nat

namespace RetryPolicy

variable {I : Interface} {ε α σ : Type}

/-- Makes attempt number `number`, with `spare` attempts left after it. `draw` says how much of the
random part of a backoff is waited; `achieved` is what earlier attempts have achieved. -/
def attemptFrom (p : RetryPolicy) (draw : Program I Float) (retryable : ε → Bool)
    (operation : σ → Program I (Except ε α × σ)) :
    (spare number : Nat) → (achieved : σ) → Program I (Attempted ε α × σ)
  | 0, number, achieved => do
    let (outcome, achieved) ← operation achieved
    return (⟨outcome, number⟩, achieved)
  | spare + 1, number, achieved => do
    let (outcome, achieved) ← operation achieved
    match outcome with
    | .ok a => return (⟨.ok a, number⟩, achieved)
    | .error e =>
      if retryable e then do
        let share ← draw
        Program.wait (p.backoffNanos number share)
        attemptFrom p draw retryable operation spare (number + 1) achieved
      else return (⟨.error e, number⟩, achieved)

/-- Attempts an operation under a policy. At least one attempt is made. -/
def attempt (p : RetryPolicy) (draw : Program I Float) (retryable : ε → Bool)
    (operation : σ → Program I (Except ε α × σ)) (blank : σ) : Program I (Attempted ε α × σ) :=
  p.attemptFrom draw retryable operation (p.maxAttempts - 1) 1 blank

/-- Attempts an operation that hands nothing on. -/
def attemptPlain (p : RetryPolicy) (draw : Program I Float) (retryable : ε → Bool)
    (operation : Program I (Except ε α)) : Program I (Attempted ε α) := do
  let (attempted, _) ← p.attempt draw retryable
    (fun (_ : Unit) => do
      let outcome ← operation
      return (outcome, ()))
    ()
  return attempted

end RetryPolicy

end AlertRelay
