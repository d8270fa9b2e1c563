import AlertRelay.Retry.Attempts

/-!
# Rehearsed attempts

Attempts at an operation whose results are given in advance, one for each call. Backoffs are waited
without their random part.
-/

namespace AlertRelay

/-- What attempts ask for. -/
inductive AttemptCall where
  | operate
  /-- The random share of a backoff. -/
  | draw

/-- The interface of attempts at an operation. -/
abbrev Interface.attempts (ε α : Type) : Interface := ⟨AttemptCall, fun
  | .operate => Except ε α
  | .draw => Float⟩

/-- When the attempts were made so far, and what time it is, in milliseconds. -/
structure AttemptLog where
  times : List Nat
  clock : Nat
  deriving Inhabited

namespace AttemptLog

variable {ε α : Type}

/-- Answers from results that are given in advance. -/
def reply (result : Nat → Except ε α) :
    (call : AttemptCall) → AttemptLog → (Interface.attempts ε α).Reply call × AttemptLog
  | .operate, l => (result l.times.length, { l with times := l.times ++ [l.clock] })
  | .draw, l => ((0.0 : Float), l)

/-- Lets time pass. -/
def wait (nanos : Nat) (l : AttemptLog) : AttemptLog :=
  { l with clock := l.clock + Program.wholeMillis nanos }

end AttemptLog

/-- Makes attempts under a policy whose results are given in advance, numbered from zero. -/
def RetryPolicy.rehearse {ε α : Type} (p : RetryPolicy) (retryable : ε → Bool)
    (result : Nat → Except ε α) : Option (Attempted ε α) × AttemptLog :=
  let program : Program (Interface.attempts ε α) (Attempted ε α) :=
    p.attemptPlain (Program.call AttemptCall.draw Program.done) retryable
      (Program.call AttemptCall.operate Program.done)
  program.run ⟨AttemptLog.reply result, AttemptLog.wait⟩ ⟨[], 0⟩

end AlertRelay
