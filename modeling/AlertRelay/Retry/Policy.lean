import AlertRelay.Number.Text
import AlertRelay.Wire.Event

/-!
# Retry policies

How often an operation is tried and how long is waited before it is tried again: an exponential
backoff under a ceiling, with a random share added. A policy that is decoded keeps to bounds; one
that is put together in code need not.
-/

namespace AlertRelay

/-- When and how often to try again. The first try counts as an attempt. -/
structure RetryPolicy where
  maxAttempts : Nat
  initialMillis : Nat
  maxMillis : Nat
  multiplier : Float
  jitter : Float
  deriving Inhabited

namespace RetryPolicy

/-- Five attempts, 100 ms doubling to 5 s, a tenth of it random. -/
def standard : RetryPolicy := ⟨5, 100, 5000, 2.0, 0.1⟩

/-- A doubling backoff without a random share. -/
def exponential (maxAttempts initialMillis maxMillis : Nat) : RetryPolicy :=
  ⟨maxAttempts, initialMillis, maxMillis, 2.0, 0.0⟩

/-- One attempt only. -/
def once : RetryPolicy := { standard with maxAttempts := 1 }

/-- Five attempts at a label, 2 s doubling to 20 s. -/
def labeling : RetryPolicy := ⟨5, 2000, 20000, 2.0, 0.1⟩

/-- Whether another attempt is allowed after so many. -/
def allows (p : RetryPolicy) (attempts : Nat) : Bool := attempts < p.maxAttempts

/-- The backoff in milliseconds after so many failed attempts, without the random share. The
exponent is limited so that the power stays finite. -/
def baseMillis (p : RetryPolicy) (attempt : Nat) : Float :=
  let ceiling := nearestDouble p.maxMillis
  let power := p.multiplier.pow (nearestDouble (min (attempt - 1) 63))
  let grown := nearestDouble p.initialMillis * power
  let base := if grown < ceiling then grown else ceiling
  if base.isFinite then base else ceiling

/-- A double as a count, rounded to the nearest, halves away from zero, and kept within 64 bits. -/
def roundToCount (x : Float) : Nat :=
  match Binary64.ofFloat x.round with
  | .nan => 0
  | .infinite negative => if negative then 0 else maxWord
  | .finite negative significand exponent =>
    if negative then 0
    else min maxWord (significand * pow2 exponent.toNat / pow2 (-exponent).toNat)

/-- The backoff in nanoseconds after so many failed attempts, where `share`, from zero up to one,
says how much of the random part is waited. -/
def backoffNanos (p : RetryPolicy) (attempt : Nat) (share : Float) : Nat :=
  if attempt = 0 then 0
  else
    let base := p.baseMillis attempt
    roundToCount ((base + base * p.jitter * share) * 1000000.0)

/-- The most attempts a decoded policy may ask for. -/
def attemptLimit : Nat := 1000

/-- The longest backoff a decoded policy may ask for, in milliseconds: an hour. -/
def backoffLimit : Nat := 3600000

/-- The text of a double in plain notation. -/
private def plainReal (x : Float) : String := (Binary64.ofFloat x).plainText

/-- Reads a number of attempts. -/
def attemptsDecoder : Decoder Nat := fun rules d => do
  let n ← Decoder.natural maxWord32 rules d
  if n = 0 ∨ attemptLimit < n then
    .error (.outOfRange
      ("max_attempts " ++ toString n ++ " must be between 1 and " ++ toString attemptLimit))
  else .ok n

/-- Reads a backoff. -/
def backoffDecoder : Decoder Nat := fun rules d => do
  let n ← Decoder.natural maxWord rules d
  if backoffLimit < n then
    .error (.outOfRange
      ("backoff " ++ toString n ++ "ms exceeds maximum allowed " ++ toString backoffLimit ++ "ms"))
  else .ok n

/-- Reads a multiplier. -/
def multiplierDecoder : Decoder Float := fun rules d => do
  let x ← Decoder.real rules d
  if !x.isFinite || x < 1.0 || 100.0 < x then
    .error (.outOfRange
      ("backoff_multiplier " ++ plainReal x ++ " must be finite and between 1.0 and 100"))
  else .ok x

/-- Reads a random share. -/
def jitterDecoder : Decoder Float := fun rules d => do
  let x ← Decoder.real rules d
  if !x.isFinite || x < 0.0 || 1.0 < x then
    .error (.outOfRange
      ("jitter_factor " ++ plainReal x ++ " must be finite and between 0.0 and 1"))
  else .ok x

/-- The document of a policy. -/
def toDocument (p : RetryPolicy) : Document :=
  .ofFields [("max_attempts", .integer p.maxAttempts),
    ("initial_backoff_ms", .integer p.initialMillis), ("max_backoff_ms", .integer p.maxMillis),
    ("backoff_multiplier", .real p.multiplier), ("jitter_factor", .real p.jitter)]

/-- The fields of a policy that have been read. -/
structure Fields where
  maxAttempts : Option Nat
  initialMillis : Option Nat
  maxMillis : Option Nat
  multiplier : Option Float
  jitter : Option Float

/-- Reads a policy; what is missing is taken from the standard policy. -/
def decoder : Decoder RetryPolicy :=
  Decoder.record
    [.named "max_attempts" attemptsDecoder Fields.maxAttempts
        fun v found => { found with maxAttempts := some v },
      .named "initial_backoff_ms" backoffDecoder Fields.initialMillis
        fun v found => { found with initialMillis := some v },
      .named "max_backoff_ms" backoffDecoder Fields.maxMillis
        fun v found => { found with maxMillis := some v },
      .named "backoff_multiplier" multiplierDecoder Fields.multiplier
        fun v found => { found with multiplier := some v },
      .named "jitter_factor" jitterDecoder Fields.jitter
        fun v found => { found with jitter := some v }]
    ⟨none, none, none, none, none⟩
    fun found => some {
      maxAttempts := found.maxAttempts.getD standard.maxAttempts
      initialMillis := found.initialMillis.getD standard.initialMillis
      maxMillis := found.maxMillis.getD standard.maxMillis
      multiplier := found.multiplier.getD standard.multiplier
      jitter := found.jitter.getD standard.jitter }

end RetryPolicy

end AlertRelay
