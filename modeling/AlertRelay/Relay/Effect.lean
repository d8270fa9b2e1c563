import AlertRelay.DeadLetter
import AlertRelay.Error
import AlertRelay.Event
import AlertRelay.Metrics.Counters
import AlertRelay.Program

/-!
# What relay work asks for

The calls that enriching an event, emitting its alert and committing its record make: to the two
transactional producers of a worker, to the alert store, to the dead-letter producer, to the models
that score and label, to the ledger of offsets and to the counters.
-/

namespace AlertRelay

/-- The two transactional producers of a worker. -/
inductive Lane where
  /-- The producer of results and offsets. -/
  | results
  /-- The producer of alerts. -/
  | alerts
  deriving DecidableEq, Inhabited

/-- A call of relay work. -/
inductive RelayCall where
  | begin (lane : Lane)
  | produce (lane : Lane) (message : Message)
  | sendOffsets (lane : Lane) (offsets : List OffsetCommit)
  | commit (lane : Lane)
  | abort (lane : Lane)
  | insertAlert (alert : Alert)
  | deleteAlert (eventId : String)
  | sendDeadLetter (message : Message)
  | flushDeadLetters
  | score (event : Event)
  | label (event : Event) (score : Score)
  | checkOffset (commit : OffsetCommit)
  | recordOffset (commit : OffsetCommit)
  | countProcessed
  | countDeadLettered
  | countDeadLetterFailure
  | countFailure (stage : FailureStage)
  /-- Takes in how long the last call took. -/
  | observe (step : TimedStep) (success : Bool)
  /-- Asks for an identifier that was never given before. -/
  | freshId
  /-- Asks for the time in milliseconds since 1970. -/
  | now
  /-- Asks for the random share of a backoff, from zero up to one. -/
  | share

namespace RelayCall

/-- What a call is replied with. -/
def Reply : RelayCall → Type
  | begin _ | produce _ _ | sendOffsets _ _ | commit _ | abort _ => Except BrokerError Unit
  | insertAlert _ => Except StoreError Bool
  | deleteAlert _ => Except StoreError Nat
  | sendDeadLetter _ | flushDeadLetters => Except BrokerError Unit
  | score _ => Except EnrichmentError Score
  | label _ _ => Except EnrichmentError Label
  | checkOffset _ => Except RelayError Unit
  | recordOffset _ | countProcessed | countDeadLettered | countDeadLetterFailure | countFailure _
  | observe _ _ => Unit
  | freshId => Uuid
  | now => Int
  | share => Float

end RelayCall

/-- The interface of relay work. -/
abbrev Interface.relay : Interface := ⟨RelayCall, RelayCall.Reply⟩

/-- A piece of relay work. -/
abbrev RelayProgram (α : Type) := Program Interface.relay α

/-- One call of relay work. -/
def RelayCall.ask (request : RelayCall) : RelayProgram request.Reply :=
  Program.call request Program.done

end AlertRelay
