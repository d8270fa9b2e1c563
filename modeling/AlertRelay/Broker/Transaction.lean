import AlertRelay.Broker.Log
import AlertRelay.Error

/-!
# Producers

A transactional producer holds back its messages and offsets until it commits. A plain producer
appends at once. Both may be made to fail: a transactional producer for the next so many calls, or
for good once another one has taken over its identifier.
-/

namespace AlertRelay

/-- What an open transaction has gathered. -/
structure Transaction where
  messages : List Message
  offsets : List OffsetCommit
  deriving DecidableEq, Inhabited

/-- A producer that takes part in transactions. -/
structure TransactionalProducer where
  id : String
  transaction : Option Transaction
  /-- How many of the next calls fail. -/
  failBegin : Nat
  failProduce : Nat
  failCommit : Nat
  /-- Whether another producer has taken over the identifier. -/
  fenced : Bool
  deriving DecidableEq, Inhabited

/-- A producer without transactions, with the faults put upon it. -/
structure PlainProducer where
  /-- Whether the broker is out of reach. -/
  down : Bool
  /-- Whether what was sent cannot be waited for. -/
  flushDown : Bool
  deriving DecidableEq, Inhabited

namespace TransactionalProducer

/-- A producer without a transaction and without faults. -/
def new (id : String) : TransactionalProducer := ⟨id, none, 0, 0, 0, false⟩

/-- The error of a producer that was taken over. -/
def fencedError (p : TransactionalProducer) : BrokerError :=
  .fatal ("producer " ++ p.id ++ " fenced")

/-- The answer of an operation, with the producer and the log after it. -/
abbrev Step := Except BrokerError Unit × TransactionalProducer × Log

/-- Opens a transaction. -/
def begin (p : TransactionalProducer) (l : Log) : Step :=
  if p.fenced then (.error p.fencedError, p, l)
  else
    match p.failBegin with
    | n + 1 => (.error (.transient "injected begin failure"), { p with failBegin := n }, l)
    | 0 =>
      match p.transaction with
      | some _ => (.error (.state "transaction already open"), p, l)
      | none =>
        (.ok (), { p with transaction := some ⟨[], []⟩ },
          { l with stats := { l.stats with begun := l.stats.begun + 1 } })

/-- Adds a message to the open transaction. -/
def produce (p : TransactionalProducer) (l : Log) (m : Message) : Step :=
  if p.fenced then (.error p.fencedError, p, l)
  else
    match p.failProduce with
    | n + 1 => (.error (.transient "injected produce failure"), { p with failProduce := n }, l)
    | 0 =>
      match p.transaction with
      | some t =>
        (.ok (), { p with transaction := some { t with messages := t.messages ++ [m] } }, l)
      | none => (.error (.state "produce outside a transaction"), p, l)

/-- Adds offsets to the open transaction. -/
def sendOffsets (p : TransactionalProducer) (l : Log) (offsets : List OffsetCommit) : Step :=
  if p.fenced then (.error p.fencedError, p, l)
  else
    match p.transaction with
    | some t =>
      (.ok (), { p with transaction := some { t with offsets := t.offsets ++ offsets } }, l)
    | none => (.error (.state "send_offsets outside a transaction"), p, l)

/-- Commits the open transaction: all it has gathered becomes visible. -/
def commit (p : TransactionalProducer) (l : Log) : Step :=
  if p.fenced then (.error p.fencedError, p, l)
  else
    match p.failCommit with
    | n + 1 => (.error (.transient "injected commit failure"), { p with failCommit := n }, l)
    | 0 =>
      match p.transaction with
      | some t =>
        let applied := l.applyTransaction t.messages t.offsets
        (.ok (), { p with transaction := none },
          { applied with
            stats := { applied.stats with committed := applied.stats.committed + 1 } }.ring)
      | none => (.error (.state "commit without a transaction"), p, l)

/-- Drops what the open transaction has gathered, if there is one. -/
def abort (p : TransactionalProducer) (l : Log) : Step :=
  if p.fenced then (.error p.fencedError, p, l)
  else
    match p.transaction with
    | some _ =>
      (.ok (), { p with transaction := none },
        { l with stats := { l.stats with aborted := l.stats.aborted + 1 } })
    | none => (.ok (), p, l)

end TransactionalProducer

namespace PlainProducer

/-- A producer without faults. -/
def new : PlainProducer := ⟨false, false⟩

/-- The error of a producer that cannot reach the broker. -/
def unavailable : BrokerError := .transient "broker unavailable"

/-- Appends a message. -/
def send (p : PlainProducer) (l : Log) (m : Message) : Except BrokerError Unit × Log :=
  if p.down then (.error unavailable, l) else (.ok (), (l.append m).ring)

/-- Waits until what was sent has arrived. -/
def flush (p : PlainProducer) : Except BrokerError Unit :=
  if p.down || p.flushDown then .error unavailable else .ok ()

end PlainProducer

end AlertRelay
