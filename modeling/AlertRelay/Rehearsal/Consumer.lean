import AlertRelay.Delivery.Schedule

/-!
# Rehearsals

A rehearsal runs a consumer with scripts in place of its source and its handlers, and keeps a record
of what they were asked to do.
-/

namespace AlertRelay

/-- What the source of a rehearsal has for one poll. -/
inductive Cue where
  /-- A record, which may be the first of a new assignment. -/
  | record (record : Record) (generation : Option Nat)
  | failed (cause : BrokerError)
  /-- The shutdown begins. -/
  | stop
  /-- Nothing, for as long as the poll may last. -/
  | silence

/-- What a handler of a rehearsal does. -/
inductive Part (α : Type) where
  | answer (result : Except RelayError α)
  | crash

/-- What the handlers and the source of a rehearsal do. The number says how often a handler was
asked for the same record before. -/
structure Script where
  assignment : Except BrokerError (List TopicPartition)
  pause : Except BrokerError Unit
  resume : Except BrokerError Unit
  seek : Except BrokerError Unit
  highWatermark : TopicPartition → Except BrokerError (Option Int)
  close : Except BrokerError Unit
  handle : Record → Nat → Part Outcome
  deadLetter : Record → Nat → Part Unit
  /-- How long a handler works on a record. -/
  delayMillis : Nat
  /-- Whether the source says which assignment a record belongs to. -/
  tellsGeneration : Bool

/-- A call that a handler was asked to make: with a reason, the record was to be set aside. -/
structure RehearsalCall where
  record : Record
  reason : Option DeadLetterReason

/-- The state of a rehearsal. -/
structure Rehearsal where
  script : Script
  cues : List Cue
  generation : Nat
  /-- Whether a cue has asked for the shutdown. -/
  stopping : Bool
  /-- The calls of each worker, the last first. -/
  calls : List (Nat × RehearsalCall)
  seeks : List (TopicPartition × Int)
  /-- What was paused and resumed. -/
  turns : List (GateTransition × List TopicPartition)
  /-- How often the source was closed. -/
  closings : Nat

/-- What a call was, in words. -/
def RehearsalCall.text (call : RehearsalCall) : String :=
  match call.reason with
  | none => "handle " ++ toString call.record.offset
  | some reason => "dead_letter " ++ toString call.record.offset ++ " " ++ reason.text

namespace Script

/-- What a handler does when it is asked once more. -/
def Reply (call : RehearsalCall) : Type :=
  match call.reason with
  | none => Part Outcome
  | some _ => Part Unit

end Script

/-- The interface of the handlers of a rehearsal. -/
abbrev Interface.rehearsal : Interface := ⟨RehearsalCall, Script.Reply⟩

namespace Part

/-- The rest of the work of a handler that knows its part. -/
def perform {I : Interface} {α : Type} : Part α → Program I (Except RelayError α)
  | answer result => .done result
  | crash => .crash

end Part

namespace Rehearsal

/-- A rehearsal before its first poll. -/
def start (script : Script) (cues : List Cue) : Rehearsal := ⟨script, cues, 0, false, [], [], [], 0⟩

/-- What the next poll brings. After the last cue the source is closed. -/
def fetch (r : Rehearsal) : Fetched × Rehearsal :=
  match r.cues with
  | [] => (.failed .closed, r)
  | .record record generation :: rest =>
    (.record record, { r with cues := rest, generation := generation.getD r.generation })
  | .failed cause :: rest => (.failed cause, { r with cues := rest })
  | .stop :: rest => (.nothing, { r with cues := rest, stopping := true })
  | .silence :: rest => (.notYet, { r with cues := rest })

/-- The source of a rehearsal. Nobody calls those who wait for it. -/
def source : RecordSource Rehearsal where
  fetch := fetch
  rings _ := 0
  generation r := if r.script.tellsGeneration then r.generation else 0
  assignment r := r.script.assignment
  pause tps r := (r.script.pause, { r with turns := r.turns ++ [(.pause, tps)] })
  resume tps r := (r.script.resume, { r with turns := r.turns ++ [(.resume, tps)] })
  seek tp offset r := (r.script.seek, { r with seeks := r.seeks ++ [(tp, offset)] })
  highWatermark tp r := r.script.highWatermark tp
  close r := (r.script.close, { r with closings := r.closings + 1 })

/-- How often a worker was asked to do the same. -/
def timesAsked (r : Rehearsal) (worker : Nat) (call : RehearsalCall) : Nat :=
  r.calls.countP fun (other, asked) =>
    other == worker && asked.reason.isSome == call.reason.isSome &&
      asked.record.topicPartition == call.record.topicPartition &&
      asked.record.offset == call.record.offset

/-- The part that a handler plays next. -/
def part (r : Rehearsal) (worker : Nat) : (call : RehearsalCall) → Script.Reply call
  | ⟨record, none⟩ => r.script.handle record (r.timesAsked worker ⟨record, none⟩)
  | ⟨record, some reason⟩ => r.script.deadLetter record (r.timesAsked worker ⟨record, some reason⟩)

/-- A call of a worker is written down and answered from the script. -/
def reply (worker : Nat) (call : RehearsalCall) (r : Rehearsal) : Script.Reply call × Rehearsal :=
  (r.part worker call, { r with calls := (worker, call) :: r.calls })

/-- A handler that plays its part after a delay. -/
def handler (delayMillis : Nat) : RecordHandler Interface.rehearsal where
  handle record := .call ⟨record, none⟩ fun (p : Part Outcome) =>
    .pause (delayMillis * 1000000) p.perform
  deadLetter record reason := .call ⟨record, some reason⟩ fun (p : Part Unit) =>
    .pause (delayMillis * 1000000) p.perform

/-- Settings to rehearse with: short waits, low marks and few attempts. -/
def config : ConsumerConfig :=
  { ConsumerConfig.standard with
    pollTimeoutMillis := 20
    highWatermark := 100
    lowWatermark := 10
    queueCapacity := 256
    workers := some 2
    retryPolicy := .exponential 3 1 4
    labelerRetryPolicy := .exponential 1 1 1
    maxRedeliveries := 2
    shutdownTimeoutMillis := 5000 }

/-- The consumer of a rehearsal, with a number of workers. -/
def consumer (c : ConsumerConfig) (script : Script) (workers : Nat) :
    Consumer Interface.rehearsal Rehearsal :=
  ⟨c, source, List.replicate workers (handler script.delayMillis), reply⟩

/-- The shutdown begins as soon as a cue asks for it. -/
def timing : Timing Rehearsal := ⟨fun r => r.stopping, fun _ => false, fun _ r => r⟩

end Rehearsal

end AlertRelay
