import AlertRelay.Json
import AlertRelay.Net.Address
import AlertRelay.Score
import AlertRelay.Time.Rfc3339
import AlertRelay.Uuid

/-!
# Events, labels and alerts

A telemetry event in its normal form, the label a classifier gives it, and what is written about it:
the alert that is stored, the payload of the alerts topic and the result of the output topic.
-/

namespace AlertRelay

/-- A telemetry event after its fields have been recognized. -/
structure Event where
  /-- What alerts are kept unique by. -/
  id : String
  source : Address
  destination : Option Address
  user : Option String
  time : Instant
  /-- The fields that were not recognized. -/
  extra : List (String × Json)
  deriving Inhabited

/-- The class of a scored event. -/
structure Label where
  incident : String
  severity : Severity
  reason : String
  /-- How many tokens it took to find the label. -/
  usage : Nat
  deriving DecidableEq, Inhabited

/-- The stored alert of an event. -/
structure Alert where
  id : Uuid
  eventId : String
  incident : String
  severity : Severity
  reason : String
  score : Float
  eventTime : Instant
  rawEvent : Json
  usage : Nat
  deriving Inhabited

/-- An event with its scores and its label. -/
structure Enrichment where
  event : Event
  score : Score
  label : Label
  deriving Inhabited

/-- What is written to the output topic about an event. -/
structure Result where
  id : String
  score : Float
  reason : String
  severity : Severity
  incident : String
  deriving Inhabited

namespace Event

/-- Whether the event came from an internal address. -/
def isInternal (e : Event) : Bool := e.source.isInternal

/-- The members that spell an event, in the order in which they are written. -/
def members (e : Event) : List (String × Json) :=
  [("id", .text e.id), ("src_ip", .text e.source.render)] ++
    (e.destination.map fun a => ("dst_ip", Json.text a.render)).toList ++
    (e.user.map fun u => ("user_id", Json.text u)).toList ++
    [("timestamp", .text e.time.render)] ++
    (if e.extra.isEmpty then [] else [("extra", .object e.extra)])

/-- An event as a free-form value. -/
def toJson (e : Event) : Json := .object (Json.sortMembers e.members)

end Event

namespace Enrichment

/-- The alert of an enriched event, under a new identifier. -/
def alert (e : Enrichment) (id : Uuid) : Alert where
  id := id
  eventId := e.event.id
  incident := e.label.incident
  severity := e.label.severity
  reason := e.label.reason
  score := e.score.aggregate
  eventTime := e.event.time
  rawEvent := e.event.toJson
  usage := e.label.usage

/-- The result of an enriched event. -/
def result (e : Enrichment) : Result :=
  ⟨e.event.id, e.score.aggregate, e.label.reason, e.label.severity, e.label.incident⟩

end Enrichment

end AlertRelay
