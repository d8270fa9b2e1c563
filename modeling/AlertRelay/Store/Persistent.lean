import AlertRelay.Error
import AlertRelay.Number.Literal
import AlertRelay.Store.Database

/-!
# Alerts in a database

The alert store over a database table: how an alert becomes the parameters of a statement, and how a
row becomes an alert again. Times lose what is finer than a microsecond.
-/

namespace AlertRelay

/-- A connection to the alerts table. -/
structure PersistentStore where
  database : Database
  /-- Whether the database refuses connections. -/
  refused : Bool
  closed : Bool
  deriving Inhabited

namespace Alert

/-- The parameters that store an alert. -/
def parameters (a : Alert) : List SqlValue :=
  [.uuid a.id, .text a.eventId, .text a.incident, .text a.severity.name, .text a.reason,
    .float8 a.score, .timestamp a.eventTime.microsSinceMillennium, .json a.rawEvent.render,
    .int8 a.usage]

end Alert

namespace AlertRow

/-- The value of a column that must have one. -/
def column {α : Type} (name : String) : Option α → Except StoreError α
  | some value => .ok value
  | none => .error (.database ("unexpected null in column " ++ name))

/-- The severity that a column spells. -/
def severityOf (s : String) : Except StoreError Severity :=
  match Severity.ofName? s with
  | some severity => .ok severity
  | none => .error (.corrupt ("unknown severity " ++ s))

/-- The JSON value that a column spells. -/
def jsonOf (s : String) : Except StoreError Json :=
  match Json.parse? s with
  | some value => .ok value
  | none => .error (.database "column raw is not JSON")

/-- The usage that a column holds. -/
def usageOf (n : Int) : Except StoreError Nat :=
  if 0 ≤ n ∧ n < 0x100000000 then .ok n.toNat
  else .error (.corrupt ("gpt_tokens out of range: " ++ toString n))

/-- The alert of a row. The first column that is wrong, in this order, is reported. -/
def toAlert (row : AlertRow) : Except StoreError Alert := do
  let severity ← severityOf (← column "severity" row.severity)
  let usage ← column "gpt_tokens" row.usage
  let eventTime ← column "event_ts" row.eventTime
  let id ← column "id" row.id
  let eventId ← column "event_id" row.eventId
  let incident ← column "class" row.incident
  let reason ← column "reason" row.reason
  let score ← column "score" row.score
  let rawEvent ← jsonOf (← column "raw" row.rawEvent)
  let usage ← usageOf usage
  return {
    id := id
    eventId := eventId
    incident := incident
    severity := severity
    reason := reason
    score := score
    eventTime := .ofMicrosSinceMillennium eventTime
    rawEvent := rawEvent
    usage := usage }

end AlertRow

namespace PersistentStore

/-- An open store over an empty table. -/
def empty : PersistentStore := ⟨Database.empty, false, false⟩

/-- Runs a statement, unless the store is closed or cannot connect. -/
def run (s : PersistentStore) (query : SqlQuery) : Except StoreError SqlReply × PersistentStore :=
  if s.closed then (.error (.database "connection pool closed"), s)
  else if s.refused then (.error (.database "connection refused"), s)
  else
    match s.database.execute query with
    | (some reply, database) => (.ok reply, { s with database := database })
    | (none, database) => (.error (.database "statement failed"), { s with database := database })

/-- Stores an alert unless its event has one. Says whether it was stored. -/
def insertIfAbsent (s : PersistentStore) (a : Alert) : Except StoreError Bool × PersistentStore :=
  let (reply, s) := s.run ⟨.insertAlert, a.parameters⟩
  (reply.map fun reply => !reply.rows.isEmpty, s)

/-- Takes out the alert of an event. Gives how many alerts were taken out. -/
def deleteByEventId (s : PersistentStore) (eventId : String) :
    Except StoreError Nat × PersistentStore :=
  let (reply, s) := s.run ⟨.deleteAlert, [.text eventId]⟩
  (reply.map SqlReply.affected, s)

/-- The alert of an event. -/
def get (s : PersistentStore) (eventId : String) :
    Except StoreError (Option Alert) × PersistentStore :=
  let (reply, s) := s.run ⟨.selectAlert, [.text eventId]⟩
  let found := reply.bind fun reply =>
    match reply.rows with
    | row :: _ => row.toAlert.map some
    | [] => .ok none
  (found, s)

/-- Closes the store. -/
def close (s : PersistentStore) : PersistentStore := { s with closed := true }

end PersistentStore

end AlertRelay
