import AlertRelay.Event
import AlertRelay.Text.Utf8

/-!
# The alerts table

A database table of alerts, unique by event identifier, and the three statements that are run on it.
Statements go in as text with positional parameters; the table keeps a log of them.
-/

namespace AlertRelay

/-- A statement of the alert store. -/
inductive SqlStatement where
  | insertAlert
  | deleteAlert
  | selectAlert
  deriving DecidableEq, Inhabited

/-- A parameter of a statement. -/
inductive SqlValue where
  | uuid (value : Uuid)
  | text (value : String)
  | float8 (value : Float)
  /-- Microseconds since 2000. -/
  | timestamp (micros : Int)
  | json (value : String)
  | int8 (value : Int)
  deriving Inhabited

/-- A statement with its parameters. -/
structure SqlQuery where
  statement : SqlStatement
  parameters : List SqlValue
  deriving Inhabited

/-- A row of the table; every column may be null. -/
structure AlertRow where
  id : Option Uuid
  eventId : Option String
  incident : Option String
  severity : Option String
  reason : Option String
  score : Option Float
  /-- Microseconds since 2000. -/
  eventTime : Option Int
  rawEvent : Option String
  usage : Option Int
  deriving Inhabited

/-- What a statement gives back: rows, and how many rows it touched. -/
structure SqlReply where
  rows : List AlertRow
  affected : Nat
  deriving Inhabited

/-- The table, with how many of the next statements are to fail and a log of all that were run. -/
structure Database where
  rows : List AlertRow
  failNext : Nat
  log : List SqlQuery
  /-- Whether times that a timestamp does not hold are refused. A server that keeps times as plain
  numbers takes them all. -/
  ranged : Bool
  deriving Inhabited

namespace SqlStatement

/-- The text of a statement. -/
def text : SqlStatement → String
  | insertAlert =>
    "INSERT INTO public.alerts ( id, event_id, class, severity, reason, score, event_ts, raw, " ++
      "gpt_tokens ) VALUES ($1, $2, $3, $4, $5, $6, $7, $8, $9) " ++
      "ON CONFLICT (event_id) DO NOTHING RETURNING id"
  | deleteAlert => "DELETE FROM public.alerts WHERE event_id = $1"
  | selectAlert =>
    "SELECT id, event_id, class, severity, reason, score, event_ts, raw, gpt_tokens " ++
      "FROM public.alerts WHERE event_id = $1"

end SqlStatement

namespace Database

/-- An empty table. -/
def empty : Database := ⟨[], 0, [], true⟩

/-- The first time that a timestamp holds, in microseconds since 2000: that of 24 November 4714 BC,
the first of the Julian days. -/
def firstTimestamp : Int := -211813488000000000

/-- The first time after those that a timestamp holds: that of the year 294277. -/
def endTimestamp : Int := 9223371331200000000

/-- Whether a time can be stored. -/
def takesTime (d : Database) (micros : Int) : Bool :=
  !d.ranged || decide (firstTimestamp ≤ micros ∧ micros < endTimestamp)

/-- The rows of an event. -/
def ofEvent (d : Database) (eventId : String) : List AlertRow :=
  d.rows.filter fun row => row.eventId == some eventId

/-- The rows of all other events. -/
def ofOthers (d : Database) (eventId : String) : List AlertRow :=
  d.rows.filter fun row => row.eventId != some eventId

/-- Runs a statement on the rows. Parameters that do not fit the statement or their columns make it
fail, also where nothing would be stored. -/
def apply (d : Database) : SqlQuery → Option (SqlReply × List AlertRow)
  | ⟨.insertAlert, [.uuid id, .text eventId, .text incident, .text severity, .text reason,
      .float8 score, .timestamp micros, .json raw, .int8 usage]⟩ =>
    if !d.takesTime micros then none
    else if (d.ofEvent eventId).isEmpty then
      let row : AlertRow := ⟨some id, some eventId, some incident, some severity, some reason,
        some score, some micros, some raw, some usage⟩
      some (⟨[row], 1⟩, d.rows ++ [row])
    else some (⟨[], 0⟩, d.rows)
  | ⟨.deleteAlert, [.text eventId]⟩ =>
    some (⟨[], (d.ofEvent eventId).length⟩, d.ofOthers eventId)
  | ⟨.selectAlert, [.text eventId]⟩ =>
    some (⟨d.ofEvent eventId, (d.ofEvent eventId).length⟩, d.rows)
  | _ => none

/-- Runs a statement and takes it down in the log; gives nothing if it fails. -/
def execute (d : Database) (query : SqlQuery) : Option SqlReply × Database :=
  let logged := { d with log := d.log ++ [query] }
  match d.failNext with
  | n + 1 => (none, { logged with failNext := n })
  | 0 =>
    match d.apply query with
    | some (reply, rows) => (some reply, { logged with rows := rows })
    | none => (none, logged)

/-- Puts a row into the table, in place of one of the same event. -/
def putRow (d : Database) (row : AlertRow) : Database :=
  match row.eventId with
  | some eventId => { d with rows := d.ofOthers eventId ++ [row] }
  | none => { d with rows := d.rows ++ [row] }

end Database

end AlertRelay
