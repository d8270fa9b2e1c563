import AlertRelay.Error
import AlertRelay.Event
import AlertRelay.Table

/-!
# The alert store

Alerts kept by the identifier of their event, at most one for each. A store may be made to fail, and
once closed it answers nothing more.
-/

namespace AlertRelay

/-- Alerts by the identifier of their event. -/
structure AlertStore where
  rows : Table String Alert
  failInserts : Bool
  failDeletes : Bool
  closed : Bool
  deriving Inhabited

namespace AlertStore

/-- An open store without alerts and without faults. -/
def empty : AlertStore := ⟨Table.empty, false, false, false⟩

/-- Stores an alert unless its event has one. Says whether it was stored. -/
def insertIfAbsent (s : AlertStore) (a : Alert) : Except StoreError Bool × AlertStore :=
  if s.closed then (.error .closed, s)
  else if s.failInserts then (.error (.unavailable "injected insert failure"), s)
  else if s.rows.contains a.eventId then (.ok false, s)
  else (.ok true, { s with rows := s.rows.put a.eventId a })

/-- Takes out the alert of an event. Gives how many alerts were taken out. -/
def deleteByEventId (s : AlertStore) (eventId : String) : Except StoreError Nat × AlertStore :=
  if s.closed then (.error .closed, s)
  else if s.failDeletes then (.error (.unavailable "injected delete failure"), s)
  else if s.rows.contains eventId then (.ok 1, { s with rows := s.rows.erase eventId })
  else (.ok 0, s)

/-- The alert of an event. -/
def get (s : AlertStore) (eventId : String) : Except StoreError (Option Alert) :=
  if s.closed then .error .closed else .ok (s.rows.get? eventId)

/-- Closes the store. -/
def close (s : AlertStore) : AlertStore := { s with closed := true }

end AlertStore

end AlertRelay
