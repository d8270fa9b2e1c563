/-!
# Outcomes

How the work on a record can end without an error.
-/

namespace AlertRelay

/-- How the work on a record ended. -/
inductive Outcome where
  /-- The result is published and the offset committed. -/
  | processed
  /-- The record was set aside and its offset committed. -/
  | deadLettered
  /-- Nothing is committed, and the record has to be delivered again. -/
  | failed
  deriving DecidableEq, Inhabited

namespace Outcome

/-- The name of an outcome. -/
def name : Outcome → String
  | processed => "Processed"
  | deadLettered => "DeadLettered"
  | failed => "Failed"

end Outcome

end AlertRelay
