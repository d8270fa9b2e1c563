/-!
# The diagnostics subscriber

A process has one subscriber for its diagnostics. A second one cannot be installed.
-/

namespace AlertRelay

/-- What the subscriber of a process was installed with. -/
structure Subscriber where
  level : String
  json : Bool
  deriving DecidableEq, Inhabited

/-- Why a subscriber was not installed. -/
inductive SubscriberError where
  | alreadyInstalled
  deriving DecidableEq, Inhabited

namespace Subscriber

/-- Installs a subscriber in a process that has none. -/
def install (installed : Option Subscriber) (s : Subscriber) :
    Except SubscriberError Subscriber :=
  match installed with
  | some _ => .error .alreadyInstalled
  | none => .ok s

end Subscriber

end AlertRelay
