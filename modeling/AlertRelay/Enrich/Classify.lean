import AlertRelay.Event
import AlertRelay.Number.Text

/-!
# Classifying by severity

The label of a score by itself: one class for each band of severity.
-/

namespace AlertRelay

namespace Severity

/-- The incident class of a band. -/
def incident : Severity → String
  | critical => "Account Compromise"
  | high => "Data Exfiltration"
  | medium => "Malware"
  | low => "Benign"

end Severity

/-- The label that the aggregate score alone gives. -/
def Label.ofScore (score : Score) : Label where
  incident := (Severity.ofScore score.aggregate).incident
  severity := Severity.ofScore score.aggregate
  reason := "aggregate score " ++ (Binary64.ofFloat score.aggregate).fixedText 2
  usage := 0

end AlertRelay
