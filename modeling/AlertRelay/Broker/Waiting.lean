import AlertRelay.Broker.Subscription

/-!
# Waiting for records

A poll that finds nothing waits until the bell of the log rings or its time is over; after each ring
it tries again.
-/

namespace AlertRelay

/-- What a poll came to, and after how many milliseconds. -/
structure Waited where
  answer : Except BrokerError (Option Record)
  millis : Nat

namespace Subscription

/-- Whether a poll has its answer. -/
def answered : Except BrokerError (Option Record) → Bool
  | .ok none => false
  | _ => true

/-- A poll during whose wait nothing happens. -/
def pollAlone (s : Subscription) (l : Log) (timeout : Nat) : Waited × Subscription :=
  let (answer, s) := s.poll l
  (⟨answer, if answered answer then 0 else timeout⟩, s)

/-- A poll while something happens after a number of milliseconds. If the poll is over by then, it
happens afterwards. -/
def pollDuring (s : Subscription) (l : Log) (timeout after : Nat)
    (happen : Subscription → Log → Subscription × Log) : Waited × Subscription × Log :=
  let (answer, s) := s.poll l
  if answered answer then (⟨answer, 0⟩, happen s l)
  else if timeout ≤ after then (⟨answer, timeout⟩, happen s l)
  else
    let (s, changed) := happen s l
    if changed.rings = l.rings then (⟨.ok none, timeout⟩, s, changed)
    else
      let (answer, s) := s.poll changed
      (⟨answer, if answered answer then after else timeout⟩, s, changed)

end Subscription

end AlertRelay
