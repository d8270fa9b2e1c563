import AlertRelay.Proofs.Delivery.Strides
import AlertRelay.Proofs.Gate
import Mathlib.Algebra.Order.BigOperators.Group.List
import Mathlib.Algebra.Order.Ring.Nat

/-!
# What is in flight

The gate counts deliveries in and out while the loop and the workers move in any order. Its count is
always the load of the run (`ConsumerRun.Counted`): the deliveries that are being sent, that are
queued, and that workers are busy with. The shutdown counts the units of work in the same way.
-/

namespace AlertRelay

variable {I : Interface} {ω : Type}

namespace WorkerStage

/-- Whether a worker has a delivery that the gate still counts. A worker that has crashed keeps it.
-/
def isBusy : WorkerStage I → Bool
  | idle | showing _ | exited => false
  | _ => true

/-- Whether a worker is in a unit of work. -/
def inUnit : WorkerStage I → Bool
  | handling _ _ | rewinding _ | settingAside _ _ _ | failing _ _ | blaming _ _ | stopping _
  | leaving _ => true
  | _ => false

end WorkerStage

namespace Worker

/-- The number of deliveries that a worker has in its queue and in hand. -/
def load (k : Worker I) : Nat := k.queue.length + k.stage.isBusy.toNat

/-- The number of units of work that a worker is in. -/
def units (k : Worker I) : Nat := k.stage.inUnit.toNat

variable {c : Consumer I ω} {h : RecordHandler I} {id : Nat} {closed : Bool}
  {k later : Worker I} {s after : Shared ω} {ns : List WorkerNotice}

/-- The end of a unit takes one from the count of units. -/
theorem endUnit_units (s : Shutdown) : s.endUnit.units = s.units - 1 := by
  unfold Shutdown.endUnit
  dsimp only
  split <;> rfl

/-- A step of a worker changes the two counts as it changes what they count. -/
theorem Stride.counts (stride : Stride c id h closed k s ns later after)
    (load : k.load ≤ s.gate.inFlight) (units : k.units ≤ s.shutdown.units) :
    after.gate.inFlight + k.load = s.gate.inFlight + later.load ∧
      after.shutdown.units + k.units = s.shutdown.units + later.units := by
  unfold Worker.load Worker.units at *
  cases stride with
  | take d rest stage queue =>
      simp only [stage, queue, List.length_cons]
      exact ⟨rfl, rfl⟩
  | crash d stage =>
      have inside : k.stage.isBusy = true ∧ k.stage.inUnit = true := by
        rcases stage with stage | ⟨_, stage⟩ <;> rw [stage] <;> exact ⟨rfl, rfl⟩
      rw [inside.2] at units ⊢
      rw [inside.1]
      refine ⟨rfl, ?_⟩
      change s.shutdown.endUnit.units + 1 = s.shutdown.units + 0
      rw [endUnit_units]
      change 1 ≤ s.shutdown.units at units
      omega
  | enter d stage =>
      simp only [stage]
      exact ⟨rfl, Nat.add_zero _⟩
  | leave d stage =>
      simp only [stage] at *
      refine ⟨rfl, ?_⟩
      change s.shutdown.endUnit.units + 1 = s.shutdown.units + 0
      rw [endUnit_units]
      change 1 ≤ s.shutdown.units at units
      omega
  | finish stage =>
      simp only [stage] at *
      refine ⟨?_, rfl⟩
      change k.queue.length + 1 ≤ s.gate.inFlight at load
      change s.gate.inFlight - 1 + (k.queue.length + 1) = s.gate.inFlight + (k.queue.length + 0)
      omega
  | exit stage | drop d why stage | accept d awaiting stage | call d request next stage
  | pause d nanos next stage | settle d outcome redeliveries stage | retry d stage | giveUp d stage
  | fail d cause stage | callAside d request next stage | pauseAside d nanos next stage
  | settleAside d stage | failAside d cause stage | rewind d outside stage
  | failRewind d cause outside stage | seekBack d cause stage | blame d cause stage
  | stop d stage | display count traffic stage =>
      simp only [stage]
      exact ⟨rfl, rfl⟩

end Worker

/-- One summand is exchanged for another one. -/
theorem sum_map_set {α : Type} (f : α → Nat) {l : List α} {i : Nat} {a : α}
    (present : l[i]? = some a) (b : α) :
    ((l.set i b).map f).sum + f a = (l.map f).sum + f b := by
  induction l generalizing i with
  | nil => cases present
  | cons x rest ih =>
      cases i with
      | zero =>
          cases present
          simp only [List.set_cons_zero, List.map_cons, List.sum_cons]
          omega
      | succ i =>
          have kept := ih (i := i) present
          simp only [List.set_cons_succ, List.map_cons, List.sum_cons]
          omega

/-- Each of several numbers is at most their sum. -/
theorem le_sum_map {α : Type} (f : α → Nat) {l : List α} {i : Nat} {a : α}
    (present : l[i]? = some a) : f a ≤ (l.map f).sum :=
  List.le_sum_of_mem (List.mem_map_of_mem (List.mem_of_getElem? present))

namespace ConsumerRun

variable {c : Consumer I ω} {r later : ConsumerRun I ω} {m : Move}

/-- The number of deliveries that are being sent, queued or worked on. -/
def load (r : ConsumerRun I ω) : Nat :=
  r.loop.counted.toList.length + (r.workers.map Worker.load).sum

/-- Whether the gate counts the deliveries in flight, and the shutdown the units of work. -/
structure Counted (r : ConsumerRun I ω) : Prop where
  inFlight : r.shared.gate.inFlight = r.load
  units : r.shared.shutdown.units = (r.workers.map Worker.units).sum

/-- A move of the loop leaves the counts right. -/
theorem Counted.shift {ns : List LoopNotice} (counted : r.Counted) (shift : Shift c r ns later) :
    later.Counted := by
  obtain ⟨inFlight, units⟩ := counted
  unfold ConsumerRun.load at inFlight
  cases shift with
  | quiet alike =>
      refine ⟨?_, ?_⟩
      · rw [ConsumerRun.load, alike.gate, alike.counted, alike.workers, inFlight]
      · rw [alike.shutdown, alike.workers, units]
  | evaluate evaluates =>
      rw [evaluates] at inFlight
      refine ⟨?_, units⟩
      have turned := (LoopStage.ofTransition_shape r.shared.gate.evaluate.1).2.2.1
      unfold ConsumerRun.load ConsumerRun.goWith
      rw [turned]
      exact r.shared.gate.evaluate_counts.2.2.trans inFlight
  | fetch polls =>
      refine ⟨?_, units⟩
      rw [(LoopStage.polling_shape polls).2.2.1] at inFlight
      have free := (LoopStage.ofFetched_shape (c.source.rings r.shared.outside)
        (c.source.fetch r.shared.outside).1).2.2.1
      unfold ConsumerRun.load ConsumerRun.fetch ConsumerRun.goWith
      dsimp only
      rw [free]
      exact inFlight
  | enqueue d enqueues =>
      rw [enqueues] at inFlight
      refine ⟨?_, units⟩
      change r.shared.gate.inFlight + 1 = 1 + (r.workers.map Worker.load).sum
      rw [inFlight, Nat.add_comm]
      exact congrArg _ (Nat.zero_add _)
  | send d k sends present active room =>
      have loads := sum_map_set Worker.load present { k with queue := k.queue ++ [d] }
      have counts := sum_map_set Worker.units present { k with queue := k.queue ++ [d] }
      have longer : Worker.load { k with queue := k.queue ++ [d] } = k.load + 1 := by
        simp only [Worker.load, List.length_append, List.length_singleton]
        omega
      have same : Worker.units { k with queue := k.queue ++ [d] } = k.units := rfl
      rw [sends] at inFlight
      change r.shared.gate.inFlight = 1 + (r.workers.map Worker.load).sum at inFlight
      refine ⟨?_, ?_⟩
      · change r.shared.gate.inFlight = 0 + ((r.workers.set (r.workerOf d) _).map Worker.load).sum
        omega
      · change r.shared.shutdown.units = ((r.workers.set (r.workerOf d) _).map Worker.units).sum
        omega
  | refuse d sends absent =>
      rw [sends] at inFlight
      refine ⟨?_, units⟩
      change r.shared.gate.inFlight = 1 + (r.workers.map Worker.load).sum at inFlight
      change r.shared.gate.inFlight - 1 = 0 + (r.workers.map Worker.load).sum
      omega
  | blame cause same | close same | abandon same | settle traffic same =>
      rw [same] at inFlight
      exact ⟨inFlight, units⟩
  | stop => exact ⟨inFlight, units⟩

/-- Every move leaves the counts right. -/
theorem Counted.step (counted : r.Counted) (step : r.step? c m = some later) : later.Counted := by
  rcases step_cases step with ⟨id, k, h, k', s', rfl, present, _, stepped, _, rfl⟩ | ⟨ns, _, shift⟩
  · have loads := sum_map_set Worker.load present k'
    have counts := sum_map_set Worker.units present k'
    have held := le_sum_map Worker.load present
    have entered := le_sum_map Worker.units present
    have inFlight := counted.inFlight
    have units := counted.units
    unfold ConsumerRun.load at inFlight
    obtain ⟨gate, unit⟩ := (Worker.step_stride stepped).counts (by omega) (by omega)
    refine ⟨?_, ?_⟩
    · change s'.gate.inFlight = r.loop.counted.toList.length +
        ((r.workers.set id k').map Worker.load).sum
      omega
    · change s'.shutdown.units = ((r.workers.set id k').map Worker.units).sum
      omega
  · exact counted.shift shift

/-- Before a worker counts a delivery out, something is in flight. -/
theorem Counted.inFlight_pos (counted : r.Counted) {k : Worker I} (among : k ∈ r.workers)
    (finishing : k.stage = .finishing) : 0 < r.shared.gate.inFlight := by
  obtain ⟨id, present⟩ := List.mem_iff_getElem?.mp among
  have held := le_sum_map Worker.load present
  have busy : 0 < k.load := by
    unfold Worker.load
    rw [finishing]
    exact Nat.succ_pos _
  rw [counted.inFlight]
  unfold ConsumerRun.load
  omega

/-- Every act leaves the counts right. -/
theorem Counted.next (counted : r.Counted) (a : Act ω) : (r.next c a).Counted :=
  next_cases a counted (fun _ _ _ step => counted.step step)
    fun _ _ => ⟨counted.inFlight, counted.units⟩

/-- A run begins with nothing to count. -/
theorem counted_start (c : Consumer I ω) (outside : ω) : (c.start outside).Counted := by
  have idle : ∀ f : Worker I → Nat, f .new = 0 →
      (((c.start outside).workers).map f).sum = 0 := by
    intro f new
    simp [Consumer.start, new]
  refine ⟨?_, ?_⟩
  · change 0 = 0 + _
    rw [idle Worker.load rfl]
  · exact (idle Worker.units rfl).symm

/-- After any acts, the gate counts the deliveries in flight and the shutdown the units of work. -/
theorem counted_after (c : Consumer I ω) (outside : ω) (acts : List (Act ω)) :
    ((c.start outside).after c acts).Counted :=
  after_induction acts (counted_start c outside) fun _ a _ counted => counted.next a

end ConsumerRun

end AlertRelay
