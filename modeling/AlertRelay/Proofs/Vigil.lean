import AlertRelay.Shutdown
import Mathlib.Data.List.Induction

/-!
# Waiting until no unit is running

Units of work begin and end and others wait until none is running, any number of them and in any
order. The end of a unit has two halves, and a wait has a moment between its reading of the count
and its pause; whatever falls in between, no wait misses the call of the unit that ends last
(`Vigil.no_call_missed`), and once no unit is running every wait comes to its end (`Vigil.ends`).
-/

namespace AlertRelay

/-- What has become of a unit of work. -/
inductive UnitStage where
  | running
  /-- It is out of the count; `last` tells whether it is about to call those who wait. -/
  | leaving (last : Bool)
  | gone
  deriving DecidableEq

/-- A wait, where the moment is told apart at which it has read a count above zero and has not
paused yet. -/
inductive Waiter where
  | standing (wait : IdleWait)
  | pausing (calls : Nat)
  deriving DecidableEq

namespace Waiter

/-- The wait as such: one that is about to pause is the same as a paused one. -/
def wait : Waiter → IdleWait
  | standing wait => wait
  | pausing calls => .parked calls

/-- One step of a wait. -/
def step (s : Shutdown) (w : Waiter) : Waiter :=
  match w, w.wait.step s with
  | standing (.listening _), .parked calls => pausing calls
  | _, next => standing next

/-- Telling the moment apart does not change what a wait does. -/
theorem wait_step (s : Shutdown) (w : Waiter) : (w.step s).wait = w.wait.step s := by
  unfold Waiter.step
  split
  · next same => exact same.symm
  · rfl

/-- A wait comes to its end by reading a count of zero. -/
theorem idle_of_step {s : Shutdown} {w : Waiter} (ending : w.step s = standing .finished) :
    w = standing .finished ∨ (∃ calls, w = standing (.listening calls)) ∧ s.units = 0 := by
  have ended : w.wait.step s = .finished := by
    rw [← wait_step, ending]
    rfl
  rcases w with wait | calls
  · cases wait with
    | fresh => cases ended
    | listening calls =>
        by_cases idle : s.units = 0
        · exact .inr ⟨⟨calls, rfl⟩, idle⟩
        · cases ended.symm.trans (if_neg idle)
    | parked calls =>
        change (if calls < s.calls then IdleWait.fresh else .parked calls) = _ at ended
        split at ended <;> cases ended
    | finished => exact .inl rfl
  · change (if calls < s.calls then IdleWait.fresh else .parked calls) = _ at ended
    split at ended <;> cases ended

end Waiter

/-- Units of work and those who wait until none is running, around one shared state. -/
structure Vigil where
  shutdown : Shutdown
  units : List UnitStage
  waiters : List Waiter

/-- What happens: a unit begins, is taken out of the count, or has come to its end, calling those
who wait if it was the last; someone begins to wait, or makes a step. Units and waits are numbered.
-/
inductive VigilMove where
  | begin
  | leave (unit : Nat)
  | finish (unit : Nat)
  | join
  | step (waiter : Nat)

namespace Vigil

/-- Nobody works and nobody waits. -/
def start : Vigil := ⟨.initial, [], []⟩

/-- Takes a unit out of the count. -/
def leave (v : Vigil) (i : Nat) : Vigil where
  shutdown := v.shutdown.leaveUnit.2
  units := v.units.set i (.leaving v.shutdown.leaveUnit.1)
  waiters := v.waiters

/-- Calls those who wait, if the unit was the last. -/
def finish (v : Vigil) (i : Nat) (last : Bool) : Vigil where
  shutdown := if last then v.shutdown.callIdle else v.shutdown
  units := v.units.set i .gone
  waiters := v.waiters

/-- One move. A unit that is not at the stage in question does not move. -/
def move (v : Vigil) : VigilMove → Vigil
  | .begin => { v with shutdown := v.shutdown.enterUnit, units := v.units ++ [.running] }
  | .leave i =>
    match v.units[i]? with
    | some .running => v.leave i
    | _ => v
  | .finish i =>
    match v.units[i]? with
    | some (.leaving last) => v.finish i last
    | _ => v
  | .join => { v with waiters := v.waiters ++ [.standing .fresh] }
  | .step i => { v with waiters := v.waiters.modify i (Waiter.step v.shutdown) }

/-- What some moves lead to. -/
def after (moves : List VigilMove) : Vigil := moves.foldl move start

theorem after_concat (moves : List VigilMove) (m : VigilMove) :
    after (moves ++ [m]) = (after moves).move m := List.foldl_append

variable {v : Vigil} {i : Nat}

/-- The stage of a unit after a move, and before it. -/
theorem units_move {m : VigilMove} {stage : UnitStage} (now : (v.move m).units[i]? = some stage) :
    v.units[i]? = some stage ∨ m = .begin ∧ stage = .running ∨
      (m = .leave i ∧ v.units[i]? = some .running ∧ stage = .leaving v.shutdown.leaveUnit.1) ∨
      m = .finish i ∧ (∃ last, v.units[i]? = some (.leaving last)) ∧ stage = .gone := by
  cases m with
  | begin =>
      change (v.units ++ [UnitStage.running])[i]? = _ at now
      rw [List.getElem?_append] at now
      split at now
      · exact .inl now
      · exact .inr (.inl ⟨rfl, List.mem_singleton.mp (List.mem_of_getElem? now)⟩)
  | leave j =>
      rw [Vigil.move] at now
      split at now
      · next running =>
          change (v.units.set j _)[i]? = _ at now
          rw [List.getElem?_set] at now
          split at now
          · next same =>
              subst same
              rw [if_pos (List.getElem?_eq_some_iff.mp running).1] at now
              exact .inr (.inr (.inl ⟨rfl, running, (Option.some.inj now).symm⟩))
          · exact .inl now
      · exact .inl now
  | finish j =>
      rw [Vigil.move] at now
      split at now
      · next last leaving =>
          change (v.units.set j _)[i]? = _ at now
          rw [List.getElem?_set] at now
          split at now
          · next same =>
              subst same
              rw [if_pos (List.getElem?_eq_some_iff.mp leaving).1] at now
              exact .inr (.inr (.inr ⟨rfl, ⟨last, leaving⟩, (Option.some.inj now).symm⟩))
          · exact .inl now
      · exact .inl now
  | join | step j => exact .inl now

/-- A wait after a move, and before it. -/
theorem waiters_move {m : VigilMove} {w : Waiter} (now : (v.move m).waiters[i]? = some w) :
    v.waiters[i]? = some w ∨ m = .join ∧ w = .standing .fresh ∨
      m = .step i ∧ ∃ before, v.waiters[i]? = some before ∧ w = before.step v.shutdown := by
  cases m with
  | begin => exact .inl now
  | leave j | finish j =>
      rw [Vigil.move] at now
      split at now <;> exact .inl now
  | join =>
      change (v.waiters ++ [Waiter.standing .fresh])[i]? = _ at now
      rw [List.getElem?_append] at now
      split at now
      · exact .inl now
      · exact .inr (.inl ⟨rfl, List.mem_singleton.mp (List.mem_of_getElem? now)⟩)
  | step j =>
      change (v.waiters.modify j (Waiter.step v.shutdown))[i]? = _ at now
      rw [List.getElem?_modify] at now
      obtain ⟨before, there, rfl⟩ := Option.map_eq_some_iff.mp now
      split
      · next same =>
          subst same
          exact .inr (.inr ⟨rfl, before, there, rfl⟩)
      · exact .inl there

end Vigil

/-! ## What a wait relies on -/

namespace IdleWait

variable {s s' : Shutdown} {owed owed' : Prop} {w : IdleWait}

/-- Whether a wait has missed no call: if it is paused and was not called, there is a unit running
or a call that is owed. -/
def Heeds (s : Shutdown) (owed : Prop) : IdleWait → Prop
  | listening calls => calls ≤ s.calls
  | parked calls => calls ≤ s.calls ∧ (calls < s.calls ∨ 0 < s.units ∨ owed)
  | _ => True

/-- A waiter goes on heeding the shutdown when it takes a step. -/
theorem Heeds.step (heeds : w.Heeds s owed) : (w.step s).Heeds s owed := by
  cases w with
  | fresh => exact Nat.le_refl s.calls
  | listening calls =>
      rw [IdleWait.step]
      split
      · trivial
      · next busy => exact ⟨heeds, .inr (.inl (Nat.pos_of_ne_zero busy))⟩
  | parked calls =>
      rw [IdleWait.step]
      split
      · trivial
      · exact heeds
  | finished => trivial

/-- A wait has missed no call by what others do, as long as what it relies on is replaced. -/
theorem Heeds.around (heeds : w.Heeds s owed) (calls : s.calls ≤ s'.calls)
    (relies : 0 < s.units ∨ owed → s.calls < s'.calls ∨ 0 < s'.units ∨ owed') :
    w.Heeds s' owed' := by
  cases w with
  | fresh | finished => trivial
  | listening noted => exact Nat.le_trans heeds calls
  | parked noted =>
      refine ⟨Nat.le_trans heeds.1 calls, ?_⟩
      rcases heeds.2 with called | rest
      · exact .inl (Nat.lt_of_lt_of_le called calls)
      · exact (relies rest).imp_left (Nat.lt_of_le_of_lt heeds.1)

end IdleWait

namespace Waiter

/-- With no unit running and no call owed, three steps bring a wait to its end. -/
theorem finished_of_idle {s : Shutdown} {w : Waiter} {owed : Prop} (idle : s.units = 0)
    (unowed : ¬ owed) (heeds : w.wait.Heeds s owed) :
    ((w.step s).step s).step s = standing .finished := by
  have reads (calls : Nat) : (standing (.listening calls)).step s = standing .finished := by
    simp [Waiter.step, Waiter.wait, IdleWait.step, idle]
  have ending : (standing .finished).step s = standing .finished := rfl
  have called {calls : Nat} (paused : (IdleWait.parked calls).Heeds s owed) : calls < s.calls :=
    paused.2.resolve_right fun relies => relies.elim (by omega) unowed
  rcases w with wait | calls
  · cases wait with
    | fresh => exact (congrArg (step s) (reads s.calls)).trans ending
    | listening calls => rw [reads, ending, ending]
    | parked calls =>
        have wakes : (standing (.parked calls)).step s = standing .fresh := by
          simp [Waiter.step, Waiter.wait, IdleWait.step, called heeds]
        rw [wakes]
        exact reads s.calls
    | finished => rfl
  · have wakes : (pausing calls).step s = standing .fresh := by
      simp [Waiter.step, Waiter.wait, IdleWait.step, called heeds]
    rw [wakes]
    exact reads s.calls

end Waiter

namespace Vigil

variable {v : Vigil} {i : Nat}

/-- Whether a unit that was the last is about to call those who wait. -/
def Owes (v : Vigil) : Prop := .leaving true ∈ v.units

/-- What holds at every moment. -/
structure Sound (v : Vigil) : Prop where
  counted : v.shutdown.units = v.units.count .running
  heeded : ∀ w ∈ v.waiters, w.wait.Heeds v.shutdown v.Owes

theorem sound_start : start.Sound := ⟨rfl, nofun⟩

/-- What is counted when a unit goes from one stage to another. -/
theorem count_set {stages : List UnitStage} {stage new : UnitStage}
    (there : stages[i]? = some stage) :
    (stages.set i new).count .running + [stage].count .running =
      stages.count .running + [new].count .running := by
  obtain ⟨inside, rfl⟩ := List.getElem?_eq_some_iff.mp there
  have listed : [stages[i]].count .running ≤ stages.count .running :=
    List.Sublist.count_le _ (List.singleton_sublist.mpr (List.getElem_mem inside))
  rw [List.count_singleton] at listed
  rw [List.count_set inside, List.count_singleton, List.count_singleton]
  omega

/-- A unit that is at another stage is not affected when one moves on. -/
theorem mem_set_of_ne {stages : List UnitStage} {stage new other : UnitStage}
    (there : stages[i]? = some stage) (different : other ≠ stage) (listed : other ∈ stages) :
    other ∈ stages.set i new := by
  obtain ⟨j, at_⟩ := List.mem_iff_getElem?.mp listed
  have apart : i ≠ j := by
    rintro rfl
    exact different (Option.some.inj (at_.symm.trans there))
  exact List.mem_of_getElem? ((List.getElem?_set_ne apart).trans at_)

/-- When a unit gives up its place, what is known of the vigil stays true. -/
theorem Sound.leave (sound : v.Sound) (running : v.units[i]? = some .running) :
    (v.leave i).Sound := by
  have inside := (List.getElem?_eq_some_iff.mp running).1
  have counted : (v.units.set i (.leaving v.shutdown.leaveUnit.1)).count .running + 1 =
      v.units.count .running := count_set running
  refine ⟨?_, fun w among => (sound.heeded w among).around (Nat.le_refl _) fun _ => .inr ?_⟩
  · change v.shutdown.units - 1 = _
    rw [sound.counted]
    exact (Nat.eq_sub_of_add_eq counted).symm
  · by_cases last : v.shutdown.units ≤ 1
    · right
      have told : v.shutdown.leaveUnit.1 = true := decide_eq_true last
      unfold Vigil.Owes Vigil.leave
      rw [told]
      exact List.mem_set inside _
    · left
      change 0 < v.shutdown.units - 1
      omega

/-- When a unit wakes the waiters, or need not, what is known of the vigil stays true. -/
theorem Sound.finish (sound : v.Sound) {last : Bool}
    (leaving : v.units[i]? = some (.leaving last)) : (v.finish i last).Sound := by
  have counted : (v.units.set i .gone).count .running = v.units.count .running := count_set leaving
  cases last with
  | true =>
      exact ⟨sound.counted.trans counted.symm, fun w among =>
        (sound.heeded w among).around (Nat.le_succ _) fun _ => .inl (Nat.lt_succ_self _)⟩
  | false =>
      refine ⟨sound.counted.trans counted.symm, fun w among =>
        (sound.heeded w among).around (Nat.le_refl _) fun relies => .inr ?_⟩
      exact relies.imp_right (mem_set_of_ne leaving nofun)

/-- Whatever happens, what is known of the vigil stays true. -/
theorem Sound.move (sound : v.Sound) (m : VigilMove) : (v.move m).Sound := by
  cases m with
  | begin =>
      refine ⟨?_, fun w among => (sound.heeded w among).around (Nat.le_refl _) fun _ => ?_⟩
      · change v.shutdown.units + 1 = (v.units ++ [UnitStage.running]).count .running
        rw [sound.counted, List.count_append]
        rfl
      · exact .inr (.inl (Nat.succ_pos _))
  | leave i =>
      rw [Vigil.move]
      split
      · next running => exact sound.leave running
      · exact sound
  | finish i =>
      rw [Vigil.move]
      split
      · next leaving => exact sound.finish leaving
      · exact sound
  | join =>
      refine ⟨sound.counted, fun w among => ?_⟩
      rcases List.mem_append.mp among with before | fresh
      · exact sound.heeded w before
      · rw [List.mem_singleton.mp fresh]
        trivial
  | step i =>
      refine ⟨sound.counted, fun w among => ?_⟩
      obtain ⟨j, now⟩ := List.mem_iff_getElem?.mp among
      rcases waiters_move now with before | ⟨same, _⟩ | ⟨_, before, there, rfl⟩
      · exact sound.heeded w (List.mem_of_getElem? before)
      · cases same
      · rw [Waiter.wait_step]
        exact (sound.heeded before (List.mem_of_getElem? there)).step

/-- What holds at every moment holds after any moves. -/
theorem sound_after (moves : List VigilMove) : (after moves).Sound := by
  induction moves using List.reverseRecOn with
  | nil => exact sound_start
  | append_singleton moves m ih =>
      rw [after_concat]
      exact ih.move m

/-! ## How it came to be -/

/-- What does not hold at the beginning came to hold by some move. -/
theorem exists_turn {P : Vigil → Prop} {moves : List VigilMove} (first : ¬ P start)
    (now : P (after moves)) : ∃ earlier m later, moves = earlier ++ m :: later ∧
      ¬ P (after earlier) ∧ P ((after earlier).move m) := by
  induction moves using List.reverseRecOn with
  | nil => exact (first now).elim
  | append_singleton moves m ih =>
      by_cases before : P (after moves)
      · obtain ⟨earlier, m', later, rfl, turn⟩ := ih before
        exact ⟨earlier, m', later ++ [m], List.append_assoc .., turn⟩
      · rw [after_concat] at now
        exact ⟨moves, m, [], rfl, before, now⟩

/-- A waiter finishes only by its own step, while no unit is begun. -/
theorem idle_of_finished {m : VigilMove} (before : v.waiters[i]? ≠ some (.standing .finished))
    (now : (v.move m).waiters[i]? = some (.standing .finished)) :
    m = .step i ∧ (∃ calls, v.waiters[i]? = some (.standing (.listening calls))) ∧
      v.shutdown.units = 0 := by
  rcases waiters_move now with same | ⟨_, fresh⟩ | ⟨rfl, w, there, ending⟩
  · exact (before same).elim
  · cases fresh
  · rcases Waiter.idle_of_step ending.symm with rfl | ⟨⟨calls, rfl⟩, idle⟩
    · exact (before there).elim
    · exact ⟨rfl, ⟨calls, there⟩, idle⟩

/-- A unit comes to owe a call by taking the count from one to zero. -/
theorem last_of_leaving {m : VigilMove} (before : v.units[i]? ≠ some (.leaving true))
    (now : (v.move m).units[i]? = some (.leaving true)) :
    m = .leave i ∧ v.units[i]? = some .running ∧ v.shutdown.units ≤ 1 := by
  rcases units_move now with same | ⟨_, running⟩ | ⟨rfl, running, last⟩ | ⟨_, _, gone⟩
  · exact (before same).elim
  · cases running
  · exact ⟨rfl, running, of_decide_eq_true (UnitStage.leaving.inj last).symm⟩
  · cases gone

/-! ## No call is missed -/

/-- Whatever units and waits do, the count is that of the running units; a wait that is over has
read a count of zero; and if a wait is paused, or about to pause, and was not called since it took
note of the calls, then a unit is running, or a unit that took the count from one to zero is still
about to call. -/
theorem no_call_missed (moves : List VigilMove) :
    (after moves).shutdown.units = (after moves).units.count .running ∧
      (∀ i, (after moves).waiters[i]? = some (.standing .finished) →
        ∃ earlier later, moves = earlier ++ .step i :: later ∧
          (∃ calls, (after earlier).waiters[i]? = some (.standing (.listening calls))) ∧
          (after earlier).shutdown.units = 0) ∧
      (∀ (i : Nat) w calls, (after moves).waiters[i]? = some w → w.wait = .parked calls →
        ¬ calls < (after moves).shutdown.calls →
        0 < (after moves).shutdown.units ∨ ∃ j : Nat,
          (after moves).units[j]? = some (.leaving true) ∧
          ∃ earlier later, moves = earlier ++ .leave j :: later ∧
            (after earlier).shutdown.units = 1 ∧
            (after (earlier ++ [.leave j])).shutdown.units = 0) := by
  have sound := sound_after moves
  refine ⟨sound.counted, fun i ending => ?_, fun i w calls there paused uncalled => ?_⟩
  · obtain ⟨earlier, m, later, cut, before, now⟩ :=
      exists_turn (P := fun v => v.waiters[i]? = some (.standing .finished)) nofun ending
    obtain ⟨rfl, listening, idle⟩ := idle_of_finished before now
    exact ⟨earlier, later, cut, listening, idle⟩
  · have heeded := sound.heeded w (List.mem_of_getElem? there)
    rw [paused] at heeded
    rcases heeded.2.resolve_left uncalled with running | owes
    · exact .inl running
    · obtain ⟨j, owed⟩ := List.mem_iff_getElem?.mp owes
      obtain ⟨earlier, m, later, cut, before, now⟩ :=
        exists_turn (P := fun v => v.units[j]? = some (.leaving true)) nofun owed
      obtain ⟨rfl, running, few⟩ := last_of_leaving before now
      have counted := (sound_after earlier).counted
      have some : 0 < (after earlier).units.count .running :=
        List.count_pos_iff.mpr (List.mem_of_getElem? running)
      have one : (after earlier).shutdown.units = 1 := by omega
      refine .inr ⟨j, owed, earlier, later, cut, one, ?_⟩
      have left : (after earlier).move (.leave j) = (after earlier).leave j := by
        rw [Vigil.move, running]
      rw [after_concat, left]
      change (after earlier).shutdown.units - 1 = 0
      rw [one]

/-- The last unit goes between a wait's reading of the count and its pause: it still owes a call. -/
example :
    let v := after [.begin, .join, .step 0, .step 0, .leave 0]
    v.shutdown.units = 0 ∧ v.waiters = [.pausing 0] ∧ v.units = [.leaving true] := by decide

/-! ## Every wait ends -/

/-- A step of a waiter is made against the shutdown. -/
theorem waiters_step {w : Waiter} (there : v.waiters[i]? = some w) :
    (v.move (.step i)).waiters[i]? = some (w.step v.shutdown) := by
  change (v.waiters.modify i (Waiter.step v.shutdown))[i]? = _
  rw [List.getElem?_modify_eq, there]
  rfl

/-- Once no unit is running and none is about to call, three steps of its own bring a wait to its
end. -/
theorem ends {moves : List VigilMove} {w : Waiter} (idle : .running ∉ (after moves).units)
    (called : .leaving true ∉ (after moves).units) (there : (after moves).waiters[i]? = some w) :
    (after (moves ++ .replicate 3 (.step i))).waiters[i]? = some (.standing .finished) := by
  have sound := sound_after moves
  have none : (after moves).shutdown.units = 0 :=
    sound.counted.trans (List.count_eq_zero.mpr idle)
  have heeds := sound.heeded w (List.mem_of_getElem? there)
  have moved : after (moves ++ .replicate 3 (.step i)) =
      (((after moves).move (.step i)).move (.step i)).move (.step i) := List.foldl_append
  rw [moved, waiters_step (waiters_step (waiters_step there))]
  exact congrArg some (Waiter.finished_of_idle none called heeds)

end Vigil

end AlertRelay
