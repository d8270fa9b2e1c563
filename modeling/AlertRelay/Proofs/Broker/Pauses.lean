import AlertRelay.Proofs.Broker.Positions

/-!
# What a subscription pauses

A subscription whose partitions are all paused brings no record (`Subscription.poll_of_paused`).
Polls and seeks leave the pauses as they are; a new assignment drops them all.
-/

namespace AlertRelay

namespace Subscription

variable {s later : Subscription} {l : Log}

/-- Whether two subscriptions have the same partitions, and the same ones paused. -/
structure Steady (before after : Subscription) : Prop where
  assignment : after.assignment = before.assignment
  paused : after.paused = before.paused

/-- Whether all assigned partitions are paused, or none of them is. -/
def Stands (s : Subscription) (paused : Bool) : Prop := ∀ tp ∈ s.assignment, s.isPaused tp = paused

theorem Steady.refl (s : Subscription) : s.Steady s := ⟨rfl, rfl⟩

/-- What is paused stays paused, or free, from one subscription to a steady one. -/
theorem Steady.stands {paused : Bool} (steady : s.Steady later) (stands : s.Stands paused) :
    later.Stands paused := by
  intro tp assigned
  rw [steady.assignment] at assigned
  rw [Subscription.isPaused, steady.paused]
  exact stands tp assigned

/-- To set a position leaves the pauses as they are. -/
theorem steady_setPosition (s : Subscription) (tp : TopicPartition) (offset : Int) :
    s.Steady (s.setPosition tp offset) := by
  refine ⟨?_, rfl⟩
  unfold Subscription.assignment Subscription.setPosition
  rw [List.map_map]
  refine List.map_congr_left fun entry _ => ?_
  dsimp only [Function.comp_apply]
  split <;> rfl

/-- A seek leaves the pauses as they are. -/
theorem steady_seek (s : Subscription) (l : Log) (tp : TopicPartition) (offset : Int) :
    s.Steady (s.seek l tp offset).2.1 := by
  unfold Subscription.seek
  split
  · exact s.steady_setPosition tp offset
  · exact .refl s

/-- A scan leaves the pauses as they are. -/
theorem steady_scan (s : Subscription) (l : Log) : s.Steady (s.scan l).2 := by
  rcases s.scan_eq_serve l with same | ⟨cursor, same⟩
  · rw [same]
    exact .refl s
  · rw [same]
    rcases serve_cases { s with cursor := cursor } l s.turnOrder
      with served | ⟨entry, _, r, _, served⟩
    · rw [served]
      exact ⟨rfl, rfl⟩
    · rw [served]
      exact ⟨(s.steady_setPosition entry.1 (entry.2 + 1)).assignment, rfl⟩

/-- A poll leaves the pauses as they are. -/
theorem steady_poll (s : Subscription) (l : Log) : s.Steady (s.poll l).2 := by
  rcases s.poll_eq_scan l with refused | scans
  · rw [refused]
    exact .refl s
  · rw [scans]
    exact s.steady_scan l

/-- Nothing is served from partitions that are paused. -/
theorem serve_eq_of_paused {entries : List (TopicPartition × Int)}
    (paused : ∀ entry ∈ entries, s.isPaused entry.1 = true) : s.serve l entries = (none, s) := by
  induction entries with
  | nil => rfl
  | cons entry rest ih =>
      obtain ⟨here, elsewhere⟩ := List.forall_mem_cons.mp paused
      rw [Subscription.serve, Subscription.available?, if_pos here]
      exact ih elsewhere

/-- A subscription whose partitions are all paused brings no record. -/
theorem poll_of_paused (stands : s.Stands true) (r : Record) : (s.poll l).1 ≠ .ok (some r) := by
  have paused : ∀ entry ∈ s.turnOrder, s.isPaused entry.1 = true := fun entry there =>
    stands entry.1 (List.mem_map_of_mem (turnOrder_subset there))
  have nothing : (s.scan l).1 = none := by
    rcases s.scan_eq_serve l with same | ⟨cursor, same⟩
    · rw [same]
    · have served : { s with cursor := cursor }.serve l s.turnOrder =
          (none, { s with cursor := cursor }) := serve_eq_of_paused paused
      rw [same, served]
  rcases s.poll_eq_scan l with refused | scans
  · rw [refused]
    exact nofun
  · rw [scans, nothing]
    exact nofun

/-- A member that pauses its assignment has all of it paused. -/
theorem stands_pause (s : Subscription) : (s.pause s.assignment).Stands true := by
  intro tp assigned
  exact List.contains_iff_mem.mpr (List.mem_append_right _ assigned)

/-- A member that resumes its assignment has none of it paused. -/
theorem stands_resume (s : Subscription) (l : Log) : (s.resume l s.assignment).1.Stands false := by
  intro tp assigned
  have kept : tp ∈ s.assignment := assigned
  simp only [Subscription.isPaused, Subscription.resume, List.contains_eq_mem, List.mem_filter,
    kept, decide_true, Bool.not_true, Bool.false_eq_true, and_false, decide_false]

/-- A new assignment has the partitions of the old one. -/
theorem assignment_resetPositions (s : Subscription) (l : Log) :
    (s.resetPositions l).assignment = s.assignment := by
  unfold Subscription.assignment Subscription.resetPositions
  rw [List.map_map]
  rfl

theorem stands_of_unpaused (none : s.paused = []) : s.Stands false := by
  intro tp _
  rw [Subscription.isPaused, none]
  rfl

end Subscription

end AlertRelay
