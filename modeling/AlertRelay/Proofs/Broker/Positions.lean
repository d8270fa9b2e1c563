import AlertRelay.Proofs.Broker.Growth

/-!
# Where a subscription reads

A scan serves the record at the position of a partition and goes one further in that partition and
in no other (`Subscription.scan_cases`), and so does a poll. A seek and a new assignment set
positions; whoever joins a group reads from where the group has committed.
-/

namespace AlertRelay

namespace Subscription

/-- The positions that are noted for a partition. -/
def positionsOf (s : Subscription) (tp : TopicPartition) : List Int :=
  (s.positions.filter fun entry => entry.1 = tp).map Prod.snd

variable {s : Subscription} {tp other : TopicPartition} {offset : Int} {l : Log}

/-- The positions noted for a partition are those of its entries. -/
theorem mem_positionsOf : offset ∈ s.positionsOf tp ↔ (tp, offset) ∈ s.positions := by
  unfold Subscription.positionsOf
  simp only [List.mem_map, List.mem_filter, decide_eq_true_eq, Prod.exists, exists_eq_right]

/-- After its position is set, a partition has this position only. -/
theorem positionsOf_setPosition_self {position : Int}
    (there : position ∈ (s.setPosition tp offset).positionsOf tp) : position = offset := by
  obtain ⟨entry, _, same⟩ := List.mem_map.mp (mem_positionsOf.mp there)
  split at same
  · cases same
    rfl
  · next different =>
    cases same
    exact (different rfl).elim

/-- To set the position of one partition leaves the others alone. -/
theorem positionsOf_setPosition_other (different : other ≠ tp) :
    (s.setPosition tp offset).positionsOf other = s.positionsOf other := by
  unfold Subscription.positionsOf Subscription.setPosition
  induction s.positions with
  | nil => rfl
  | cons entry rest ih =>
      rw [List.map_cons]
      by_cases here : entry.1 = tp
      · have elsewhere : ¬entry.1 = other := fun same => different (same.symm.trans here)
        rw [if_pos here, List.filter_cons_of_neg (by simpa using elsewhere),
          List.filter_cons_of_neg (by simpa using elsewhere)]
        exact ih
      · rw [if_neg here, List.filter_cons, List.filter_cons]
        split
        · rw [List.map_cons, List.map_cons, ih]
        · exact ih

/-! ## Scans -/

/-- What a subscription is after it has served a record. -/
structure Serves (tp : TopicPartition) (offset : Int) (s later : Subscription) : Prop where
  there : (tp, offset) ∈ s.positions
  moved : ∀ q ∈ later.positionsOf tp, q = offset + 1
  kept : ∀ other, other ≠ tp → later.positionsOf other = s.positionsOf other
  group : later.group = s.group
  generation : later.generation = s.generation

/-- Who serves a record goes one further in its partition, and stays in the others. -/
theorem serves_setPosition (there : (tp, offset) ∈ s.positions) (cursor : Nat) :
    s.Serves tp offset ({ s with cursor := cursor }.setPosition tp (offset + 1)) where
  there := there
  moved _ := positionsOf_setPosition_self
  kept _ different := (positionsOf_setPosition_other different).trans rfl
  group := rfl
  generation := rfl

/-- To serve some partitions moves nothing, or it gives a record at the position of one of them and
goes one further there. -/
theorem serve_cases (s : Subscription) (l : Log) (entries : List (TopicPartition × Int)) :
    s.serve l entries = (none, s) ∨ ∃ entry ∈ entries, ∃ r, l.record? entry.1 entry.2 = some r ∧
      s.serve l entries = (some r, s.setPosition entry.1 (entry.2 + 1)) := by
  induction entries with
  | nil => exact .inl rfl
  | cons entry rest ih =>
      rw [Subscription.serve]
      cases available : s.available? l entry with
      | some r =>
          refine .inr ⟨entry, List.mem_cons_self, r, ?_, rfl⟩
          unfold Subscription.available? at available
          split at available
          · cases available
          · exact available
      | none =>
          rcases ih with none | ⟨found, there, r, at_, served⟩
          · exact .inl none
          · exact .inr ⟨found, List.mem_cons_of_mem entry there, r, at_, served⟩

/-- A scan goes over assigned partitions only. -/
theorem turnOrder_subset : s.turnOrder ⊆ s.positions := by
  intro entry there
  rcases List.mem_append.mp there with late | early
  · exact List.mem_of_mem_drop late
  · exact List.mem_of_mem_take early

/-- A scan that has no partition finds nothing; any other one serves what the partitions have to
offer, and moves the turn on. -/
theorem scan_eq_serve (s : Subscription) (l : Log) :
    s.scan l = (none, s) ∨
      ∃ cursor, s.scan l = { s with cursor := cursor }.serve l s.turnOrder := by
  unfold Subscription.scan
  by_cases none : s.positions.isEmpty = true
  · rw [if_pos none]
    exact .inl rfl
  · rw [if_neg none]
    exact .inr ⟨_, rfl⟩

/-- A scan that serves a record goes on behind it; any other scan changes no position. -/
theorem scan_cases (s : Subscription) (l : Log) :
    (∃ cursor, s.scan l = (none, { s with cursor := cursor })) ∨
      ∃ tp offset r later, s.Serves tp offset later ∧ l.record? tp offset = some r ∧
        s.scan l = (some r, later) := by
  rcases s.scan_eq_serve l with nothing | ⟨cursor, serves⟩
  · exact .inl ⟨s.cursor, nothing⟩
  · rw [serves]
    rcases serve_cases { s with cursor := cursor } l s.turnOrder
      with served | ⟨entry, there, r, at_, served⟩
    · rw [served]
      exact .inl ⟨cursor, rfl⟩
    · rw [served]
      exact .inr ⟨entry.1, entry.2, r, _, serves_setPosition (turnOrder_subset there) _, at_, rfl⟩

/-- A poll is a check whether the member has left, and a scan if it has not. -/
theorem poll_eq_scan (s : Subscription) (l : Log) :
    s.poll l = (.error .closed, s) ∨ s.poll l = (.ok (s.scan l).1, (s.scan l).2) := by
  unfold Subscription.poll
  split
  · exact .inl rfl
  · exact .inr rfl

/-- A poll that serves a record goes on behind it; any other poll changes no position. -/
theorem poll_cases (s : Subscription) (l : Log) :
    ((∀ r, (s.poll l).1 ≠ .ok (some r)) ∧ ∃ cursor, (s.poll l).2 = { s with cursor := cursor }) ∨
      ∃ tp offset r later, s.Serves tp offset later ∧ l.record? tp offset = some r ∧
        s.poll l = (.ok (some r), later) := by
  rcases s.poll_eq_scan l with refused | scans
  · rw [refused]
    exact .inl ⟨nofun, s.cursor, rfl⟩
  · rw [scans]
    rcases s.scan_cases l with ⟨cursor, nothing⟩ | ⟨tp, offset, r, later, serves, at_, served⟩
    · rw [nothing]
      exact .inl ⟨nofun, cursor, rfl⟩
    · rw [served]
      exact .inr ⟨tp, offset, r, later, serves, at_, rfl⟩

/-! ## Assignments -/

/-- A new assignment reads a partition from where the group has committed. -/
theorem positionsOf_resetPositions {position : Int}
    (there : position ∈ (s.resetPositions l).positionsOf tp) :
    position = startOffset l s.group tp := by
  obtain ⟨entry, _, same⟩ := List.mem_map.mp (mem_positionsOf.mp there)
  cases same
  rfl

/-- An entry of an assignment is the one that was put in or was there before. -/
theorem mem_insertPosition {entry : TopicPartition × Int} {entries : List (TopicPartition × Int)}
    (there : entry ∈ insertPosition tp offset entries) :
    entry = (tp, offset) ∨ entry ∈ entries := by
  induction entries with
  | nil => exact .inl (List.mem_singleton.mp there)
  | cons first rest ih =>
      rw [insertPosition] at there
      split at there
      · exact (List.mem_cons.mp there).imp_right (List.mem_cons_of_mem first)
      · split at there
        · exact List.mem_cons.mp there
        · rcases List.mem_cons.mp there with same | later
          · exact .inr (same ▸ List.mem_cons_self)
          · exact (ih later).imp_right (List.mem_cons_of_mem first)

/-- Whether all positions are where the group has committed. -/
def Aligned (l : Log) (group : String) (positions : List (TopicPartition × Int)) : Prop :=
  ∀ entry ∈ positions, entry.2 = startOffset l group entry.1

/-- The partitions of a topic are assigned where the group has committed. -/
theorem aligned_assignTopic {group topic : String} {positions : List (TopicPartition × Int)}
    (aligned : Aligned l group positions) :
    Aligned l group (assignTopic l group topic positions) := by
  refine List.foldlRecOn (motive := Aligned l group) _ _ aligned fun before kept index _ => ?_
  intro entry there
  rcases mem_insertPosition there with rfl | before
  · rfl
  · exact kept entry before

/-- Whoever joins reads a partition from where the group has committed. -/
theorem positionsOf_join {group : String} {topics : List String} {position : Int}
    (there : position ∈ (join l group topics).1.positionsOf tp) :
    position = startOffset (join l group topics).2 group tp := by
  have aligned : Aligned (join l group topics).2 group (join l group topics).1.positions :=
    List.foldlRecOn (motive := Aligned (join l group topics).2 group) topics _
      (fun _ there => by cases there) fun _ kept _ _ => aligned_assignTopic kept
  exact aligned _ (mem_positionsOf.mp there)

/-- Whether all positions are in partitions of some topics. -/
def Within (topics : List String) (positions : List (TopicPartition × Int)) : Prop :=
  ∀ entry ∈ positions, entry.1.topic ∈ topics

/-- To assign a topic of some assigns no partition of any other. -/
theorem within_assignTopic {group topic : String} {topics : List String}
    {positions : List (TopicPartition × Int)} (within : Within topics positions)
    (listed : topic ∈ topics) : Within topics (assignTopic l group topic positions) := by
  refine List.foldlRecOn (motive := Within topics) _ _ within fun before kept index _ => ?_
  intro entry there
  rcases mem_insertPosition there with rfl | before
  · exact listed
  · exact kept entry before

/-- Whoever joins a group on topics is assigned partitions of these topics. -/
theorem within_join (l : Log) (group : String) (topics : List String) :
    Within topics (join l group topics).1.positions :=
  List.foldlRecOn (motive := Within topics) topics _ (fun _ there => by cases there)
    fun _ kept _ listed => within_assignTopic kept listed

end Subscription

end AlertRelay
