import AlertRelay.Ledger

/-!
# What a ledger admits

A commit is admitted if it lies behind everything that was committed for its group and partition
(`Ledger.check_eq_ok_iff`), and once it is noted it is the last one (`Ledger.last?_record_self`).
-/

namespace AlertRelay

namespace Ledger

/-- Whether a commit would move its partition forward. -/
def Admits (l : Ledger) (c : OffsetCommit) : Prop :=
  ∀ last, l.last? c.consumerGroup c.topicPartition = some last → last < c.offset

/-- The ledger accepts the commits that it admits. -/
theorem check_eq_ok_iff {l : Ledger} {c : OffsetCommit} : l.check c = .ok () ↔ l.Admits c := by
  unfold Ledger.check Ledger.Admits
  cases l.last? c.consumerGroup c.topicPartition with
  | none => simp only [reduceCtorEq, false_implies, implies_true]
  | some last =>
      simp only [Option.some.injEq, forall_eq']
      split
      · simp only [reduceCtorEq, false_iff]
        omega
      · simp only [true_iff]
        omega

/-- A commit is refused for its offset, and only if the ledger is at or behind it. -/
theorem check_error {l : Ledger} {c : OffsetCommit} {e : RelayError}
    (refused : l.check c = .error e) : (∃ detail, e = .offset detail) ∧
      ∃ last, l.last? c.consumerGroup c.topicPartition = some last ∧ c.offset ≤ last := by
  unfold Ledger.check at refused
  split at refused
  · next last known =>
    split at refused
    · next behind =>
      cases refused
      exact ⟨⟨_, rfl⟩, last, known, behind⟩
    · cases refused
  · cases refused

/-- A commit at or below the last one is refused. -/
theorem check_of_le {l : Ledger} {c : OffsetCommit} {last : Int}
    (known : l.last? c.consumerGroup c.topicPartition = some last) (behind : c.offset ≤ last) :
    l.check c = .error (regression c last) := by
  unfold Ledger.check
  rw [known]
  exact if_pos behind

/-- What is noted for other groups and partitions stays. -/
theorem last?_record_other {l : Ledger} {c : OffsetCommit} {group : String} {tp : TopicPartition}
    (other : ¬(c.consumerGroup = group ∧ c.topicPartition = tp)) :
    (l.record c).last? group tp = l.last? group tp := by
  have key : (c.consumerGroup, c.topicPartition) ≠ (group, tp) := by
    simpa only [ne_eq, Prod.mk.injEq] using other
  unfold Ledger.record Ledger.last?
  dsimp only
  split
  · split
    · rw [Table.get?_put, if_neg key]
    · rfl
  · rw [Table.get?_put, if_neg key]

/-- A commit that was admitted is the last one once it is noted. -/
theorem last?_record_self {l : Ledger} {c : OffsetCommit} (admitted : l.Admits c) :
    (l.record c).last? c.consumerGroup c.topicPartition = some c.offset := by
  unfold Ledger.record
  dsimp only
  split
  · next last known =>
    rw [if_pos (admitted last known)]
    unfold Ledger.last?
    rw [Table.get?_put, if_pos rfl]
  · unfold Ledger.last?
    rw [Table.get?_put, if_pos rfl]

end Ledger

end AlertRelay
