import AlertRelay.Proofs.Delivery.Chronicle

/-!
# Commits without gaps

A consumer group goes through every partition offset by offset. Workers and loop may take turns in
any order, calls may fail, producers may lose their identifiers, partitions may be assigned anew,
and the consumer may be started again at any time: each commit is the successor of the one before
(`Deployment.commits_gapless`).

A poll and the question which assignment its record belongs to have to be one step, and this step
must not fall between the two halves of a new assignment. Otherwise a record of the old assignment
counts as one of the new assignment, and is not dropped when its predecessor is to be delivered
again.
-/

namespace AlertRelay

namespace Deployment

instance decidableOrderly : (d : Deployment) → (happenings : List Happening) →
    Decidable (d.Orderly happenings)
  | _, [] => .isTrue trivial
  | d, happening :: rest =>
    @instDecidableAnd _ _ (inferInstanceAs (Decidable (_ = true)))
      (decidableOrderly (d.step happening) rest)

/-- From whatever log a consumer begins, and whatever happens to it in order, the offsets that
become committed for a group in a partition are those that follow the committed one, each of them
once. -/
theorem commits_gapless (w : World) (history : List Entry) (config : ConsumerConfig) (workers : Nat)
    (happenings : List Happening)
    (order : (start config workers (w.founded history) []).Orderly happenings) (group : String)
    (tp : TopicPartition) :
    ∃ count,
      ((start config workers (w.founded history) []).after happenings).log.offsetsOf group tp =
        (w.founded history).log.offsetsOf group tp ++ (List.range count).map fun i : Nat =>
          Subscription.startOffset (w.founded history).log group tp + 1 + i := by
  have begun : (start config workers (w.founded history) []).Chronicled True
      (w.founded history).log := chronicled_start config workers (w.founded_wellFormed history)
  have told := begun.after happenings fun _ => order
  obtain ⟨count, gapless⟩ := Entry.gapless_replay told.due group tp
  exact ⟨count, (told.log.offsetsOf group tp).trans gapless⟩

/-- A group that has committed the first of two records. The worker takes the second one while
partitions are assigned anew. It is committed once, although it is delivered twice. -/
theorem commits_gapless_rebalanced :
    let history := [Entry.published (.plain "events" none []) 0,
      .published (.plain "events" none []) 0,
      .posted 0 default default [] (.transaction .results ⟨[], [⟨"events", 0, 1, "group"⟩]⟩)]
    let config := { ConsumerConfig.standard with groupId := "group", topics := ["events"] }
    let w := (World.start [.new "results-0" "alerts-0" (fun _ => .error (.scoring "none"))
      fun _ _ _ => .error (.labeling "none" false)] fun _ => default).founded history
    let happenings := List.replicate 8 (.move .loop) ++ [.resetPositions, .move (.worker 0),
      .move (.worker 0), .bumpGeneration] ++ List.replicate 8 (.move .loop) ++
      List.replicate 40 (.move (.worker 0))
    let d := start config 1 w []
    d.Orderly happenings ∧ (d.after happenings).log.offsetsOf "group" ⟨"events", 0⟩ = [1, 2] ∧
      ∃ count, (d.after happenings).log.offsetsOf "group" ⟨"events", 0⟩ =
        w.log.offsetsOf "group" ⟨"events", 0⟩ ++ (List.range count).map fun i : Nat =>
          Subscription.startOffset w.log "group" ⟨"events", 0⟩ + 1 + i := by
  intro history config w happenings d
  have order : d.Orderly happenings := by decide +kernel
  have once : (d.after happenings).log.offsetsOf "group" ⟨"events", 0⟩ = [1, 2] := by decide +kernel
  exact ⟨order, once, commits_gapless _ history config 1 happenings order "group" ⟨"events", 0⟩⟩

end Deployment

end AlertRelay
