import AlertRelay.Proofs.Gate

/-!
# Turns of the gate

A gate that has paused resumes before it pauses again, whatever is counted in between. A call
changes the count by one at most, so to get from one mark to the other takes as many records as lie
between the two (`Gate.turns_alternate`).
-/

namespace AlertRelay

namespace Gate

variable {g : Gate} {high low : Nat} {calls between : List GateCall}

/-- What the evaluations among some calls answer. -/
def answers (g : Gate) : List GateCall → List GateTransition
  | [] => []
  | .enqueued :: rest => g.enqueued.answers rest
  | .completed :: rest => g.completed.answers rest
  | .evaluate :: rest => g.evaluate.1 :: g.evaluate.2.answers rest

/-- The answers by which the gate turns. -/
def turns (g : Gate) (calls : List GateCall) : List GateTransition :=
  (g.answers calls).filter (· ≠ .hold)

/-- What an evaluation answers that comes after some calls. -/
def answerAfter (g : Gate) (calls : List GateCall) : GateTransition := (g.after calls).evaluate.1

/-- So many turns, each the opposite of the one before: a gate that is open pauses first. -/
def alternation (paused : Bool) : Nat → List GateTransition
  | 0 => []
  | n + 1 => (if paused then .resume else .pause) :: alternation (!paused) n

/-! ## The order of the turns -/

/-- A look at which the gate turns is the first of its turns. -/
theorem turns_cons_of_turn (moves : g.evaluate.1 ≠ .hold) :
    g.turns (.evaluate :: calls) = g.evaluate.1 :: g.evaluate.2.turns calls :=
  List.filter_cons_of_pos (by simpa using moves)

/-- A look at which the gate holds is none of its turns. -/
theorem turns_cons_of_hold (holds : g.evaluate = (.hold, g)) :
    g.turns (.evaluate :: calls) = g.turns calls := by
  unfold Gate.turns
  rw [Gate.answers, holds]
  rfl

/-- A gate turns one way and the other, beginning with what it can do as it stands. -/
theorem exists_turns_eq (g : Gate) (calls : List GateCall) :
    ∃ n, g.turns calls = alternation g.paused n := by
  induction calls generalizing g with
  | nil => exact ⟨0, rfl⟩
  | cons call rest ih =>
      cases call with
      | enqueued => exact ih g.enqueued
      | completed => exact ih g.completed
      | evaluate =>
          obtain ⟨n, later⟩ := ih g.evaluate.2
          rcases g.evaluate_cases with ⟨same, opened⟩ | ⟨same, paused, _⟩ | ⟨same, _⟩
          · refine ⟨n + 1, ?_⟩
            rw [turns_cons_of_turn (by rw [same]; exact nofun), later, same, opened]
            rfl
          · refine ⟨n + 1, ?_⟩
            rw [turns_cons_of_turn (by rw [same]; exact nofun), later, same, paused]
            rfl
          · rw [same] at later
            exact ⟨n, (turns_cons_of_hold same).trans later⟩

/-! ## The marks -/

/-- A gate pauses when it is open and counts more than its high mark. -/
theorem evaluate_pause_iff : g.evaluate.1 = .pause ↔ g.paused = false ∧ g.high < g.inFlight := by
  obtain ⟨high, low, inFlight, paused⟩ := g
  unfold Gate.evaluate GateTransition.decide
  cases paused with
  | false => by_cases above : high < inFlight <;> simp [above]
  | true => by_cases below : inFlight < low <;> simp [below]

/-- A gate resumes when it is paused and counts less than its low mark. -/
theorem evaluate_resume_iff : g.evaluate.1 = .resume ↔ g.paused = true ∧ g.inFlight < g.low := by
  obtain ⟨high, low, inFlight, paused⟩ := g
  unfold Gate.evaluate GateTransition.decide
  cases paused with
  | false => by_cases above : high < inFlight <;> simp [above]
  | true => by_cases below : inFlight < low <;> simp [below]

/-- No call changes the high mark. -/
theorem after_high (g : Gate) (calls : List GateCall) : (g.after calls).high = g.high := by
  induction calls generalizing g with
  | nil => rfl
  | cons call rest ih =>
      refine (ih (g.call call)).trans ?_
      cases call with
      | enqueued | completed => rfl
      | evaluate => exact g.evaluate_counts.1

/-- With the marks apart, an evaluation leaves nothing to do for the next one. -/
theorem evaluate_again (ordered : g.low < g.high) : g.evaluate.2.evaluate.1 = .hold := by
  obtain ⟨high, low, inFlight, paused⟩ := g
  change low < high at ordered
  unfold Gate.evaluate GateTransition.decide
  cases paused with
  | false =>
      by_cases above : high < inFlight
      · have beyond : ¬ inFlight < low := by omega
        simp [above, beyond]
      · simp [above]
  | true =>
      by_cases below : inFlight < low
      · have under : ¬ high < inFlight := by omega
        simp [below, under]
      · simp [below]

/-! ## The count -/

/-- A call moves the count by one record at most: one more that is handed out, or one that is done
with. -/
theorem inFlight_call (g : Gate) (call : GateCall) :
    (g.call call).inFlight ≤ g.inFlight + [call].count .enqueued ∧
      g.inFlight ≤ (g.call call).inFlight + [call].count .completed := by
  cases call with
  | enqueued => exact ⟨Nat.le_refl _, Nat.le_succ _⟩
  | completed => exact ⟨Nat.sub_le _ 1, Nat.le_add_of_sub_le (Nat.le_refl _)⟩
  | evaluate =>
      rw [Gate.call, g.evaluate_counts.2.2]
      exact ⟨Nat.le_refl _, Nat.le_refl _⟩

/-- The count grows by the records that are handed out and shrinks by those that are done with. -/
theorem inFlight_after (g : Gate) (calls : List GateCall) :
    (g.after calls).inFlight ≤ g.inFlight + calls.count .enqueued ∧
      g.inFlight ≤ (g.after calls).inFlight + calls.count .completed := by
  induction calls generalizing g with
  | nil => exact ⟨Nat.le_refl _, Nat.le_refl _⟩
  | cons call rest ih =>
      have first := g.inFlight_call call
      have later := ih (g.call call)
      have counts (c : GateCall) : (call :: rest).count c = [call].count c + rest.count c := by
        rw [← List.count_append, List.singleton_append]
      change ((g.call call).after rest).inFlight ≤ _ ∧ _ ≤ ((g.call call).after rest).inFlight + _
      rw [counts, counts]
      omega

/-- The gate at one evaluation and at a later one, in terms of the calls between the two. -/
theorem after_evaluate (g : Gate) (before between : List GateCall) :
    g.after (before ++ .evaluate :: between) = (g.after before).evaluate.2.after between :=
  List.foldl_append

/-- From a count above the high mark to one below the low mark, as many records are done with as
the marks are apart, and two more. -/
theorem completed_between (ordered : g.low < g.high) (pauses : g.evaluate.1 = .pause)
    (resumes : (g.evaluate.2.answerAfter between) = .resume) :
    g.high - g.low + 2 ≤ between.count .completed := by
  have above := (evaluate_pause_iff.mp pauses).2
  have below := (evaluate_resume_iff.mp resumes).2
  have shrinks := (g.evaluate.2.inFlight_after between).2
  rw [after_low, g.evaluate_counts.2.1] at below
  rw [g.evaluate_counts.2.2] at shrinks
  omega

/-- From a count below the low mark to one above the high mark, as many records are handed out as
the marks are apart, and two more. -/
theorem enqueued_between (ordered : g.low < g.high) (resumes : g.evaluate.1 = .resume)
    (pauses : (g.evaluate.2.answerAfter between) = .pause) :
    g.high - g.low + 2 ≤ between.count .enqueued := by
  have below := (evaluate_resume_iff.mp resumes).2
  have above := (evaluate_pause_iff.mp pauses).2
  have grows := (g.evaluate.2.inFlight_after between).1
  rw [after_high, g.evaluate_counts.1] at above
  rw [g.evaluate_counts.2.2] at grows
  omega

/-! ## Whole histories -/

/-- Whatever calls are made on a new gate, it turns one way and the other, beginning with a pause.
At an evaluation after them, the count is above the high mark if it pauses and below the low mark if
it resumes; if an earlier evaluation turned the gate the other way, the calls between the two have
brought the count from one mark to the other; and one that follows another evaluation at once does
not turn the gate. The count is within the number of records handed out. -/
theorem turns_alternate (ordered : low < high) (calls : List GateCall) :
    (∃ n, (new high low).turns calls = alternation false n) ∧
      ((new high low).answerAfter calls = .pause → high < ((new high low).after calls).inFlight) ∧
      ((new high low).answerAfter calls = .resume → ((new high low).after calls).inFlight < low) ∧
      (∀ before between, calls = before ++ .evaluate :: between →
        ((new high low).answerAfter before = .pause → (new high low).answerAfter calls = .resume →
          high - low + 2 ≤ between.count .completed) ∧
        ((new high low).answerAfter before = .resume → (new high low).answerAfter calls = .pause →
          high - low + 2 ≤ between.count .enqueued) ∧
        (between = [] → (new high low).answerAfter calls = .hold)) ∧
      ((new high low).after calls).inFlight ≤ calls.count .enqueued := by
  have marks (calls : List GateCall) :
      ((new high low).after calls).high = high ∧ ((new high low).after calls).low = low :=
    ⟨after_high _ calls, after_low _ calls⟩
  have apart (calls : List GateCall) :
      ((new high low).after calls).low < ((new high low).after calls).high := by
    rw [(marks calls).1, (marks calls).2]
    exact ordered
  refine ⟨exists_turns_eq _ calls, fun pauses => ?_, fun resumes => ?_, ?_, ?_⟩
  · have above := (evaluate_pause_iff.mp pauses).2
    rwa [(marks calls).1] at above
  · have below := (evaluate_resume_iff.mp resumes).2
    rwa [(marks calls).2] at below
  · rintro before between rfl
    have later : (new high low).answerAfter (before ++ .evaluate :: between) =
        ((new high low).after before).evaluate.2.answerAfter between :=
      congrArg (fun g => g.evaluate.1) (after_evaluate _ before between)
    rw [later]
    refine ⟨fun pauses resumes => ?_, fun resumes pauses => ?_, ?_⟩
    · have done := completed_between (apart before) pauses resumes
      rwa [(marks before).1, (marks before).2] at done
    · have handed := enqueued_between (apart before) resumes pauses
      rwa [(marks before).1, (marks before).2] at handed
    · rintro rfl
      exact evaluate_again (apart before)
  · have grows := ((new high low).inFlight_after calls).1
    rwa [show (new high low).inFlight = 0 from rfl, Nat.zero_add] at grows

/-- A gate with marks three and one, through a pause and a resume to the next pause. -/
theorem turns_alternate_cycle :
    let handed := List.replicate 4 GateCall.enqueued
    let done := List.replicate 4 GateCall.completed
    let paused := handed ++ [.evaluate, .evaluate]
    let resumed := paused ++ done ++ [.evaluate]
    let calls := resumed ++ handed
    (new 3 1).turns (calls ++ [.evaluate]) = [.pause, .resume, .pause] ∧
      3 < ((new 3 1).after calls).inFlight ∧ ((new 3 1).after (paused ++ done)).inFlight < 1 ∧
      3 - 1 + 2 ≤ (GateCall.evaluate :: done).count .completed ∧
      3 - 1 + 2 ≤ handed.count .enqueued := by
  intro handed done paused resumed calls
  have closing := @turns_alternate 3 1 (by decide) calls
  have opening := @turns_alternate 3 1 (by decide) (paused ++ done)
  exact ⟨by decide, closing.2.1 (by decide), opening.2.2.1 (by decide),
    (opening.2.2.2.1 handed (.evaluate :: done) rfl).1 (by decide) (by decide),
    (closing.2.2.2.1 (paused ++ done) handed (by decide)).2.1 (by decide) (by decide)⟩

end Gate

end AlertRelay
