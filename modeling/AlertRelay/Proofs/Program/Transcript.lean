import AlertRelay.Proofs.Program.Discipline

/-!
# Transcripts

Surroundings can take down what they are asked and what they reply (`Surroundings.transcribed`). A
transcript says by itself which parts of a program were run, and where each of them began
(`Program.RanAt`); attempts that have succeeded contain a run of what was attempted that has
succeeded (`Program.ranIn_of_attemptPlain`).
-/

namespace AlertRelay

variable {I : Interface} {α β ω : Type}

/-- Surroundings that take down every call with its reply. -/
def Surroundings.transcribed (s : Surroundings I ω) :
    Surroundings I (ω × List (Exchange I)) where
  reply request w :=
    ((s.reply request w.1).1, (s.reply request w.1).2,
      w.2 ++ [⟨request, (s.reply request w.1).1⟩])
  wait nanos w := (s.wait nanos w.1, w.2)

namespace Program

/-- Whether a program was run from its beginning to its end at a place of a transcript, and ended
with a value. -/
def RanAt (p : Program I α) (a : α) (place : Nat) (transcript : List (Exchange I)) : Prop :=
  ∃ during, during <+: transcript.drop place ∧ p.Yields during a

/-- A sequence yields what its second part does, after the transcript of its first part. -/
theorem yields_bind {p : Program I α} {f : α → Program I β} {transcript : List (Exchange I)}
    {b : β} : (p >>= f).Yields transcript b ↔
      ∃ a first second, transcript = first ++ second ∧ p.Yields first a ∧
        (f a).Yields second b := by
  induction p generalizing transcript with
  | done a =>
      constructor
      · intro yields
        exact ⟨a, [], transcript, rfl, ⟨rfl, rfl⟩, yields⟩
      · rintro ⟨_, _, second, rfl, ⟨rfl, rfl⟩, yields⟩
        exact yields
  | call request next ih =>
      constructor
      · rintro ⟨reply, rest, rfl, yields⟩
        obtain ⟨a, first, second, rfl, before, after⟩ := (ih reply).mp yields
        exact ⟨a, ⟨request, reply⟩ :: first, second, rfl, ⟨reply, first, rfl, before⟩, after⟩
      · rintro ⟨a, _, second, rfl, ⟨reply, first, rfl, before⟩, after⟩
        exact ⟨reply, first ++ second, rfl, (ih reply).mpr ⟨a, first, second, rfl, before, after⟩⟩
  | pause nanos next ih => exact ih
  | crash =>
      constructor
      · exact fun never => never.elim
      · rintro ⟨_, _, _, _, never, _⟩
        exact never

/-- What comes after the first part of a sequence comes after its transcript. -/
theorem Yields.bind {p : Program I α} {f : α → Program I β} {before after : List (Exchange I)}
    {a : α} {b : β} (first : p.Yields before a) (second : (f a).Yields after b) :
    (p >>= f).Yields (before ++ after) b :=
  yields_bind.mpr ⟨a, before, after, rfl, first, second⟩

/-- What is taken down makes the program end as it has ended. -/
theorem run_transcribed (s : Surroundings I ω) (p : Program I α) (w : ω)
    (transcript : List (Exchange I)) {a : α} {after : ω × List (Exchange I)}
    (ran : p.run s.transcribed (w, transcript) = (some a, after)) :
    ∃ during, after.2 = transcript ++ during ∧ p.Yields during a := by
  induction p generalizing w transcript with
  | done b =>
      cases ran
      exact ⟨[], (List.append_nil _).symm, rfl, rfl⟩
  | call request next ih =>
      obtain ⟨during, same, yields⟩ := ih _ _ _ ran
      refine ⟨⟨request, (s.reply request w).1⟩ :: during, ?_, _, during, rfl, yields⟩
      rw [same, List.append_assoc, List.singleton_append]
  | pause nanos next ih => exact ih _ _ ran
  | crash => cases ran

/-- Attempts are over once the first has succeeded. -/
theorem Yields.attempt {ε κ : Type} {operation : κ → Program I (Except ε α × κ)}
    {blank achieved : κ} {transcript : List (Exchange I)} {a : α} (policy : RetryPolicy)
    (draw : Program I Float) (retryable : ε → Bool)
    (yields : (operation blank).Yields transcript (.ok a, achieved)) :
    (policy.attempt draw retryable operation blank).Yields transcript (⟨.ok a, 1⟩, achieved) := by
  unfold RetryPolicy.attempt
  rw [← List.append_nil transcript]
  cases policy.maxAttempts - 1 with
  | zero => exact yields.bind ⟨rfl, rfl⟩
  | succ spare => exact yields.bind ⟨rfl, rfl⟩

/-- Where the first attempt succeeds, its transcript is that of the attempts. -/
theorem Yields.attemptPlain {ε : Type} {operation : Program I (Except ε α)}
    {transcript : List (Exchange I)} {a : α} (policy : RetryPolicy) (draw : Program I Float)
    (retryable : ε → Bool) (yields : operation.Yields transcript (.ok a)) :
    (policy.attemptPlain draw retryable operation).Yields transcript ⟨.ok a, 1⟩ := by
  have once : (operation >>= fun outcome => return (outcome, ())).Yields transcript
      (.ok a, ()) := by
    rw [← List.append_nil transcript]
    exact yields.bind ⟨rfl, rfl⟩
  have attempts : (policy.attempt draw retryable (fun _ : Unit => operation >>= fun outcome =>
      return (outcome, ())) ()).Yields transcript (⟨.ok a, 1⟩, ()) :=
    Yields.attempt policy draw retryable once
  unfold RetryPolicy.attemptPlain
  rw [← List.append_nil transcript]
  exact attempts.bind ⟨rfl, rfl⟩

/-- Attempts that have succeeded contain an attempt that has. -/
theorem ranIn_of_attemptFrom {ε κ : Type} (policy : RetryPolicy) {draw : Program I Float}
    {retryable : ε → Bool} {operation : κ → Program I (Except ε α × κ)} (spare number : Nat)
    (achieved : κ) {transcript : List (Exchange I)} {made : Attempted ε α × κ} {a : α}
    (yields : (policy.attemptFrom draw retryable operation spare number achieved).Yields
      transcript made)
    (success : made.1.outcome = .ok a) :
    ∃ before after, (operation before).RanIn (.ok a, after) transcript := by
  induction spare generalizing number achieved transcript with
  | zero =>
      obtain ⟨⟨outcome, left⟩, first, second, rfl, ran, rfl, rfl⟩ := yields_bind.mp yields
      have same : outcome = .ok a := success
      subst same
      exact ⟨achieved, left, [], first, [], rfl, ran⟩
  | succ spare ih =>
      obtain ⟨⟨outcome, left⟩, first, second, rfl, ran, rest⟩ := yields_bind.mp yields
      cases outcome with
      | ok b =>
          obtain ⟨rfl, rfl⟩ := rest
          cases success
          exact ⟨achieved, left, [], first, [], rfl, ran⟩
      | error e =>
          simp only at rest
          split at rest
          · obtain ⟨share, drawn, later, rfl, _, again⟩ := yields_bind.mp rest
            obtain ⟨before, after, early, during, late, rfl, within⟩ :=
              ih (number + 1) left again
            refine ⟨before, after, first ++ drawn ++ early, during, late, ?_, within⟩
            simp only [List.append_assoc]
          · obtain ⟨rfl, rfl⟩ := rest
            cases success

/-- Attempts that succeed in the end contain one that does. -/
theorem ranIn_of_attemptPlain {ε : Type} (policy : RetryPolicy) {draw : Program I Float}
    {retryable : ε → Bool} {operation : Program I (Except ε α)} {transcript : List (Exchange I)}
    {made : Attempted ε α} {a : α}
    (yields : (policy.attemptPlain draw retryable operation).Yields transcript made)
    (success : made.outcome = .ok a) : operation.RanIn (.ok a) transcript := by
  obtain ⟨kept, first, second, rfl, attempts, rfl, rfl⟩ := yields_bind.mp yields
  obtain ⟨_, _, before, during, after, rfl, within⟩ :=
    ranIn_of_attemptFrom policy _ 1 () attempts success
  obtain ⟨outcome, ran, none, rfl, yields, rfl, same⟩ := yields_bind.mp within
  cases same
  refine ⟨before, ran, after, ?_, yields⟩
  simp only [List.append_nil]

end Program

/-- An exchange that occurs once at most occurs at one place. -/
theorem Exchange.place_unique {occurs : Exchange I → Bool} {transcript : List (Exchange I)}
    (once : transcript.countP occurs ≤ 1) {i j : Nat} {x y : Exchange I}
    (first : transcript[i]? = some x) (here : occurs x = true) (second : transcript[j]? = some y)
    (there : occurs y = true) : i = j := by
  induction transcript generalizing i j with
  | nil => cases first
  | cons z rest ih =>
      -- Where the head occurs, it is the only one, so nothing in the rest does.
      have alone : ∀ {k : Nat} {e : Exchange I}, occurs z = true → rest[k]? = some e →
          occurs e = true → False := by
        intro k e head found occurring
        rw [List.countP_cons_of_pos head] at once
        have none := List.countP_eq_zero.mp (Nat.le_zero.mp (Nat.le_of_succ_le_succ once))
        exact none e (List.mem_of_getElem? found) occurring
      cases i with
      | zero =>
          cases first
          cases j with
          | zero => rfl
          | succ j => exact (alone here second there).elim
      | succ i =>
          cases j with
          | zero =>
              cases second
              exact (alone there first here).elim
          | succ j =>
              have fewer : rest.countP occurs ≤ 1 :=
                Nat.le_trans (List.sublist_cons_self z rest).countP_le once
              exact congrArg Nat.succ (ih fewer first second)

end AlertRelay
