import AlertRelay.Config.Service
import AlertRelay.Proofs.Document.Records
import AlertRelay.Rehearsal.Attempts
import Mathlib.Order.Bounds.Basic

/-!
# How often an operation is attempted

An operation is called until a result ends the attempts: a success, an error that is not worth
another attempt, or any result once the policy allows no more (`RetryPolicy.Ends`). The first result
that does is the last one that is asked for, and between two calls one backoff is waited
(`RetryPolicy.attempts_until_end`). A policy that was decoded, by itself or with other settings,
allows a thousand attempts at most (`RetryPolicy.Decoded.limited`).
-/

namespace AlertRelay

/-- What happens while an operation is attempted. -/
inductive AttemptStep where
  /-- The operation is called. -/
  | call
  /-- So many nanoseconds are waited. -/
  | rest (nanos : Nat)
  deriving DecidableEq

namespace AttemptStep

variable {ε α : Type}

/-- How often the operation was called. -/
def calls (steps : List AttemptStep) : Nat := steps.count call

/-- Call number `n` of the operation gives `result n`, and `share n` is the random share of the
backoff after it. -/
def reply (result : Nat → Except ε α) (share : Nat → Float) : (request : AttemptCall) →
    List AttemptStep → (Interface.attempts ε α).Reply request × List AttemptStep
  | .operate, steps => (result (calls steps + 1), steps ++ [call])
  | .draw, steps => (share (calls steps), steps)

/-- Surroundings that take down what happens. -/
def surroundings (result : Nat → Except ε α) (share : Nat → Float) :
    Surroundings (Interface.attempts ε α) (List AttemptStep) :=
  ⟨reply result share, fun nanos steps => steps ++ [rest nanos]⟩

/-- The program that calls the operation. -/
def operate : Program (Interface.attempts ε α) (Except ε α) :=
  Program.call AttemptCall.operate Program.done

/-- The program that draws a random share. -/
def draw : Program (Interface.attempts ε α) Float := Program.call AttemptCall.draw Program.done

end AttemptStep

namespace RetryPolicy

open AttemptStep

variable {ε α σ : Type} {p : RetryPolicy} {retryable : ε → Bool} {result : Nat → Except ε α}
  {share : Nat → Float}

/-- Whether a result ends the attempts, given the number of its call. -/
def Ends (p : RetryPolicy) (retryable : ε → Bool) (number : Nat) (result : Except ε α) : Prop :=
  (∃ a, result = .ok a) ∨ (∃ e, result = .error e ∧ retryable e = false) ∨ p.maxAttempts ≤ number

/-- The first calls, so many of them, each with the backoff after it. -/
def passed (p : RetryPolicy) (share : Nat → Float) (count : Nat) : List AttemptStep :=
  (List.range count).flatMap fun i => [.call, .rest (p.backoffNanos (i + 1) (share (i + 1)))]

theorem passed_succ (p : RetryPolicy) (share : Nat → Float) (count : Nat) :
    p.passed share (count + 1) = p.passed share count ++
      [.call, .rest (p.backoffNanos (count + 1) (share (count + 1)))] := by
  simp only [passed, List.range_succ, List.flatMap_append, List.flatMap_singleton]

/-- So many attempts make so many calls. -/
theorem calls_passed (p : RetryPolicy) (share : Nat → Float) (count : Nat) :
    calls (p.passed share count) = count := by
  induction count with
  | zero => rfl
  | succ count ih =>
      rw [passed_succ, AttemptStep.calls, List.count_append]
      exact congrArg (· + 1) ih

theorem calls_passed_call (p : RetryPolicy) (share : Nat → Float) (count : Nat) :
    calls (p.passed share count ++ [.call]) = count + 1 := by
  rw [AttemptStep.calls, List.count_append]
  exact congrArg (· + 1) (p.calls_passed share count)

/-- A result that ends the attempts when none before it has is the first that does. -/
theorem isLeast_of_passed {count : Nat}
    (passed : ∀ n, 1 ≤ n → n ≤ count → ¬ p.Ends retryable n (result n))
    (ends : p.Ends retryable (count + 1) (result (count + 1))) :
    IsLeast {n | 1 ≤ n ∧ p.Ends retryable n (result n)} (count + 1) := by
  refine ⟨⟨Nat.le_add_left 1 count, ends⟩, ?_⟩
  rintro n ⟨positive, ended⟩
  by_contra earlier
  exact passed n positive (by omega) ended

/-- One call of an operation that hands on what `learn` makes of its results. -/
def learning (learn : σ → Except ε α → σ) (achieved : σ) :
    Program (Interface.attempts ε α) (Except ε α × σ) := do
  let outcome ← operate
  return (outcome, learn achieved outcome)

/-- An attempt makes one call, and its result is learned from. -/
theorem run_learning {β : Type} (learn : σ → Except ε α → σ) (achieved : σ) (count : Nat)
    (next : Except ε α × σ → Program (Interface.attempts ε α) β) :
    (learning learn achieved >>= next).run (surroundings result share) (p.passed share count) =
      (next (result (count + 1), learn achieved (result (count + 1)))).run
        (surroundings result share) (p.passed share count ++ [.call]) := by
  change (next (result (calls _ + 1), learn achieved (result (calls _ + 1)))).run _ _ = _
  rw [calls_passed]

/-- The backoff after a call. -/
theorem run_backoff {β : Type} (p : RetryPolicy) (count : Nat)
    (next : Program (Interface.attempts ε α) β) :
    (draw >>= fun share => Program.wait (p.backoffNanos (count + 1) share) >>= fun _ => next).run
        (surroundings result share) (p.passed share count ++ [.call]) =
      next.run (surroundings result share) (p.passed share (count + 1)) := by
  change next.run _ (p.passed share count ++ [.call] ++
    [.rest (p.backoffNanos (count + 1) (share (calls (p.passed share count ++ [.call]))))]) = _
  rw [calls_passed_call, passed_succ, List.append_assoc]
  rfl

/-- The attempts that are left after calls that have not ended them. -/
theorem run_attemptFrom (learn : σ → Except ε α → σ) {spare count : Nat}
    (left : p.maxAttempts - 1 = count + spare)
    (passed : ∀ n, 1 ≤ n → n ≤ count → ¬ p.Ends retryable n (result n)) (achieved : σ) :
    ∃ n last, IsLeast {n | 1 ≤ n ∧ p.Ends retryable n (result n)} n ∧
      (p.attemptFrom draw retryable (learning learn) spare (count + 1) achieved).run
          (surroundings result share) (p.passed share count) =
        (some (⟨result n, n⟩, last), p.passed share (n - 1) ++ [.call]) := by
  induction spare generalizing count achieved with
  | zero =>
      have ends : p.Ends retryable (count + 1) (result (count + 1)) := .inr (.inr (by omega))
      refine ⟨count + 1, learn achieved (result (count + 1)), isLeast_of_passed passed ends, ?_⟩
      rw [attemptFrom, run_learning]
      rfl
  | succ spare ih =>
      rw [attemptFrom, run_learning]
      cases outcome : result (count + 1) with
      | ok a =>
          have ends : p.Ends retryable (count + 1) (result (count + 1)) := .inl ⟨a, outcome⟩
          refine ⟨count + 1, learn achieved (result (count + 1)), isLeast_of_passed passed ends, ?_⟩
          rw [outcome]
          rfl
      | error e =>
          cases worth : retryable e with
          | false =>
              have ends : p.Ends retryable (count + 1) (result (count + 1)) :=
                .inr (.inl ⟨e, outcome, worth⟩)
              refine ⟨count + 1, learn achieved (result (count + 1)),
                isLeast_of_passed passed ends, ?_⟩
              rw [outcome]
              simp only [worth, Bool.false_eq_true, ↓reduceIte]
              rfl
          | true =>
              have goesOn : ¬ p.Ends retryable (count + 1) (result (count + 1)) := by
                rintro (⟨a, success⟩ | ⟨other, failure, firm⟩ | exhausted)
                · cases outcome.symm.trans success
                · cases outcome.symm.trans failure
                  cases worth.symm.trans firm
                · omega
              have passed : ∀ n, 1 ≤ n → n ≤ count + 1 → ¬ p.Ends retryable n (result n) := by
                intro n positive within
                rcases Nat.lt_or_eq_of_le within with earlier | rfl
                · exact passed n positive (Nat.le_of_lt_succ earlier)
                · exact goesOn
              obtain ⟨n, last, least, ran⟩ :=
                ih (by omega) passed (learn achieved (.error e))
              refine ⟨n, last, least, ?_⟩
              simp only [worth, ↓reduceIte]
              exact (run_backoff p count _).trans ran

/-! ## Policies that were decoded -/

/-- Whether a policy allows at least one attempt, and not more than can be decoded. -/
def Limited (p : RetryPolicy) : Prop := 1 ≤ p.maxAttempts ∧ p.maxAttempts ≤ attemptLimit

/-- Whether a policy was decoded by itself, or as a part of other settings. -/
inductive Decoded : RetryPolicy → Prop where
  | policy {rules d p} (read : decoder rules d = .ok p) : Decoded p
  | consumer {rules d c} (read : ConsumerConfig.decoder rules d = .ok c) : Decoded c.retryPolicy
  | labeler {rules d c} (read : ConsumerConfig.decoder rules d = .ok c) :
      Decoded c.labelerRetryPolicy
  | service {rules d c} (read : ServiceConfig.decoder rules d = .ok c) :
      Decoded c.consumer.retryPolicy
  | serviceLabeler {rules d c} (read : ServiceConfig.decoder rules d = .ok c) :
      Decoded c.consumer.labelerRetryPolicy

theorem limited_standard : standard.Limited := ⟨by decide, by decide⟩

theorem limited_labeling : labeling.Limited := ⟨by decide, by decide⟩

/-- A number of attempts that was read is within its limits. -/
theorem attemptsDecoder_limited {rules : DecodeRules} {d : Document} {n : Nat}
    (read : attemptsDecoder rules d = .ok n) : 1 ≤ n ∧ n ≤ attemptLimit := by
  obtain ⟨number, _, checked⟩ := bind_eq_ok read
  split at checked
  · cases checked
  · next within =>
    cases checked
    omega

theorem limited_getD {given : Option RetryPolicy} {missing : RetryPolicy}
    (within : ∀ q ∈ given, q.Limited) (default : missing.Limited) :
    (given.getD missing).Limited := by
  cases given with
  | none => exact default
  | some q => exact within q rfl

/-- Whether what is given of a policy is in bounds. -/
def FieldsLimited (found : Fields) : Prop :=
  ∀ n ∈ found.maxAttempts, 1 ≤ n ∧ n ≤ attemptLimit

/-- A policy that is decoded by itself is in bounds: what is given is checked, and what is missing
is taken from the standard policy. -/
theorem limited_of_decoder {rules : DecodeRules} {d : Document}
    (read : decoder rules d = .ok p) : p.Limited := by
  obtain ⟨found, limited, complete⟩ := Decoder.exists_of_record FieldsLimited
    (by
      intro field listed
      simp only [List.mem_cons, List.not_mem_nil, or_false] at listed
      rcases listed with rfl | rfl | rfl | rfl | rfl
      -- Only the first field is about attempts.
      all_goals try exact Decoder.keeps_named fun _ _ _ _ _ held => held
      apply Decoder.keeps_named
      intro rules d v read found held n is
      cases is
      exact attemptsDecoder_limited read)
    (fun _ none => by cases none) read
  cases complete
  unfold RetryPolicy.Limited
  cases given : found.maxAttempts with
  | none => exact limited_standard
  | some n => exact limited n given

/-- Whether the policies of the settings of the consumer loop are in bounds. -/
def ConsumerLimited (c : ConsumerConfig) : Prop :=
  c.retryPolicy.Limited ∧ c.labelerRetryPolicy.Limited

/-- Whether the policies that are given among these settings are in bounds. -/
def ConsumerFieldsLimited (found : ConsumerConfig.Fields) : Prop :=
  (∀ q ∈ found.retryPolicy, q.Limited) ∧ ∀ q ∈ found.labelerRetryPolicy, q.Limited

/-- The policies of a consumer that was read are limited. -/
theorem limited_of_consumer {rules : DecodeRules} {d : Document} {c : ConsumerConfig}
    (read : ConsumerConfig.decoder rules d = .ok c) : ConsumerLimited c := by
  obtain ⟨found, ⟨work, labels⟩, complete⟩ := Decoder.exists_of_record ConsumerFieldsLimited
    (by
      intro field listed
      simp only [List.mem_cons, List.not_mem_nil, or_false] at listed
      rcases listed with rfl | rfl | rfl | rfl | rfl | rfl | rfl | rfl | rfl | rfl | rfl | rfl |
        rfl | rfl | rfl | rfl
      -- Two fields hold policies, the others are beside the point.
      all_goals try exact Decoder.keeps_named fun _ _ _ _ _ held => held
      · apply Decoder.keeps_named
        intro rules d q read found held
        refine ⟨fun other is => ?_, held.2⟩
        cases is
        exact limited_of_decoder read
      · apply Decoder.keeps_named
        intro rules d q read found held
        refine ⟨held.1, fun other is => ?_⟩
        cases is
        exact limited_of_decoder read)
    ⟨(fun _ none => by cases none), (fun _ none => by cases none)⟩ read
  cases complete
  exact ⟨limited_getD work limited_standard, limited_getD labels limited_labeling⟩

/-- Whether the policies that are given among all settings are in bounds. -/
def ServiceFieldsLimited (found : ServiceConfig.Fields) : Prop :=
  ∀ c ∈ found.consumer, ConsumerLimited c

theorem limited_of_service {rules : DecodeRules} {d : Document} {c : ServiceConfig}
    (read : ServiceConfig.decoder rules d = .ok c) : ConsumerLimited c.consumer := by
  obtain ⟨found, limited, complete⟩ := Decoder.exists_of_record ServiceFieldsLimited
    (by
      intro field listed
      simp only [List.mem_cons, List.not_mem_nil, or_false] at listed
      rcases listed with rfl | rfl | rfl | rfl | rfl
      -- Only the settings of the consumer loop hold policies.
      all_goals try exact Decoder.keeps_named fun _ _ _ _ _ held => held
      apply Decoder.keeps_named
      intro rules d c read found held other is
      cases is
      exact limited_of_consumer read)
    (fun _ none => by cases none) read
  cases complete
  change ConsumerLimited (found.consumer.getD .standard)
  cases given : found.consumer with
  | none => exact ⟨limited_standard, limited_labeling⟩
  | some c => exact limited c given

/-- A policy that was read is limited. -/
theorem Decoded.limited (decoded : p.Decoded) : p.Limited := by
  cases decoded with
  | policy read => exact limited_of_decoder read
  | consumer read => exact (limited_of_consumer read).1
  | labeler read => exact (limited_of_consumer read).2
  | service read => exact (limited_of_service read).1
  | serviceLabeler read => exact (limited_of_service read).2

/-! ## Until the first end -/

/-- An operation is called until the first of its results that ends the attempts, and this is what
they come to. After every earlier call one backoff is waited, and none after the last. There is one
call at least, there are no more than the policy allows, and a policy that allows no more than 32
bits can count needs no more to count them. -/
theorem attempts_until_end (p : RetryPolicy) (retryable : ε → Bool) (result : Nat → Except ε α)
    (share : Nat → Float) :
    ∃ n steps, IsLeast {n | 1 ≤ n ∧ p.Ends retryable n (result n)} n ∧
      steps = p.passed share (n - 1) ++ [.call] ∧ calls steps = n ∧
      (p.attemptPlain draw retryable operate).run (surroundings result share) [] =
        (some ⟨result n, n⟩, steps) ∧
      (∀ (σ : Type) (learn : σ → Except ε α → σ) (blank : σ), ∃ last,
        (p.attempt draw retryable (learning learn) blank).run (surroundings result share) [] =
          (some (⟨result n, n⟩, last), steps)) ∧
      n ≤ max 1 p.maxAttempts ∧ (p.maxAttempts ≤ maxWord32 → n ≤ maxWord32) ∧
      (p.Decoded → n ≤ attemptLimit) := by
  have runs : ∀ (σ : Type) (learn : σ → Except ε α → σ) (blank : σ), ∃ n last,
      IsLeast {n | 1 ≤ n ∧ p.Ends retryable n (result n)} n ∧
        (p.attempt draw retryable (learning learn) blank).run (surroundings result share) [] =
          (some (⟨result n, n⟩, last), p.passed share (n - 1) ++ [.call]) := by
    intro σ learn blank
    apply run_attemptFrom learn (Nat.zero_add _).symm _ blank
    intro n positive none
    omega
  obtain ⟨n, last, least, ran⟩ := runs Unit (fun _ _ => ()) ()
  have positive : 1 ≤ n := least.1.1
  have allowed : n ≤ max 1 p.maxAttempts :=
    least.2 ⟨Nat.le_max_left 1 p.maxAttempts, .inr (.inr (Nat.le_max_right 1 p.maxAttempts))⟩
  refine ⟨n, _, least, rfl, ?_, ?_, ?_, allowed, ?_, ?_⟩
  · rw [calls_passed_call, Nat.sub_add_cancel positive]
  · have plain : p.attemptPlain draw retryable operate =
        (p.attempt draw retryable (learning (α := α) fun _ _ => ()) () >>=
          fun made => return made.1) := rfl
    rw [plain, Program.run_bind, ran]
    rfl
  · intro σ learn blank
    obtain ⟨other, last, same, ran⟩ := runs σ learn blank
    cases same.unique least
    exact ⟨last, ran⟩
  · intro counted
    have room : 1 ≤ maxWord32 := by decide
    omega
  · intro decoded
    have limited := decoded.limited
    have room : 1 ≤ attemptLimit := by decide
    unfold RetryPolicy.Limited at limited
    omega

end RetryPolicy

end AlertRelay
