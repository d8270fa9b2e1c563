import AlertRelay.Delivery.Run
import Mathlib.Data.Nat.Pairing
import Mathlib.Order.WellFounded

/-!
# Acts and schedules

A run goes on by acts: somebody makes a move, or the state outside changes by itself. Any source and
any handlers take part, since what they answer may depend on a state that changes at any time.

In a fair schedule no move stays possible forever without being made (`ConsumerRun.Fair`). A move
that stays possible is then made at last, and whatever it leads to comes about (`Fair.leads`).
-/

namespace AlertRelay

/-- What happens to a run. -/
inductive Act (ω : Type) where
  | move (m : Move)
  /-- The state outside changes by itself. -/
  | outside (change : ω → ω)

namespace ConsumerRun

variable {I : Interface} {ω : Type} {c : Consumer I ω} {r : ConsumerRun I ω}

/-- The run after an act. A move that is not possible changes nothing. -/
def next (c : Consumer I ω) (r : ConsumerRun I ω) : Act ω → ConsumerRun I ω
  | .move m => (r.step? c m).getD r
  | .outside change => { r with shared := r.withOutside (change r.shared.outside) }

/-- The run after several acts. -/
def after (c : Consumer I ω) (r : ConsumerRun I ω) (acts : List (Act ω)) : ConsumerRun I ω :=
  acts.foldl (next c) r

/-- Acts in two portions come to the same as all of them at once. -/
theorem after_append (first rest : List (Act ω)) :
    r.after c (first ++ rest) = (r.after c first).after c rest :=
  List.foldl_append

/-- What every act keeps holds after any number of them. -/
theorem after_induction {P : ConsumerRun I ω → Prop} (acts : List (Act ω)) (now : P r)
    (keeps : ∀ x, ∀ a ∈ acts, P x → P (x.next c a)) : P (r.after c acts) :=
  List.foldlRecOn acts (next c) now fun x holds a among => keeps x a among holds

/-- What every possible move and every change outside keeps, every act keeps. -/
theorem next_cases {P : ConsumerRun I ω → Prop} (a : Act ω) (now : P r)
    (moves : ∀ m later, a = .move m → r.step? c m = some later → P later)
    (outside : ∀ change, a = .outside change →
      P { r with shared := r.withOutside (change r.shared.outside) }) :
    P (r.next c a) := by
  cases a with
  | outside change => exact outside change rfl
  | move m =>
      change P ((r.step? c m).getD r)
      cases step : r.step? c m with
      | none => exact now
      | some later => exact moves m later rfl step

/-- What each move does. -/
inductive Moved (c : Consumer I ω) (r : ConsumerRun I ω) : Move → ConsumerRun I ω → Prop where
  | loop {later : ConsumerRun I ω} (step : r.loopStep? c = some later) : Moved c r .loop later
  | worker (id : Nat) (k k' : Worker I) (h : RecordHandler I) (s : Shared ω)
      (present : r.workers[id]? = some k) (handler : c.handlers[id]? = some h)
      (stepped : k.step? c id h r.loop.queuesClosed r.shared = some (k', s)) :
      Moved c r (.worker id) { r with workers := r.workers.set id k', shared := s }
  | cancel (polls : r.loop.isPolling = true) : Moved c r .cancel (r.goTo .leaving)
  | lapse (rings : Nat) (waits : r.loop = .waiting rings) :
      Moved c r .timeout (r.goTo .checking)
  | giveUp (drains : r.loop = .draining) : Moved c r .timeout (r.goTo .abandoning)
  | stop : Moved c r .stop { r with shared := r.shared.beginShutdown }

/-- A move that is possible does what it is said to do. -/
theorem moved_of_step {m : Move} {later : ConsumerRun I ω} (step : r.step? c m = some later) :
    Moved c r m later := by
  cases m with
  | loop => exact .loop step
  | worker id =>
      simp only [ConsumerRun.step?, ConsumerRun.workerStep?] at step
      split at step
      · next k h present handler =>
        obtain ⟨⟨k', s⟩, stepped, rfl⟩ := Option.map_eq_some_iff.mp step
        exact .worker id k k' h s present handler stepped
      · cases step
  | cancel =>
      simp only [ConsumerRun.step?, ConsumerRun.cancel?] at step
      split at step <;> cases step
      next may => exact .cancel (Bool.and_eq_true_iff.mp may).1
  | timeout =>
      simp only [ConsumerRun.step?, ConsumerRun.timeout?] at step
      split at step <;> cases step
      · next rings waits => exact .lapse rings waits
      · next drains => exact .giveUp drains
  | stop =>
      cases step
      exact .stop

/-! ## Schedules -/

/-- The run after the first acts of a schedule. -/
def along (c : Consumer I ω) (r : ConsumerRun I ω) (schedule : ℕ → Act ω) (n : ℕ) :
    ConsumerRun I ω :=
  r.after c ((List.range n).map schedule)

variable {schedule : ℕ → Act ω}

theorem along_succ (n : ℕ) :
    r.along c schedule (n + 1) = (r.along c schedule n).next c (schedule n) := by
  unfold ConsumerRun.along
  rw [List.range_succ, List.map_append, after_append]
  rfl

/-- Whether every move, other than to begin the shutdown, is made or impossible again and again. -/
def Fair (c : Consumer I ω) (r : ConsumerRun I ω) (schedule : ℕ → Act ω) : Prop :=
  ∀ m, m ≠ .stop → ∀ n, ∃ k, n ≤ k ∧
    (schedule k = .move m ∨ (r.along c schedule k).step? c m = none)

/-- Whether one condition is always followed, sooner or later, by another one. -/
def Leads (c : Consumer I ω) (r : ConsumerRun I ω) (schedule : ℕ → Act ω)
    (P Q : ConsumerRun I ω → Prop) : Prop :=
  ∀ n, P (r.along c schedule n) → ∃ k, n ≤ k ∧ Q (r.along c schedule k)

variable {P Q R : ConsumerRun I ω → Prop}

/-- A condition leads to whatever it implies. -/
theorem Leads.of_imp (implies : ∀ x, P x → Q x) : r.Leads c schedule P Q :=
  fun n holds => ⟨n, Nat.le_refl n, implies _ holds⟩

/-- What leads to a condition leads to all that this one leads to. -/
theorem Leads.trans (first : r.Leads c schedule P Q) (second : r.Leads c schedule Q R) :
    r.Leads c schedule P R := by
  intro n holds
  obtain ⟨m, later, reached⟩ := first n holds
  obtain ⟨k, last, done⟩ := second m reached
  exact ⟨k, Nat.le_trans later last, done⟩

/-- To lead from more to less is easier. -/
theorem Leads.mono {P' Q' : ConsumerRun I ω → Prop} (leads : r.Leads c schedule P Q)
    (before : ∀ x, P' x → P x) (after : ∀ x, Q x → Q' x) : r.Leads c schedule P' Q' := by
  intro n holds
  obtain ⟨k, later, reached⟩ := leads n (before _ holds)
  exact ⟨k, later, after _ reached⟩

/-- What is kept by every act holds from some time on. -/
theorem along_of_le {n k : ℕ} (keeps : ∀ x a, P x → P (x.next c a)) (le : n ≤ k)
    (now : P (r.along c schedule n)) : P (r.along c schedule k) := by
  induction k, le using Nat.le_induction with
  | base => exact now
  | succ k _ ih =>
      rw [along_succ]
      exact keeps _ _ ih

/-- A condition that leads to another one, or to itself with less of something, leads to the other
one. -/
theorem Leads.descend {α : Type} {less : α → α → Prop} (wellFounded : WellFounded less)
    (measure : ConsumerRun I ω → α)
    (step : ∀ v, r.Leads c schedule (fun x => P x ∧ measure x = v)
      (fun x => Q x ∨ P x ∧ less (measure x) v)) : r.Leads c schedule P Q := by
  have key : ∀ v, r.Leads c schedule (fun x => P x ∧ measure x = v) Q := by
    intro v
    induction v using wellFounded.induction with
    | _ v ih =>
      intro n holds
      obtain ⟨m, later, reached | ⟨again, lower⟩⟩ := step v n holds
      · exact ⟨m, later, reached⟩
      · obtain ⟨k, last, done⟩ := ih _ lower m ⟨again, rfl⟩
        exact ⟨k, Nat.le_trans later last, done⟩
  exact fun n holds => key _ n ⟨holds, rfl⟩

/-- A move is made at last if it stays possible until something comes about that it leads to. -/
theorem Fair.leads {m : Move} (fair : r.Fair c schedule) (own : m ≠ .stop)
    (possible : ∀ x, P x → ∃ later, x.step? c m = some later ∧ Q later)
    (keeps : ∀ n, P (r.along c schedule n) →
      P (r.along c schedule (n + 1)) ∨ Q (r.along c schedule (n + 1))) :
    r.Leads c schedule P Q := by
  intro n now
  by_contra never
  have absent : ∀ k, n ≤ k → ¬Q (r.along c schedule k) :=
    fun k later reached => never ⟨k, later, reached⟩
  have stays : ∀ k, n ≤ k → P (r.along c schedule k) := by
    intro k later
    induction k, later using Nat.le_induction with
    | base => exact now
    | succ k later ih =>
        exact (keeps k ih).resolve_right (absent (k + 1) (Nat.le_succ_of_le later))
  obtain ⟨k, later, made | impossible⟩ := fair m own n
  · obtain ⟨x, step, reached⟩ := possible _ (stays k later)
    apply absent (k + 1) (Nat.le_succ_of_le later)
    rw [along_succ, made, ConsumerRun.next, step]
    exact reached
  · obtain ⟨x, step, _⟩ := possible _ (stays k later)
    rw [step] at impossible
    cases impossible

/-- A move that leads closer to something, and stays possible until it comes about, leads there. -/
theorem Fair.descends {α : Type} {less : α → α → Prop} (wellFounded : WellFounded less)
    (measure : ConsumerRun I ω → α) {m : Move} (fair : r.Fair c schedule) (own : m ≠ .stop)
    (closer : ∀ x, P x → ∃ later, x.step? c m = some later ∧
      (Q later ∨ P later ∧ less (measure later) (measure x)))
    (keeps : ∀ x a, P x → Q (x.next c a) ∨ P (x.next c a) ∧
      (measure (x.next c a) = measure x ∨ less (measure (x.next c a)) (measure x))) :
    r.Leads c schedule P Q := by
  refine Leads.descend wellFounded measure fun v => fair.leads own ?_ fun n holds => ?_
  · rintro x ⟨holds, rfl⟩
    exact closer x holds
  · obtain ⟨holds, rfl⟩ := holds
    rw [along_succ]
    rcases keeps _ (schedule n) holds with reached | ⟨again, same | lower⟩
    · exact .inr (.inl reached)
    · exact .inl ⟨again, same⟩
    · exact .inr (.inr ⟨again, lower⟩)

end ConsumerRun

/-- A list of all moves, other than to begin the shutdown. -/
def Move.numbered : ℕ → Move
  | 0 => .loop
  | 1 => .cancel
  | 2 => .timeout
  | id + 3 => .worker id

/-- Every move but the beginning of the shutdown has a number. -/
theorem Move.exists_numbered {m : Move} (own : m ≠ .stop) : ∃ n, Move.numbered n = m := by
  cases m with
  | loop => exact ⟨0, rfl⟩
  | cancel => exact ⟨1, rfl⟩
  | timeout => exact ⟨2, rfl⟩
  | worker id => exact ⟨id + 3, rfl⟩
  | stop => exact (own rfl).elim

/-- The schedule in which every move comes again and again, and nothing else happens. -/
def Act.rota {ω : Type} (n : ℕ) : Act ω := .move (.numbered n.unpair.1)

/-- The schedule in which every move comes again and again is fair. -/
theorem ConsumerRun.fair_rota {I : Interface} {ω : Type} (c : Consumer I ω)
    (r : ConsumerRun I ω) : r.Fair c Act.rota := by
  intro m own n
  obtain ⟨i, rfl⟩ := Move.exists_numbered own
  refine ⟨Nat.pair i n, Nat.right_le_pair i n, .inl ?_⟩
  simp [Act.rota]

/-! ## Scripted consumers -/

/-- A source that answers each poll with the next of some answers, and has nothing after that. -/
def RecordSource.scripted : RecordSource (List Fetched) where
  fetch
    | [] => (.notYet, [])
    | answer :: rest => (answer, rest)
  rings _ := 0
  generation _ := 0
  assignment _ := .ok []
  pause _ answers := (.ok (), answers)
  resume _ answers := (.ok (), answers)
  seek _ _ answers := (.ok (), answers)
  highWatermark _ _ := .ok none
  close answers := (.ok (), answers)

/-- The interface of handlers that ask for nothing. -/
def Interface.silent : Interface := ⟨Empty, fun _ => Unit⟩

/-- A handler that comes to the same outcome for every record. -/
def RecordHandler.constant (outcome : Except RelayError Outcome) :
    RecordHandler Interface.silent where
  handle _ := .done outcome
  deadLetter _ _ := .done (.ok ())

/-- A consumer of a scripted source. -/
def Consumer.scripted (config : ConsumerConfig)
    (handlers : List (RecordHandler Interface.silent)) :
    Consumer Interface.silent (List Fetched) where
  config := config
  source := .scripted
  handlers := handlers
  reply _ request _ := nomatch request

end AlertRelay
