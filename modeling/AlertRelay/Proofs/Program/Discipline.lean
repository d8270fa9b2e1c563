import AlertRelay.Delivery.Worker
import AlertRelay.Retry.Attempts

/-!
# Disciplines of programs

A discipline says which calls are in order and what a reply lets one conclude, both seen from a view
of the surroundings. A program that obeys a discipline keeps to it whatever the replies are, and
ends in a view of which something is known (`Program.Obeys`). Sequencing, repeated attempts and runs
keep to a discipline as their parts do (`Program.obeys_bind`, `Program.attemptFrom_obeys`,
`Program.Obeys.run`).

What a program asked and was replied is its transcript (`Program.Yields`).
-/

namespace AlertRelay

/-- A call with the reply it got. -/
structure Exchange (I : Interface) where
  request : I.Call
  reply : I.Reply request

/-- Which calls are in order, and how a reply changes the view. -/
structure Discipline (I : Interface) (σ : Type) where
  allows : σ → I.Call → Prop
  shows : σ → (request : I.Call) → I.Reply request → σ → Prop

namespace Program

variable {I : Interface} {α β σ ω : Type}

/-- Whether a program ends with a value once it has got the replies of a transcript. -/
def Yields : Program I α → List (Exchange I) → α → Prop
  | done a, transcript, b => transcript = [] ∧ a = b
  | call request next, transcript, b =>
    ∃ reply rest, transcript = ⟨request, reply⟩ :: rest ∧ (next reply).Yields rest b
  | pause _ next, transcript, b => next.Yields transcript b
  | crash, _, _ => False

/-- Whether a program was run from its beginning to its end within a transcript, and ended with a
value. -/
def RanIn (p : Program I α) (a : α) (transcript : List (Exchange I)) : Prop :=
  ∃ before during after, transcript = before ++ during ++ after ∧ p.Yields during a

/-- Whether a program keeps to a discipline, and what is known when it ends. It never crashes. -/
def Obeys (D : Discipline I σ) (ends : α → σ → Prop) : Program I α → σ → Prop
  | done a, view => ends a view
  | call request next, view =>
    D.allows view request ∧
      ∀ reply after, D.shows view request reply after → (next reply).Obeys D ends after
  | pause _ next, view => next.Obeys D ends view
  | crash, _ => False

/-- What was done within a transcript was done within a longer one. -/
theorem RanIn.append {p : Program I α} {a : α} {transcript : List (Exchange I)}
    (ran : p.RanIn a transcript) (more : List (Exchange I)) : p.RanIn a (transcript ++ more) := by
  obtain ⟨before, during, after, rfl, yields⟩ := ran
  exact ⟨before, during, after ++ more, by simp only [List.append_assoc], yields⟩

variable {D : Discipline I σ}

@[simp] theorem obeys_done {ends : α → σ → Prop} {a : α} {view : σ} :
    (done a : Program I α).Obeys D ends view ↔ ends a view := Iff.rfl

@[simp] theorem obeys_call {ends : α → σ → Prop} {request : I.Call}
    {next : I.Reply request → Program I α} {view : σ} :
    (call request next).Obeys D ends view ↔ D.allows view request ∧
      ∀ reply after, D.shows view request reply after → (next reply).Obeys D ends after := Iff.rfl

@[simp] theorem obeys_pause {ends : α → σ → Prop} {nanos : Nat} {next : Program I α} {view : σ} :
    (pause nanos next).Obeys D ends view ↔ next.Obeys D ends view := Iff.rfl

/-- A program that obeys with one end obeys with any that it implies. -/
theorem Obeys.mono {ends wider : α → σ → Prop} {p : Program I α} {view : σ}
    (obeys : p.Obeys D ends view) (implies : ∀ a after, ends a after → wider a after) :
    p.Obeys D wider view := by
  induction p generalizing view with
  | done a => exact implies a view obeys
  | call request next ih =>
      exact ⟨obeys.1, fun reply after shown => ih reply (obeys.2 reply after shown)⟩
  | pause nanos next ih => exact ih obeys
  | crash => exact obeys

/-- A sequence keeps to a discipline exactly if its first part does and ends where the second part
does. -/
theorem obeys_bind {ends : β → σ → Prop} {p : Program I α} {f : α → Program I β} {view : σ} :
    (p >>= f).Obeys D ends view ↔
      p.Obeys D (fun a after => (f a).Obeys D ends after) view := by
  induction p generalizing view with
  | done a => exact Iff.rfl
  | call request next ih =>
      exact and_congr_right fun _ => forall_congr' fun reply => forall_congr' fun after =>
        imp_congr_right fun _ => ih reply
  | pause nanos next ih => exact ih
  | crash => exact Iff.rfl

/-- Sequencing by what is known between the parts. -/
theorem Obeys.bind {between : α → σ → Prop} {ends : β → σ → Prop} {p : Program I α}
    {f : α → Program I β} {view : σ} (first : p.Obeys D between view)
    (second : ∀ a after, between a after → (f a).Obeys D ends after) :
    (p >>= f).Obeys D ends view :=
  obeys_bind.mpr (first.mono second)

/-- Where a view keeps the transcript, a program adds to it what makes it end. -/
theorem Obeys.transcribed (transcript : σ → List (Exchange I))
    (faithful : ∀ view request reply after, D.shows view request reply after →
      transcript after = transcript view ++ [⟨request, reply⟩])
    {ends : α → σ → Prop} {p : Program I α} {view : σ} (obeys : p.Obeys D ends view) :
    p.Obeys D (fun a after => ends a after ∧
      ∃ during, transcript after = transcript view ++ during ∧ p.Yields during a) view := by
  induction p generalizing view with
  | done a => exact ⟨obeys, [], (List.append_nil _).symm, rfl, rfl⟩
  | call request next ih =>
      refine ⟨obeys.1, fun reply after shown => ?_⟩
      refine (ih reply (obeys.2 reply after shown)).mono ?_
      rintro a last ⟨ended, during, same, yields⟩
      refine ⟨ended, ⟨request, reply⟩ :: during, ?_, reply, during, rfl, yields⟩
      rw [same, faithful _ _ _ _ shown, List.append_assoc, List.singleton_append]
  | pause nanos next ih => exact ih obeys
  | crash => exact obeys

/-- What every call and every pause keeps is kept by a run. -/
theorem run_keeps {s : Surroundings I ω} (keeps : ω → Prop)
    (replies : ∀ w request, keeps w → keeps (s.reply request w).2)
    (waits : ∀ w nanos, keeps w → keeps (s.wait nanos w)) (p : Program I α) {w : ω}
    (start : keeps w) : keeps (p.run s w).2 := by
  induction p generalizing w with
  | done a => exact start
  | call request next ih => exact ih _ (replies w request start)
  | pause nanos next ih => exact ih (waits w nanos start)
  | crash => exact start

/-- A program that obeys a discipline runs to its end wherever the surroundings show what the
discipline says, unless they are spoiled on the way. -/
theorem Obeys.run_unless {s : Surroundings I ω} (sees : ω → σ → Prop) (spoiled : ω → Prop)
    (replies : ∀ w view request, sees w view → D.allows view request →
      spoiled (s.reply request w).2 ∨ ∃ after,
        D.shows view request (s.reply request w).1 after ∧ sees (s.reply request w).2 after)
    (waits : ∀ w view nanos, sees w view → sees (s.wait nanos w) view)
    (stays : ∀ w request, spoiled w → spoiled (s.reply request w).2)
    (lasts : ∀ w nanos, spoiled w → spoiled (s.wait nanos w))
    {ends : α → σ → Prop} {p : Program I α} {view : σ} {w : ω}
    (obeys : p.Obeys D ends view) (seen : sees w view) :
    spoiled (p.run s w).2 ∨
      ∃ a last after, p.run s w = (some a, last) ∧ ends a after ∧ sees last after := by
  induction p generalizing view w with
  | done a => exact .inr ⟨a, w, view, rfl, obeys, seen⟩
  | call request next ih =>
      rcases replies w view request seen obeys.1 with now | ⟨after, shown, seen⟩
      · exact .inl (run_keeps spoiled stays lasts (next (s.reply request w).1) now)
      · exact ih _ (obeys.2 _ after shown) seen
  | pause nanos next ih => exact ih obeys (waits w view nanos seen)
  | crash => exact obeys.elim

/-- A program that obeys a discipline runs to its end wherever the surroundings show what the
discipline says. -/
theorem Obeys.run {s : Surroundings I ω} (sees : ω → σ → Prop)
    (replies : ∀ w view request, sees w view → D.allows view request →
      ∃ after, D.shows view request (s.reply request w).1 after ∧ sees (s.reply request w).2 after)
    (waits : ∀ w view nanos, sees w view → sees (s.wait nanos w) view)
    {ends : α → σ → Prop} {p : Program I α} {view : σ} {w : ω}
    (obeys : p.Obeys D ends view) (seen : sees w view) :
    ∃ a last after, p.run s w = (some a, last) ∧ ends a after ∧ sees last after := by
  refine (obeys.run_unless sees (fun _ => False) ?_ waits ?_ ?_ seen).resolve_left id
  · exact fun w view request seen allowed => .inr (replies w view request seen allowed)
  · exact fun _ _ never => never
  · exact fun _ _ never => never

/-- Repeated attempts keep what holds before each attempt, and end as the last attempt does. -/
theorem attemptFrom_obeys {ε κ : Type} (policy : RetryPolicy) {draw : Program I Float}
    {retryable : ε → Bool} {operation : κ → Program I (Except ε α × κ)} {ready : κ → σ → Prop}
    {closes : Except ε α → σ → Prop}
    (drawn : ∀ achieved view, ready achieved view →
      draw.Obeys D (fun _ after => ready achieved after) view)
    (attempted : ∀ achieved view, ready achieved view →
      (operation achieved).Obeys D (fun made after => closes made.1 after ∧
        ∀ e, made.1 = .error e → retryable e = true → ready made.2 after) view)
    (spare number : Nat) (achieved : κ) (view : σ) (start : ready achieved view) :
    (policy.attemptFrom draw retryable operation spare number achieved).Obeys D
      (fun made after => closes made.1.outcome after) view := by
  induction spare generalizing number achieved view with
  | zero =>
      refine (attempted achieved view start).bind fun made after ended => ?_
      exact ended.1
  | succ spare ih =>
      refine (attempted achieved view start).bind fun made after ended => ?_
      obtain ⟨outcome, achieved⟩ := made
      cases outcome with
      | ok a => exact ended.1
      | error e =>
          simp only
          split
          · next worth =>
            refine (drawn achieved after (ended.2 e rfl worth)).bind fun share later kept => ?_
            exact ih (number + 1) achieved later kept
          · exact ended.1

/-- Attempts with something achieved obey if each of them does from where the last one has failed.
-/
theorem attempt_obeys {ε κ : Type} (policy : RetryPolicy) {draw : Program I Float}
    {retryable : ε → Bool} {operation : κ → Program I (Except ε α × κ)} (ready : κ → σ → Prop)
    (closes : Except ε α → σ → Prop)
    (drawn : ∀ achieved view, ready achieved view →
      draw.Obeys D (fun _ after => ready achieved after) view)
    (attempted : ∀ achieved view, ready achieved view →
      (operation achieved).Obeys D (fun made after => closes made.1 after ∧
        ∀ e, made.1 = .error e → retryable e = true → ready made.2 after) view)
    (blank : κ) (view : σ) (start : ready blank view) :
    (policy.attempt draw retryable operation blank).Obeys D
      (fun made after => closes made.1.outcome after) view :=
  attemptFrom_obeys policy drawn attempted _ 1 blank view start

/-- Attempts obey if each of them does from where the last one has failed. -/
theorem attemptPlain_obeys {ε : Type} (policy : RetryPolicy) {draw : Program I Float}
    {retryable : ε → Bool} {operation : Program I (Except ε α)} (ready : σ → Prop)
    (closes : Except ε α → σ → Prop)
    (drawn : ∀ view, ready view → draw.Obeys D (fun _ after => ready after) view)
    (attempted : ∀ view, ready view →
      operation.Obeys D (fun outcome after => closes outcome after ∧
        ∀ e, outcome = .error e → retryable e = true → ready after) view)
    (view : σ) (start : ready view) :
    (policy.attemptPlain draw retryable operation).Obeys D
      (fun made after => closes made.outcome after) view := by
  refine Obeys.bind (attempt_obeys policy (fun _ => ready) closes (fun _ => drawn)
    (fun _ before held => ?_) () view start) fun made after ended => ended
  exact (attempted before held).bind fun outcome after ended => ended

/-! ## Kinds of calls -/

/-- Whether all calls of a program are of a kind, whatever the replies are. It never crashes. -/
def Asks (kind : I.Call → Prop) (p : Program I α) : Prop :=
  p.Obeys (σ := Unit) ⟨fun _ => kind, fun _ _ _ _ => True⟩ (fun _ _ => True) ()

variable {kind : I.Call → Prop}

theorem Asks.done (a : α) : (Program.done a : Program I α).Asks kind := trivial

theorem Asks.call {request : I.Call} {next : I.Reply request → Program I α} (is : kind request)
    (rest : ∀ reply, (next reply).Asks kind) : (Program.call request next).Asks kind :=
  ⟨is, fun reply _ _ => rest reply⟩

/-- One program after the other asks what both of them ask. -/
theorem Asks.bind {p : Program I α} {f : α → Program I β} (first : p.Asks kind)
    (second : ∀ a, (f a).Asks kind) : (p >>= f).Asks kind :=
  Obeys.bind first fun a _ _ => second a

/-- Attempts ask what each of them asks, and what the draws ask. -/
theorem Asks.attemptPlain {ε : Type} (policy : RetryPolicy) {draw : Program I Float}
    {retryable : ε → Bool} {operation : Program I (Except ε α)} (drawn : draw.Asks kind)
    (attempted : operation.Asks kind) :
    (policy.attemptPlain draw retryable operation).Asks kind :=
  attemptPlain_obeys policy (fun _ => True) (fun _ _ => True) (fun _ _ => drawn)
    (fun _ _ => attempted.mono fun _ _ _ => ⟨trivial, fun _ _ _ => trivial⟩) () trivial

/-- Calls of a kind keep to a discipline that allows them, and keep what they do not touch. -/
theorem Asks.obeys {p : Program I α} {view : σ} (asks : p.Asks kind) (keeps : σ → Prop)
    (allowed : ∀ view request, keeps view → kind request → D.allows view request)
    (kept : ∀ view request reply after, keeps view → kind request →
      D.shows view request reply after → keeps after) (start : keeps view) :
    p.Obeys D (fun _ after => keeps after) view := by
  induction p generalizing view with
  | done a => exact start
  | call request next ih =>
      obtain ⟨is, rest⟩ := asks
      exact ⟨allowed view request start is, fun reply after shown =>
        ih reply (rest reply () trivial) (kept view request reply after start is shown)⟩
  | pause nanos next ih => exact ih asks start
  | crash => exact asks

theorem Asks.weaken {wider : I.Call → Prop} {p : Program I α} (asks : p.Asks kind)
    (implies : ∀ request, kind request → wider request) : p.Asks wider :=
  asks.obeys (fun _ => True) (fun _ request _ is => implies request is)
    (fun _ _ _ _ _ _ _ => trivial) trivial

/-- One step of a program that obeys a discipline. -/
theorem Obeys.advance {reply : (request : I.Call) → ω → I.Reply request × ω}
    (sees : ω → σ → Prop) {ends : α → σ → Prop} {p : Program I α} {view : σ} {w : ω}
    (obeys : p.Obeys D ends view)
    (replies : ∀ request, D.allows view request →
      ∃ after, D.shows view request (reply request w).1 after ∧ sees (reply request w).2 after)
    (seen : sees w view) :
    ∃ after, (p.advance reply w).1.Obeys D ends after ∧ sees (p.advance reply w).2 after := by
  cases p with
  | done a => exact ⟨view, obeys, seen⟩
  | call request next =>
      obtain ⟨after, shown, seen⟩ := replies request obeys.1
      exact ⟨after, obeys.2 _ after shown, seen⟩
  | pause nanos next => exact ⟨view, obeys, seen⟩
  | crash => exact obeys.elim

end Program

end AlertRelay
