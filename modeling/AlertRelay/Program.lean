/-!
# Programs

A program asks its surroundings for one thing after the other and goes on with each reply, pauses,
or crashes. It is a value: what surrounds it decides what its calls do, and programs of several
workers can be stepped in any order.
-/

namespace AlertRelay

/-- What a program may ask for, and what it gets in reply. -/
structure Interface where
  Call : Type
  Reply : Call → Type

/-- A program that ends with a value. -/
inductive Program (I : Interface) (α : Type) where
  | done (value : α)
  | call (request : I.Call) (next : I.Reply request → Program I α)
  | pause (nanos : Nat) (next : Program I α)
  /-- The program breaks off and never ends. -/
  | crash

/-- What replies to the calls of a program and lets time pass. -/
structure Surroundings (I : Interface) (ω : Type) where
  reply : (request : I.Call) → ω → I.Reply request × ω
  wait : Nat → ω → ω

namespace Program

variable {I : Interface} {α β ω : Type}

/-- The milliseconds that a pause takes: it ends with the millisecond in which it is over. -/
def wholeMillis (nanos : Nat) : Nat := (nanos + 999999) / 1000000

/-- Goes on with the value of a program. -/
def bind : Program I α → (α → Program I β) → Program I β
  | done a, f => f a
  | call request next, f => call request fun reply => (next reply).bind f
  | pause nanos next, f => pause nanos (next.bind f)
  | crash, _ => crash

instance : Monad (Program I) where
  pure := done
  bind := bind

/-- The program that makes one call. -/
def perform (request : I.Call) : Program I (I.Reply request) := call request done

/-- The program that only pauses. -/
def wait (nanos : Nat) : Program I Unit := pause nanos (done ())

/-- Runs a program by itself. It gives nothing if it crashes. -/
def run (s : Surroundings I ω) : Program I α → ω → Option α × ω
  | done a, w => (some a, w)
  | call request next, w =>
    let (reply, w) := s.reply request w
    (next reply).run s w
  | pause nanos next, w => next.run s (s.wait nanos w)
  | crash, w => (none, w)

@[simp] theorem pure_eq (a : α) : (pure a : Program I α) = done a := rfl

@[simp] theorem done_bind (a : α) (f : α → Program I β) : (done a >>= f) = f a := rfl

@[simp] theorem call_bind (request : I.Call) (next : I.Reply request → Program I α)
    (f : α → Program I β) : (call request next >>= f) = call request fun r => next r >>= f := rfl

@[simp] theorem pause_bind (nanos : Nat) (next : Program I α) (f : α → Program I β) :
    (pause nanos next >>= f) = pause nanos (next >>= f) := rfl

/-- What follows a program runs on from where the program ends. -/
theorem run_bind (s : Surroundings I ω) (p : Program I α) (f : α → Program I β) (w : ω) :
    (p >>= f).run s w =
      match p.run s w with
      | (some a, w) => (f a).run s w
      | (none, w) => (none, w) := by
  induction p generalizing w with
  | done a => rfl
  | call request next ih => exact ih _ _
  | pause nanos next ih => exact ih _
  | crash => rfl

end Program

end AlertRelay
