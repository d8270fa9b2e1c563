import AlertRelay.Delivery.Redelivery
import AlertRelay.Proofs.Relay.Unit
import Mathlib.Data.List.Chain

/-!
# The course of a partition

What matters of a consumer to one partition for one group (`Course`): what is committed, where the
partition is read next, which of its records are on their way to the worker, and how far that worker
has come with the one it holds. `Course.Next` lists all that can happen to it.

Two invariants carry everything. `Course.Floor` says that nothing at or below the committed offset
is admitted; it holds whatever happens. `Course.Linked` says that, as long as the worker goes on,
the records on their way follow each other without a gap, up to those that are dropped anyway. It
needs assignments to change in order, since a partition that is assigned anew has to be read again
from the committed offset or before it (`Course.Withdrawn`). Together they make a commit the
successor of the one before.
-/

namespace AlertRelay

/-- The offset of a record on its way to a worker, and the assignment it was fetched under. -/
structure Tag where
  offset : Int
  generation : Nat

/-- The tag of a delivery. -/
def Delivery.tag (d : Delivery) : Tag := ⟨d.record.offset, d.generation⟩

/-- Whether a record was fetched before its partition was rewound. -/
def Rewind.Outdates (w : Rewind) (a : Tag) : Prop :=
  a.generation = w.generation ∧ w.offset < a.offset

/-- A delivery is dropped as stale just if it was fetched before its partition was rewound. -/
theorem Rewind.makesStale_iff {w : Rewind} {d : Delivery} :
    w.makesStale d = true ↔ w.Outdates d.tag := by
  unfold Rewind.makesStale
  rw [Bool.and_eq_true, beq_iff_eq, decide_eq_true_iff]
  exact Iff.rfl

/-- A partition as a consumer deals with it for a group. -/
structure Course where
  /-- The offset from which the group goes on. -/
  committed : Int
  /-- What the ledger of the run knows. -/
  ledger : Option Int
  /-- Where the partition is read next, if it is assigned. -/
  positions : List Int
  generation : Nat
  /-- How many new assignments have begun that do not count yet. -/
  halfway : Nat
  /-- The records on their way to the worker, the next one first. -/
  upcoming : List Tag
  /-- The record that the worker works on, and how far it has come. -/
  hold : Option (Tag × Standing)
  awaited : Option Rewind
  /-- Whether the worker still works on what it is given. -/
  alive : Bool

namespace Course

/-- Whether the offset of the record that is held is committed and not yet in the ledger. -/
def Midway (c : Course) : Prop := ∃ a t, c.hold = some (a, .committed t)

/-- What can happen to a partition. Only where the order of assignments is given up does a poll fall
into the middle of a new assignment, or a record change its assignment on the way. -/
inductive Next (orderly : Prop) (c : Course) : Course → Prop where
  | stay : Next orderly c c
  | fetch (p : Int) (positions : List Int) (here : p ∈ c.positions)
      (moved : ∀ q ∈ positions, q = p + 1) (whole : orderly → c.halfway = 0) :
      Next orderly c
        { c with positions := positions, upcoming := c.upcoming ++ [⟨p, c.generation⟩] }
  | accept (a : Tag) (rest : List Tag) (next : c.upcoming = a :: rest) (free : c.hold = none)
      (alive : c.alive = true) (fresh : ∀ w, c.awaited = some w → ¬w.Outdates a) :
      Next orderly c { c with upcoming := rest, hold := some (a, .entered), awaited := none }
  | drop (a : Tag) (rest : List Tag) (w : Rewind) (next : c.upcoming = a :: rest)
      (free : c.hold = none) (awaits : c.awaited = some w) (stale : w.Outdates a) :
      Next orderly c { c with upcoming := rest }
  | lose (rest : List Tag) (fewer : rest ⊆ c.upcoming) (dead : c.alive = false) :
      Next orderly c { c with upcoming := rest }
  | pass (a : Tag) (holds : c.hold = some (a, .entered))
      (ahead : ∀ last, c.ledger = some last → last < a.offset + 1) :
      Next orderly c { c with hold := some (a, .admitted) }
  | refuse (a : Tag) (last : Int) (holds : c.hold = some (a, .entered))
      (knows : c.ledger = some last) (behind : a.offset + 1 ≤ last) :
      Next orderly c { c with hold := some (a, .refused) }
  | commit (a : Tag) (t : Transaction) (holds : c.hold = some (a, .admitted)) :
      Next orderly c { c with committed := a.offset + 1, hold := some (a, .committed t) }
  | record (a : Tag) (t : Transaction) (ledger : Option Int)
      (holds : c.hold = some (a, .committed t))
      (noted : (∀ last, c.ledger = some last → last < a.offset + 1) →
        ledger = some (a.offset + 1)) :
      Next orderly c { c with ledger := ledger, hold := some (a, .recorded t) }
  | finish (a : Tag) (standing : Standing) (holds : c.hold = some (a, standing))
      (ended : standing = .refused ∨ ∃ t, standing = .recorded t) :
      Next orderly c { c with hold := none }
  /-- The work on the record begins anew, or is given up. -/
  | again (a : Tag) (standing : Standing) (holds : c.hold = some (a, standing))
      (whole : ∀ t, standing ≠ .committed t) :
      Next orderly c { c with hold := some (a, .entered) }
  | rewind (a : Tag) (positions : List Int) (holds : c.hold = some (a, .admitted))
      (moved : ∀ q ∈ positions, q = a.offset) :
      Next orderly c { c with
        positions := positions, hold := none, awaited := some ⟨a.offset, a.generation⟩ }
  | fail (a : Tag) (positions : List Int) (holds : c.hold = some (a, .entered))
      (moved : ∀ q ∈ positions, q = a.offset ∨ q ∈ c.positions) :
      Next orderly c { c with positions := positions, hold := none, alive := false }
  | die : Next orderly c { c with alive := false }
  /-- The partition is assigned anew, or a new assignment begins. -/
  | reset (positions : List Int) (generation halfway : Nat)
      (moved : ∀ q ∈ positions, q = c.committed) :
      Next orderly c { c with
        positions := positions, generation := generation, halfway := halfway }
  /-- A new assignment that has begun counts. -/
  | renew (begun : 0 < c.halfway) :
      Next orderly c { c with generation := c.generation + 1, halfway := c.halfway - 1 }
  | scatter (positions : List Int) (generation halfway : Nat) (upcoming : List Tag)
      (moved : ∀ q ∈ positions, q = c.committed ∨ q ∈ c.positions)
      (same : upcoming.map Tag.offset = c.upcoming.map Tag.offset) (disorder : ¬orderly) :
      Next orderly c { c with
        positions := positions, generation := generation, halfway := halfway
        upcoming := upcoming }

/-! ## What is never admitted -/

/-- The offsets of all that may be worked on sooner or later. -/
def ahead (c : Course) : List Int :=
  (c.hold.map fun held => held.1.offset).toList ++ c.upcoming.map Tag.offset ++ c.positions

/-- What the standing of a record says of its offset. -/
def Agrees (c : Course) (a : Tag) : Standing → Prop
  | .entered => True
  | .refused => a.offset < c.committed
  | .admitted => c.committed ≤ a.offset
  | .committed _ =>
    c.committed = a.offset + 1 ∧ ∀ last, c.ledger = some last → last ≤ a.offset
  | .recorded _ => c.committed = a.offset + 1

/-- The ledger knows what is committed, unless nothing was committed in its time; then nothing that
is committed comes up again. -/
structure Floor (c : Course) : Prop where
  known : ∀ last, c.ledger = some last → ¬c.Midway → last = c.committed
  above : c.ledger = none → ¬c.Midway → ∀ offset ∈ c.ahead, c.committed ≤ offset
  held : ∀ a standing, c.hold = some (a, standing) → c.Agrees a standing

variable {c next : Course} {orderly : Prop}

/-- What lies ahead is held, on its way, or read next. -/
theorem mem_ahead {offset : Int} : offset ∈ c.ahead ↔
    (∃ a standing, c.hold = some (a, standing) ∧ a.offset = offset) ∨
      (∃ a ∈ c.upcoming, a.offset = offset) ∨ offset ∈ c.positions := by
  unfold Course.ahead
  simp only [List.mem_append, Option.mem_toList, Option.map_eq_some_iff, List.mem_map, or_assoc,
    Prod.exists]

/-- A worker that is not midway with one record is not midway at all. -/
theorem not_midway {held : Option (Tag × Standing)} (holds : c.hold = held)
    (other : ∀ a t, held ≠ some (a, .committed t)) : ¬c.Midway := by
  rintro ⟨a, t, same⟩
  exact other a t (holds.symm.trans same)

/-- What is neither a commit nor noted in the ledger keeps the floor, if nothing comes up that lies
below the committed offset and below all that was there. -/
theorem Floor.onward (floor : c.Floor) (committed : next.committed = c.committed)
    (ledger : next.ledger = c.ledger) (midway : c.Midway → next.Midway)
    (higher : ∀ offset ∈ next.ahead, c.committed ≤ offset ∨ ∃ lower ∈ c.ahead, lower ≤ offset)
    (held : ∀ a standing, next.hold = some (a, standing) → next.Agrees a standing) :
    next.Floor where
  known last knows settled := by
    rw [committed]
    exact floor.known last (ledger ▸ knows) fun before => settled (midway before)
  above knows settled offset comes := by
    rw [committed]
    have above := floor.above (ledger ▸ knows) fun before => settled (midway before)
    rcases higher offset comes with already | ⟨lower, there, least⟩
    · exact already
    · exact Int.le_trans (above lower there) least
  held := held

/-- If less lies ahead and nothing is committed, nothing that is committed comes up again. -/
theorem Floor.narrow (floor : c.Floor) (committed : next.committed = c.committed)
    (ledger : next.ledger = c.ledger) (midway : c.Midway → next.Midway)
    (fewer : next.ahead ⊆ c.ahead)
    (held : ∀ a standing, next.hold = some (a, standing) → next.Agrees a standing) :
    next.Floor :=
  floor.onward committed ledger midway
    (fun offset comes => .inr ⟨offset, fewer comes, Int.le_refl offset⟩) held

theorem ahead_upcoming_subset {rest : List Tag} (fewer : rest ⊆ c.upcoming) :
    ({ c with upcoming := rest } : Course).ahead ⊆ c.ahead := by
  intro offset comes
  rcases mem_ahead.mp comes with held | ⟨b, coming, same⟩ | read
  · exact mem_ahead.mpr (.inl held)
  · exact mem_ahead.mpr (.inr (.inl ⟨b, fewer coming, same⟩))
  · exact mem_ahead.mpr (.inr (.inr read))

/-- A record that is held may go on to another standing that fits its offset. -/
theorem Floor.restand {a : Tag} {before standing : Standing} (floor : c.Floor)
    (holds : c.hold = some (a, before)) (whole : ∀ t, before ≠ .committed t)
    (agrees : c.Agrees a standing) :
    ({ c with hold := some (a, standing) } : Course).Floor := by
  have settled : ¬c.Midway := not_midway holds fun b t same => by
    cases same
    exact whole t rfl
  refine floor.narrow rfl rfl (fun midway => (settled midway).elim) ?_ ?_
  · unfold Course.ahead
    rw [holds]
    exact List.Subset.refl _
  · rintro b _ held
    cases held
    exact agrees

/-- A record that is held may be given up, with its partition to be read from there again. -/
theorem Floor.release {a : Tag} {before : Standing} {positions : List Int}
    {awaited : Option Rewind} {alive : Bool} (floor : c.Floor)
    (holds : c.hold = some (a, before)) (whole : ∀ t, before ≠ .committed t)
    (moved : ∀ q ∈ positions, q = a.offset ∨ q ∈ c.positions) :
    ({ c with positions := positions, hold := none, awaited := awaited, alive := alive } :
      Course).Floor := by
  have settled : ¬c.Midway := not_midway holds fun b t same => by
    cases same
    exact whole t rfl
  refine floor.narrow rfl rfl (fun midway => (settled midway).elim) ?_ ?_
  · intro offset comes
    rcases mem_ahead.mp comes with ⟨_, _, held, _⟩ | coming | read
    · cases held
    · exact mem_ahead.mpr (.inr (.inl coming))
    · rcases moved offset read with back | stays
      · exact mem_ahead.mpr (.inl ⟨a, before, holds, back.symm⟩)
      · exact mem_ahead.mpr (.inr (.inr stays))
  · rintro b _ held
    cases held

/-- Whatever happens, the floor holds. -/
theorem Next.floor (happens : Next orderly c next) (floor : c.Floor) : next.Floor := by
  cases happens with
  | stay => exact floor
  | fetch p positions here moved whole =>
      refine floor.onward rfl rfl id (fun offset comes => .inr ?_) floor.held
      rcases mem_ahead.mp comes with held | ⟨a, coming, same⟩ | read
      · exact ⟨offset, mem_ahead.mpr (.inl held), Int.le_refl offset⟩
      · rcases List.mem_append.mp coming with before | new
        · exact ⟨offset, mem_ahead.mpr (.inr (.inl ⟨a, before, same⟩)), Int.le_refl offset⟩
        · cases List.mem_singleton.mp new
          exact ⟨p, mem_ahead.mpr (.inr (.inr here)), Int.le_of_eq same⟩
      · exact ⟨p, mem_ahead.mpr (.inr (.inr here)), by rw [moved offset read]; omega⟩
  | accept a rest next free alive fresh =>
      have settled : ¬c.Midway := not_midway free fun _ _ same => by cases same
      refine floor.narrow rfl rfl (fun midway => (settled midway).elim) ?_ ?_
      · intro offset comes
        rcases mem_ahead.mp comes with ⟨b, _, held, same⟩ | ⟨b, coming, same⟩ | read
        · cases held
          exact mem_ahead.mpr (.inr (.inl ⟨a, next ▸ List.mem_cons_self, same⟩))
        · exact mem_ahead.mpr (.inr (.inl ⟨b, next ▸ List.mem_cons_of_mem a coming, same⟩))
        · exact mem_ahead.mpr (.inr (.inr read))
      · rintro b standing held
        cases held
        trivial
  | drop a rest w next free awaits stale =>
      have fewer : rest ⊆ c.upcoming := next ▸ List.subset_cons_self a rest
      exact floor.narrow rfl rfl id (ahead_upcoming_subset fewer) floor.held
  | lose rest fewer dead =>
      exact floor.narrow rfl rfl id (ahead_upcoming_subset fewer) floor.held
  | pass a holds ahead =>
      refine floor.restand holds (fun _ same => by cases same) ?_
      have settled : ¬c.Midway := not_midway holds fun _ _ same => by cases same
      change c.committed ≤ a.offset
      cases knows : c.ledger with
      | none => exact floor.above knows settled a.offset (mem_ahead.mpr (.inl ⟨a, _, holds, rfl⟩))
      | some last =>
          have := floor.known last knows settled
          have := ahead last knows
          omega
  | refuse a last holds knows behind =>
      refine floor.restand holds (fun _ same => by cases same) ?_
      have := floor.known last knows (not_midway holds fun _ _ same => by cases same)
      change a.offset < c.committed
      omega
  | commit a t holds =>
      have settled : ¬c.Midway := not_midway holds fun _ _ same => by cases same
      have least : c.committed ≤ a.offset := floor.held a _ holds
      refine ⟨fun _ _ settled => (settled ⟨a, t, rfl⟩).elim,
        fun _ settled => (settled ⟨a, t, rfl⟩).elim, fun b standing held => ?_⟩
      cases held
      refine ⟨rfl, fun last knows => ?_⟩
      rw [floor.known last knows settled]
      exact least
  | record a t ledger holds noted =>
      obtain ⟨here, below⟩ : c.committed = a.offset + 1 ∧
        ∀ last, c.ledger = some last → last ≤ a.offset := floor.held a _ holds
      have knows : ledger = some (a.offset + 1) := noted fun last before => by
        have := below last before
        omega
      subst knows
      refine ⟨fun last knows _ => ?_, fun knows => (by cases knows), fun b standing held => ?_⟩
      · cases knows
        exact here.symm
      · cases held
        exact here
  | finish a standing holds ended =>
      have kept : ∀ q ∈ c.positions, q = a.offset ∨ q ∈ c.positions := fun q read => .inr read
      refine floor.release holds ?_ kept
      rintro t rfl
      rcases ended with same | ⟨_, same⟩
      · cases same
      · cases same
  | again a standing holds whole => exact floor.restand holds whole trivial
  | rewind a positions holds moved =>
      exact floor.release holds (fun _ same => by cases same) fun q read => .inl (moved q read)
  | fail a positions holds moved =>
      exact floor.release holds (fun _ same => by cases same) moved
  | die | renew begun => exact floor.narrow rfl rfl id (List.Subset.refl _) floor.held
  | reset positions generation halfway moved =>
      refine floor.onward rfl rfl id (fun offset comes => ?_) floor.held
      rcases mem_ahead.mp comes with held | coming | read
      · exact .inr ⟨offset, mem_ahead.mpr (.inl held), Int.le_refl offset⟩
      · exact .inr ⟨offset, mem_ahead.mpr (.inr (.inl coming)), Int.le_refl offset⟩
      · exact .inl (Int.le_of_eq (moved offset read).symm)
  | scatter positions generation halfway upcoming moved same disorder =>
      refine floor.onward rfl rfl id (fun offset comes => ?_) floor.held
      rcases mem_ahead.mp comes with held | ⟨a, coming, at_⟩ | read
      · exact .inr ⟨offset, mem_ahead.mpr (.inl held), Int.le_refl offset⟩
      · have there : offset ∈ c.upcoming.map Tag.offset := same ▸ List.mem_map.mpr ⟨a, coming, at_⟩
        exact .inr ⟨offset, mem_ahead.mpr (.inr (.inl (List.mem_map.mp there))), Int.le_refl offset⟩
      · rcases moved offset read with back | stays
        · exact .inl (Int.le_of_eq back.symm)
        · exact .inr ⟨offset, mem_ahead.mpr (.inr (.inr stays)), Int.le_refl offset⟩

/-! ## What follows without a gap -/

/-- Whether a record after another is committed already, or was fetched right behind it or further
back. -/
def Follows (committed : Int) (a b : Tag) : Prop :=
  b.offset ≤ committed ∨ b.generation = a.generation ∧ b.offset ≤ a.offset + 1

/-- Whether the first of some records that will not be dropped leaves no gap behind the committed
offset. -/
def Ready (committed : Int) (awaited : Option Rewind) : List Tag → Prop
  | [] => True
  | a :: rest =>
    ((∀ w, awaited = some w → ¬w.Outdates a) → a.offset ≤ committed) ∧
      ∀ w, awaited = some w → w.Outdates a → Ready committed awaited rest

/-- Whether records that come to the worker in this order leave no gap. -/
def Line (c : Course) (line : List Tag) : Prop :=
  match c.hold with
  | none => line.IsChain (Follows c.committed) ∧ Ready c.committed c.awaited line
  | some (a, _) => c.awaited = none ∧ (a :: line).IsChain (Follows c.committed)

/-- What a poll may add to the records that are on their way. -/
def Tail (c : Course) (tail : List Tag) : Prop :=
  tail = [] ∨ ∃ p ∈ c.positions, tail = [⟨p, c.generation⟩]

/-- As long as the worker goes on, what comes to it leaves no gap, whatever is fetched next. -/
structure Linked (c : Course) : Prop where
  atop : ∀ a standing, c.hold = some (a, standing) → standing = .entered ∨ standing = .admitted →
    a.offset ≤ c.committed
  line : c.alive = true → ∀ tail, c.Tail tail → c.Line (c.upcoming ++ tail)

/-- The more is committed, the more may follow. -/
theorem Follows.mono {low high : Int} {a b : Tag} (least : low ≤ high) (follows : Follows low a b) :
    Follows high a b :=
  follows.imp_left fun done => Int.le_trans done least

/-- A line without gaps stays one if what is added follows its last record. -/
theorem isChain_concat {committed : Int} {line : List Tag} {b : Tag}
    (chain : line.IsChain (Follows committed))
    (follows : ∀ a ∈ line.getLast?, Follows committed a b) :
    (line ++ [b]).IsChain (Follows committed) := by
  refine List.isChain_append.mpr ⟨chain, List.isChain_singleton b, fun a last other first => ?_⟩
  cases first
  exact follows a last

/-- A record that is committed already makes no gap at the end of a line. -/
theorem Ready.low {committed : Int} {awaited : Option Rewind} {line : List Tag} {b : Tag}
    (ready : Ready committed awaited line) (done : b.offset ≤ committed) :
    Ready committed awaited (line ++ [b]) := by
  induction line with
  | nil => exact ⟨fun _ => done, fun _ _ _ => trivial⟩
  | cons a rest ih => exact ⟨ready.1, fun w awaits stale => ih (ready.2 w awaits stale)⟩

/-- A record leaves no gap if it is fetched behind one that leaves none. -/
theorem Ready.grow {committed : Int} {awaited : Option Rewind} {line : List Tag} {a b : Tag}
    (ready : Ready committed awaited (line ++ [a])) (generation : b.generation = a.generation)
    (behind : a.offset ≤ b.offset) : Ready committed awaited (line ++ [a] ++ [b]) := by
  induction line with
  | nil =>
      refine ⟨ready.1, fun w awaits stale => ⟨fun fresh => ?_, fun _ _ _ => trivial⟩⟩
      exact (fresh w awaits ⟨generation.trans stale.1, Int.lt_of_lt_of_le stale.2 behind⟩).elim
  | cons first rest ih => exact ⟨ready.1, fun w awaits stale => ih (ready.2 w awaits stale)⟩

/-- After a rewind, the records that were fetched behind the rewound one are dropped, up to one that
is committed. -/
theorem ready_of_rewind {committed : Int} {w : Rewind} {a : Tag} {line : List Tag}
    (generation : a.generation = w.generation) (done : w.offset ≤ committed)
    (chain : (a :: line).IsChain (Follows committed)) : Ready committed (some w) line := by
  induction line generalizing a with
  | nil => trivial
  | cons b rest ih =>
      obtain ⟨follows, chain⟩ := List.isChain_cons_cons.mp chain
      refine ⟨fun fresh => ?_, fun other same stale => ?_⟩
      · rcases follows with already | ⟨same, _⟩
        · exact already
        · have kept : ¬(w.offset < b.offset) := fun later =>
            fresh w rfl ⟨same.trans generation, later⟩
          omega
      · cases same
        exact ih stale.1 chain

/-- A record that is committed already may be added to a line. -/
theorem Line.low {line : List Tag} {b : Tag} (linked : c.Line line)
    (done : b.offset ≤ c.committed) : c.Line (line ++ [b]) := by
  unfold Course.Line at linked ⊢
  split at linked
  · exact ⟨isChain_concat linked.1 fun _ _ => .inl done, linked.2.low done⟩
  · exact ⟨linked.1, isChain_concat linked.2 fun _ _ => .inl done⟩

/-- The record behind the last one may be added to a line. -/
theorem Line.grow {line : List Tag} {p : Int} {generation : Nat}
    (linked : c.Line (line ++ [⟨p, generation⟩])) :
    c.Line (line ++ [⟨p, generation⟩] ++ [⟨p + 1, generation⟩]) := by
  have next : Follows c.committed ⟨p, generation⟩ ⟨p + 1, generation⟩ :=
    .inr ⟨rfl, Int.le_refl (p + 1)⟩
  unfold Course.Line at linked ⊢
  split at linked
  · refine ⟨isChain_concat linked.1 fun a last => ?_, linked.2.grow rfl (by dsimp only; omega)⟩
    rw [List.getLast?_concat] at last
    cases last
    exact next
  · refine ⟨linked.1, isChain_concat linked.2 fun a last => ?_⟩
    rw [← List.cons_append, List.getLast?_concat] at last
    cases last
    exact next

/-- What follows a record that is committed leaves no gap. -/
theorem Line.free {line : List Tag} {a : Tag} {standing : Standing}
    (holds : c.hold = some (a, standing)) (linked : c.Line line) (done : a.offset < c.committed) :
    ({ c with hold := none } : Course).Line line := by
  unfold Course.Line at linked
  rw [holds] at linked
  obtain ⟨free, chain⟩ := linked
  refine ⟨chain.tail, ?_⟩
  rw [free]
  cases line with
  | nil => trivial
  | cons b rest =>
      refine ⟨fun _ => ?_, fun w awaits => (by cases awaits)⟩
      rcases (List.isChain_cons_cons.mp chain).1 with already | ⟨_, next⟩
      · exact already
      · dsimp only
        omega

/-- A line has no gap either when more is committed and the record that is held goes on. -/
theorem Line.restand {line : List Tag} {a : Tag} {before standing : Standing} {committed : Int}
    (holds : c.hold = some (a, before)) (linked : c.Line line) (least : c.committed ≤ committed) :
    ({ c with committed := committed, hold := some (a, standing) } : Course).Line line := by
  unfold Course.Line at linked
  rw [holds] at linked
  exact ⟨linked.1, linked.2.imp fun _ _ => Follows.mono least⟩

/-- A new assignment leaves no gap if the partition is read again from the committed offset or
before it. -/
theorem Linked.turn {positions : List Int} {generation halfway : Nat} (linked : c.Linked)
    (back : ∀ q ∈ positions, q ≤ c.committed) :
    ({ c with positions := positions, generation := generation, halfway := halfway } :
      Course).Linked := by
  refine ⟨linked.atop, fun alive tail follows => ?_⟩
  have line := linked.line alive [] (.inl rfl)
  rw [List.append_nil] at line
  rcases follows with rfl | ⟨q, read, rfl⟩
  · rw [List.append_nil]
    exact line
  · exact Line.low (c := { c with positions := positions, generation := _, halfway := _ }) line
      (back q read)

/-- Whether a partition, while a new assignment does not count yet, is to be read again from the
committed offset or before it. -/
def Withdrawn (c : Course) : Prop := 0 < c.halfway → ∀ p ∈ c.positions, p ≤ c.committed

/-- As long as no poll falls into the middle of a new assignment, a partition stays withdrawn. -/
theorem Next.withdrawn (happens : Next orderly c next) (order : orderly) (floor : c.Floor)
    (linked : c.Linked) (withdrawn : c.Withdrawn) : next.Withdrawn := by
  cases happens with
  | fetch p positions here moved whole =>
      intro begun
      have := whole order
      dsimp only at begun
      omega
  | commit a t holds =>
      intro begun p read
      have least : c.committed ≤ a.offset := floor.held a _ holds
      have behind : p ≤ c.committed := withdrawn begun p read
      dsimp only
      omega
  | rewind a positions holds moved =>
      intro begun p read
      rw [moved p read]
      exact linked.atop a _ holds (.inr rfl)
  | fail a positions holds moved =>
      intro begun p read
      rcases moved p read with rfl | stays
      · exact linked.atop a _ holds (.inl rfl)
      · exact withdrawn begun p stays
  | reset positions generation halfway moved => exact fun _ p read => Int.le_of_eq (moved p read)
  | renew begun => exact fun _ => withdrawn begun
  | scatter positions generation halfway upcoming moved same disorder => exact (disorder order).elim
  | _ => exact withdrawn

/-- As long as assignments change in order, nothing that happens leaves a gap. -/
theorem Next.linked (happens : Next orderly c next) (order : orderly) (floor : c.Floor)
    (withdrawn : c.Withdrawn) (linked : c.Linked) : next.Linked := by
  have restand : ∀ {a before} (standing) {committed : Int}, c.hold = some (a, before) →
      c.committed ≤ committed → c.alive = true → ∀ tail, c.Tail tail →
        ({ c with committed := committed, hold := some (a, standing) } : Course).Line
          (c.upcoming ++ tail) :=
    fun _ _ holds least alive tail follows => (linked.line alive tail follows).restand holds least
  cases happens with
  | stay => exact linked
  | fetch p positions here moved whole =>
      refine ⟨linked.atop, fun alive tail follows => ?_⟩
      have line := linked.line alive [⟨p, c.generation⟩] (.inr ⟨p, here, rfl⟩)
      rcases follows with rfl | ⟨q, read, rfl⟩
      · rw [List.append_nil]
        exact line
      · rw [moved q read]
        exact line.grow
  | accept a rest next free alive fresh =>
      have line := linked.line alive
      unfold Course.Line at line
      rw [free, next] at line
      refine ⟨?_, fun _ tail follows => ⟨rfl, (line tail follows).1⟩⟩
      rintro b standing held _
      cases held
      exact (line [] (.inl rfl)).2.1 fresh
  | drop a rest w next free awaits stale =>
      refine ⟨linked.atop, fun alive tail follows => ?_⟩
      have line := linked.line alive tail follows
      unfold Course.Line at line ⊢
      rw [free, next] at line
      rw [free]
      exact ⟨line.1.tail, line.2.2 w awaits stale⟩
  | lose rest fewer dead =>
      refine ⟨linked.atop, fun alive => ?_⟩
      rw [show c.alive = true from alive] at dead
      cases dead
  | pass a holds ahead =>
      refine ⟨fun b standing held _ => ?_, restand _ holds (Int.le_refl _)⟩
      cases held
      exact linked.atop a _ holds (.inl rfl)
  | refuse a last holds knows behind =>
      refine ⟨fun b standing held which => ?_, restand _ holds (Int.le_refl _)⟩
      cases held
      rcases which with same | same <;> cases same
  | commit a t holds =>
      have least : c.committed ≤ a.offset := floor.held a _ holds
      refine ⟨fun b standing held which => ?_, restand _ holds (by omega)⟩
      cases held
      rcases which with same | same <;> cases same
  | record a t ledger holds noted =>
      refine ⟨fun b standing held which => ?_, restand (.recorded t) holds (Int.le_refl _)⟩
      cases held
      rcases which with same | same <;> cases same
  | finish a standing holds ended =>
      have done : a.offset < c.committed := by
        rcases ended with rfl | ⟨t, rfl⟩
        · exact floor.held a _ holds
        · have : c.committed = a.offset + 1 := floor.held a _ holds
          omega
      exact ⟨fun b standing held => (by cases held),
        fun alive tail follows => (linked.line alive tail follows).free holds done⟩
  | again a standing holds whole =>
      refine ⟨fun b other held _ => ?_, restand _ holds (Int.le_refl _)⟩
      cases held
      have agrees := floor.held a _ holds
      cases standing with
      | entered => exact linked.atop a _ holds (.inl rfl)
      | admitted => exact linked.atop a _ holds (.inr rfl)
      | refused => exact Int.le_of_lt agrees
      | committed t => exact (whole t rfl).elim
      | recorded t =>
          have : c.committed = a.offset + 1 := agrees
          dsimp only
          omega
  | rewind a positions holds moved =>
      have done : a.offset ≤ c.committed := linked.atop a _ holds (.inr rfl)
      refine ⟨fun b standing held => (by cases held), fun alive tail follows => ?_⟩
      have line := linked.line alive [] (.inl rfl)
      unfold Course.Line at line
      rw [holds, List.append_nil] at line
      have begun : ({ c with
          positions := positions, hold := none, awaited := some ⟨a.offset, a.generation⟩ } :
            Course).Line c.upcoming :=
        ⟨line.2.tail, ready_of_rewind rfl done line.2⟩
      rcases follows with rfl | ⟨q, read, rfl⟩
      · rw [List.append_nil]
        exact begun
      · refine begun.low ?_
        rw [moved q read]
        exact done
  | fail a positions holds moved =>
      exact ⟨fun b standing held => (by cases held), fun alive => (by cases alive)⟩
  | die => exact ⟨linked.atop, fun alive => (by cases alive)⟩
  | reset positions generation halfway moved =>
      exact linked.turn fun q read => Int.le_of_eq (moved q read)
  | renew begun => exact linked.turn fun q read => withdrawn begun q read
  | scatter positions generation halfway upcoming moved same disorder => exact (disorder order).elim

/-! ## A fresh course -/

/-- Whether a run has only begun: the partition is read from the committed offset on. -/
structure Fresh (c : Course) : Prop where
  ledger : c.ledger = none
  positions : ∀ p ∈ c.positions, p = c.committed
  halfway : c.halfway = 0
  upcoming : c.upcoming = []
  hold : c.hold = none

/-- Nothing that is committed comes up in a partition that is read from the committed offset on. -/
theorem Fresh.floor (fresh : c.Fresh) : c.Floor where
  known last knows := by
    rw [fresh.ledger] at knows
    cases knows
  above _ _ offset comes := by
    rcases mem_ahead.mp comes with ⟨_, _, held, _⟩ | ⟨_, coming, _⟩ | read
    · rw [fresh.hold] at held
      cases held
    · rw [fresh.upcoming] at coming
      cases coming
    · exact Int.le_of_eq (fresh.positions offset read).symm
  held a standing held := by
    rw [fresh.hold] at held
    cases held

/-- A partition that is read from the committed offset on is read again from there. -/
theorem Fresh.withdrawn (fresh : c.Fresh) : c.Withdrawn := by
  intro begun
  rw [fresh.halfway] at begun
  exact (Nat.lt_irrefl 0 begun).elim

/-- A partition that is read from the committed offset on begins without a gap. -/
theorem Fresh.linked (fresh : c.Fresh) : c.Linked where
  atop a standing held := by
    rw [fresh.hold] at held
    cases held
  line alive tail follows := by
    have begun : c.Line [] := by
      unfold Course.Line
      rw [fresh.hold]
      exact ⟨.nil, trivial⟩
    rw [fresh.upcoming]
    rcases follows with rfl | ⟨p, read, rfl⟩
    · exact begun
    · exact begun.low (Int.le_of_eq (fresh.positions p read))

end Course

end AlertRelay
