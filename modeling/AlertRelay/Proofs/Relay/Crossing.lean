import AlertRelay.Proofs.Relay.Disturbance
import AlertRelay.Proofs.Relay.Singular
import Mathlib.Control.Monad.Basic

/-!
# Two emissions of one event

Two workers emit an alert of the same event into one store, one call after the other in any order
(`Crossing`). The row that one of them has found may be the row that the other takes out again when
it cannot publish. That is the only way in which an alert can be published whose row is gone
(`Crossing.row_iff_not_lost`), and it does happen (`Crossing.row_lost`).
-/

namespace AlertRelay

/-- What a program has ended with. -/
def Program.value? {I : Interface} {α : Type} : Program I α → Option α
  | .done a => some a
  | _ => none

/-- A program that obeys has ended as it should if it has ended. -/
theorem Program.Obeys.of_value {I : Interface} {α σ : Type} {D : Discipline I σ}
    {ends : α → σ → Prop} {p : Program I α} {view : σ} {a : α} (obeys : p.Obeys D ends view)
    (value : p.value? = some a) : ends a view := by
  cases p with
  | done b =>
      cases value
      exact obeys
  | call | pause | crash => cases value

/-- Two emissions in the same world. -/
structure Crossing where
  world : World
  left : RelayProgram (Except BrokerError Emission)
  right : RelayProgram (Except BrokerError Emission)

namespace Crossing

/-- What happens next. -/
inductive Move where
  | left
  | right
  | disturb (d : Disturbance)

/-- One step of one emission, or a disturbance around both. -/
def step (i j : Nat) (c : Crossing) : Move → Crossing
  | .left =>
    let (left, world) := c.left.advance (World.reply i) c.world
    { c with world := world, left := left }
  | .right =>
    let (right, world) := c.right.advance (World.reply j) c.world
    { c with world := world, right := right }
  | .disturb d => { c with world := d.apply c.world }

/-- The emissions of two workers before their first steps. -/
def start (s : RelaySettings) (w : World) (e e' : Enrichment) : Crossing := ⟨w, e.emit s, e'.emit s⟩

/-- Two emissions after some moves. -/
def run (s : RelaySettings) (w : World) (e e' : Enrichment) (i j : Nat) (moves : List Move) :
    Crossing :=
  moves.foldl (Crossing.step i j) (start s w e e')

/-- What one worker knows of the row of an event, beside another one. -/
structure Sees (id : String) (rows : Table String Alert) (v other : OnceView) : Prop where
  event : v.event = some id
  stored : v.row = .stored → rows.contains id = true ∧ other.row ≠ .stored
  found : v.row = .found → rows.contains id = true ∨ other.row = .removed
  removed : v.row = .removed → rows.contains id = false ∨ other.row = .stored

variable {s : RelaySettings} {names : String → Prop} {id : String} {rows : Table String Alert}
  {v other : OnceView}

/-- What one worker does to the row, as both see it afterwards. -/
theorem Sees.note (own : Sees id rows v other) (others : Sees id rows other v)
    {request : RelayCall} {reply : request.Reply} (allowed : s.AllowsOnce names v request)
    (tells : request.Tells rows reply) :
    Sees id (request.rowsAfter rows reply) (v.note request reply) other ∧
      Sees id (request.rowsAfter rows reply) other (v.note request reply) := by
  cases request with
  | insertAlert a =>
      obtain ⟨untried, event, _⟩ := allowed
      have named : a.eventId = id := Option.some.inj (event.symm.trans own.event)
      -- A worker that has not tried to store explains nothing that the other one has seen.
      have unstored : other.row = .removed → rows.contains id = false := fun gone =>
        (others.removed gone).resolve_right fun stored => by rw [untried] at stored; cases stored
      have found : other.row = .found → rows.contains id = true := fun found =>
        (others.found found).resolve_right fun gone => by rw [untried] at gone; cases gone
      cases reply with
      | error cause =>
          refine ⟨⟨own.event, nofun, nofun, nofun⟩, ⟨others.event, fun stored => ?_,
            fun known => .inl (found known), fun gone => .inl (unstored gone)⟩⟩
          exact ⟨(others.stored stored).1, nofun⟩
      | ok stored =>
          cases stored with
          | false =>
              have there : rows.contains id = true := named ▸ tells
              refine ⟨⟨own.event, nofun, fun _ => .inl there, nofun⟩, ⟨others.event,
                fun stored => ⟨there, nofun⟩, fun _ => .inl there,
                fun gone => .inl (unstored gone)⟩⟩
          | true =>
              have absent : rows.contains id = false := named ▸ tells
              have there : (rows.put a.eventId a).contains id = true :=
                (Table.contains_put ..).mpr (.inl named)
              have unstored : other.row ≠ .stored := fun stored =>
                Bool.false_ne_true (absent.symm.trans (others.stored stored).1)
              exact ⟨⟨own.event, fun _ => ⟨there, unstored⟩, nofun, nofun⟩, ⟨others.event,
                fun stored => (unstored stored).elim, fun _ => .inl there, fun _ => .inr rfl⟩⟩
  | deleteAlert eventId =>
      obtain ⟨stored, event⟩ := allowed
      have named : eventId = id := Option.some.inj (event.symm.trans own.event)
      obtain ⟨there, unstored⟩ := own.stored stored
      cases reply with
      | error cause => exact ⟨⟨own.event, own.stored, own.found, own.removed⟩,
          ⟨others.event, others.stored, others.found, others.removed⟩⟩
      | ok count =>
          -- The row was there, so it was taken out.
          obtain ⟨more, rfl⟩ : ∃ more, count = more + 1 := by
            refine Nat.exists_eq_succ_of_ne_zero fun none => ?_
            rw [none, named] at tells
            exact Bool.false_ne_true (tells.symm.trans there)
          have gone : (rows.erase eventId).contains id = false := by
            refine Bool.eq_false_iff.mpr fun left => ?_
            exact ((Table.contains_erase ..).mp left).1 named
          exact ⟨⟨own.event, nofun, nofun, fun _ => .inl gone⟩, ⟨others.event,
            fun stored => (unstored stored).elim, fun _ => .inr rfl, fun _ => .inl gone⟩⟩
  | label event score =>
      cases own.event.symm.trans allowed.1
  | _ => exact ⟨⟨own.event, own.stored, own.found, own.removed⟩,
      ⟨others.event, others.stored, others.found, others.removed⟩⟩

/-- What a worker remembers before it emits the alert of an event. -/
def before (e : Enrichment) : OnceView :=
  { OnceView.enter none none with event := some e.event.id }

/-- Both emissions go on as they should, and both workers know what they need of the row. -/
def Sound (s : RelaySettings) (e e' : Enrichment) (c : Crossing) : Prop :=
  ∃ v v', c.left.Obeys (s.onceDiscipline fun _ => True) (Enrichment.Resolved (before e)) v ∧
    c.right.Obeys (s.onceDiscipline fun _ => True) (Enrichment.Resolved (before e')) v' ∧
    Sees e.event.id c.world.store.rows v v' ∧ Sees e.event.id c.world.store.rows v' v

variable {e e' : Enrichment} {c : Crossing} {w : World}

/-- Two emissions of the same event begin as they should. -/
theorem sound_start (same : e.event.id = e'.event.id) : (start s w e e').Sound s e e' := by
  refine ⟨before e, before e', e.emit_once ⟨rfl, rfl, rfl⟩ rfl trivial,
    e'.emit_once ⟨rfl, rfl, rfl⟩ rfl trivial, ⟨rfl, nofun, nofun, nofun⟩, ?_, nofun, nofun, nofun⟩
  exact congrArg some same.symm

/-- One worker goes on, and both know what they need of the row afterwards. -/
theorem advance_sees {ends : Except BrokerError Emission → OnceView → Prop}
    {p : RelayProgram (Except BrokerError Emission)} (worker : Nat)
    (obeys : p.Obeys (s.onceDiscipline names) ends v) (sees : Sees id w.store.rows v other)
    (others : Sees id w.store.rows other v) :
    ∃ after, (p.advance (World.reply worker) w).1.Obeys (s.onceDiscipline names) ends after ∧
      Sees id (p.advance (World.reply worker) w).2.store.rows after other ∧
      Sees id (p.advance (World.reply worker) w).2.store.rows other after := by
  refine obeys.advance (fun (w : World) view => Sees id w.store.rows view other ∧
    Sees id w.store.rows other view) (fun request allowed => ?_) ⟨sees, others⟩
  obtain ⟨rows, tells⟩ := World.reply_rows w worker request
  rw [rows]
  exact ⟨_, rfl, sees.note others allowed tells⟩

/-- Each step of either emission leaves both as they should be. -/
theorem Sound.step (sound : c.Sound s e e') (i j : Nat) (move : Move) :
    (c.step i j move).Sound s e e' := by
  obtain ⟨v, v', obeys, obeys', sees, sees'⟩ := sound
  cases move with
  | left =>
      obtain ⟨after, obeys, seen⟩ := advance_sees i obeys sees sees'
      exact ⟨after, v', obeys, obeys', seen⟩
  | right =>
      obtain ⟨after, obeys', seen⟩ := advance_sees j obeys' sees' sees
      exact ⟨v, after, obeys, obeys', seen.symm⟩
  | disturb d =>
      have rows := (d.apply_spares c.world).rows
      refine ⟨v, v', obeys, obeys', ?_⟩
      change Sees _ (d.apply c.world).store.rows _ _ ∧ Sees _ (d.apply c.world).store.rows _ _
      rw [rows]
      exact ⟨sees, sees'⟩

/-- Two emissions of the same event stay as they should be, however they cross. -/
theorem sound_run (same : e.event.id = e'.event.id) (i j : Nat) (moves : List Move) :
    (run s w e e' i j moves).Sound s e e' := by
  have steps : ∀ c : Crossing, c.Sound s e e' →
      (moves.foldl (Crossing.step i j) c).Sound s e e' := by
    induction moves with
    | nil => exact fun _ sound => sound
    | cons move rest ih => exact fun c sound => ih _ (sound.step i j move)
  exact steps _ (sound_start same)

/-- Whether an emission is resolved as published. -/
def Published (ended : Except BrokerError Emission) : Prop :=
  ∃ alertId inserted, ended = .ok (.published alertId inserted)

/-- Whether one emission is published beside a row that it has found, and the other one has taken
its own row out again. -/
def Lost (ended other : Except BrokerError Emission) : Prop :=
  (∃ alertId, ended = .ok (.published alertId false)) ∧
    ∃ reason, other = .ok (.quarantined reason true)

/-- What an emission that is published knows of the row, once the other one has ended too. -/
theorem Sees.row_iff {ended ended' : Except BrokerError Emission} {v v' : OnceView}
    (sees : Sees id rows v v') (sees' : Sees id rows v' v) (leaves : Enrichment.Leaves ended v.row)
    (leaves' : Enrichment.Leaves ended' v'.row) (published : Published ended) :
    rows.contains id = true ↔ ¬Lost ended ended' := by
  obtain ⟨alertId, inserted, rfl⟩ := published
  cases inserted with
  | true =>
      have stored : v.row = .stored := leaves
      refine iff_of_true (sees.stored stored).1 ?_
      rintro ⟨⟨_, is⟩, _⟩
      cases is
  | false =>
      have found : v.row = .found := leaves
      constructor
      · rintro there ⟨_, reason, rfl⟩
        have gone : v'.row = .removed := leaves'
        rcases sees'.removed gone with absent | stored
        · exact Bool.false_ne_true (absent.symm.trans there)
        · rw [found] at stored
          cases stored
      · -- What was found is gone only if the other one has removed it, which shows in its end.
        intro kept
        refine (sees.found found).resolve_right fun gone => kept ⟨⟨alertId, rfl⟩, ?_⟩
        rw [gone] at leaves'
        match ended', leaves' with
        | .ok (.quarantined reason true), _ => exact ⟨reason, rfl⟩
        | .ok (.quarantined reason false), kept => exact (kept rfl).elim
        | .ok (.published _ true), is => cases is
        | .ok (.published _ false), is => cases is
        | .error _, is => cases is

/-- Once two emissions of one event have ended, in whatever order their calls were made and
whatever went wrong around them, and one of them is published, the event has a row unless the one
that is published has found the row that the other one has taken out again. -/
theorem row_iff_not_lost (s : RelaySettings) (w : World) (e e' : Enrichment) (i j : Nat)
    (moves : List Move) (ended ended' : Except BrokerError Emission)
    (same : e.event.id = e'.event.id)
    (left : (run s w e e' i j moves).left.value? = some ended)
    (right : (run s w e e' i j moves).right.value? = some ended')
    (published : Published ended ∨ Published ended') :
    (run s w e e' i j moves).world.store.rows.contains e.event.id = true ↔
      ¬(Lost ended ended' ∨ Lost ended' ended) := by
  have sound := sound_run (s := s) (w := w) same i j moves
  generalize run s w e e' i j moves = c at left right sound ⊢
  obtain ⟨v, v', obeys, obeys', sees, sees'⟩ := sound
  have resolved := obeys.of_value left
  have resolved' := obeys'.of_value right
  have unlost : ∀ {a b : Except BrokerError Emission}, Published a → ¬Lost b a := by
    rintro a b ⟨_, _, rfl⟩ ⟨_, _, is⟩
    cases is
  rcases published with published | published
  · rw [or_iff_left (unlost published)]
    exact sees.row_iff sees' resolved.row resolved'.row published
  · rw [or_iff_right (unlost published)]
    exact sees'.row_iff sees resolved'.row resolved.row published

/-- One worker emits after the other: the second one finds the row of the first. -/
theorem row_iff_not_lost_in_turn :
    let s : RelaySettings := ⟨"group", "results", "alerts", "dead", .once, .once⟩
    let clients (results alerts : String) : WorkerClients := .new results alerts
      (fun _ => .error (.scoring "none")) fun _ _ _ => .error (.labeling "none" false)
    let w := World.start [clients "results-0" "alerts-0", clients "results-1" "alerts-1"]
      fun _ => default
    let moves := List.replicate 8 Move.left ++ List.replicate 8 Move.right
    (run s w default default 0 1 moves).left.value? =
        some (.ok (.published default true)) ∧
      (run s w default default 0 1 moves).right.value? =
        some (.ok (.published default false)) ∧
      ((run s w default default 0 1 moves).world.store.rows.contains
          (default : Enrichment).event.id = true ↔
        ¬(Lost (.ok (.published default true)) (.ok (.published default false)) ∨
          Lost (.ok (.published default false)) (.ok (.published default true)))) := by
  intro s clients w moves
  have left : (run s w default default 0 1 moves).left.value? =
    some (.ok (.published default true)) := by decide +kernel
  have right : (run s w default default 0 1 moves).right.value? =
    some (.ok (.published default false)) := by decide +kernel
  exact ⟨left, right, row_iff_not_lost s w default default 0 1 moves _ _ rfl left right
    (.inl ⟨default, true, rfl⟩)⟩

/-- The first worker stores the row and cannot commit. Before it takes the row out again, the second
one finds the row and publishes: both have ended, an alert is published, and there is no row. -/
theorem row_lost :
    let s : RelaySettings := ⟨"group", "results", "alerts", "dead", .once, .once⟩
    let clients (results alerts : String) : WorkerClients := .new results alerts
      (fun _ => .error (.scoring "none")) fun _ _ _ => .error (.labeling "none" false)
    let w := World.start [clients "results-0" "alerts-0", clients "results-1" "alerts-1"]
      fun _ => default
    let moves := [Move.disturb (.failCommit 0 .alerts 1)] ++ List.replicate 3 Move.left ++
      List.replicate 8 Move.right ++ List.replicate 12 Move.left
    let c := run s w default default 0 1 moves
    c.left.value? = some (.ok (.quarantined .brokerFailure true)) ∧
      c.right.value? = some (.ok (.published default false)) ∧
      (c.world.log.records "alerts").length = 1 ∧
      c.world.store.rows.contains (default : Enrichment).event.id = false := by
  decide +kernel

end Crossing

end AlertRelay
