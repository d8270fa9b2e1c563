import Mathlib.Data.List.InsertIdx
import AlertRelay.Proofs.Enrich.Normalize
import AlertRelay.Proofs.Relay.Disturbance
import AlertRelay.Proofs.Relay.Singular

/-!
# One record, handled again and again

Workers handle the same record any number of times, one after the other or side by side, while
anything goes wrong and while they and their ledger are replaced (`Replay`). All of them write to
one store. A record that names its event leaves one row at most; a record that does not gets a new
identifier whenever it is handled, and leaves one row at most for each time
(`Replay.rows_of_replay`).
-/

namespace AlertRelay

/-! ## The identifier of a record -/

namespace RawEvent

/-- The identifier that a raw event gives itself. -/
def ownIdentifier? : Option Json → Option String
  | some (.text s) => if (trimText s).isEmpty then none else some (trimText s)
  | some value => numberText value
  | none => none

/-- An event has its own identifier, or a new one if it has none. -/
theorem identifier_eq (fresh : Uuid) (value : Option Json) :
    identifier fresh value = (ownIdentifier? value).getD fresh.render := by
  cases value with
  | none => rfl
  | some value =>
      cases value with
      | text s =>
          simp only [RawEvent.identifier, RawEvent.ownIdentifier?]
          split
          · rfl
          · rfl
      | _ => simp only [RawEvent.identifier, RawEvent.ownIdentifier?]

/-- The identifier of an event is read from its member, or new. -/
theorem normalize_id {raw : RawEvent} {fresh : Uuid} {event : Event}
    (normal : raw.normalize fresh = .ok event) :
    event.id = identifier fresh (Json.member? "id" raw) :=
  (normalize_ok normal).1

end RawEvent

namespace Record

/-- The identifier that a record gives its event. -/
def ownId? (r : Record) : Option String :=
  r.rawEvent?.bind fun raw => RawEvent.ownIdentifier? (Json.member? "id" raw)

/-- A record that gives its event an identifier gives it no other one. -/
theorem Names.eq_own {r : Record} {id own : String} (names : r.Names id)
    (owned : r.ownId? = some own) : id = own := by
  obtain ⟨raw, fresh, event, decoded, normal, rfl⟩ := names
  unfold Record.ownId? at owned
  rw [decoded, Option.bind_some] at owned
  rw [RawEvent.normalize_id normal, RawEvent.identifier_eq, owned, Option.getD_some]

end Record

/-! ## What a call does to the rows -/

namespace OnceView

/-- Whether a worker may still store a row. -/
def mayStore (v : OnceView) : Bool := decide (v.row = .untried)

/-- The rows are keyed by identifiers of the record, each of them once, and not too many. -/
structure Few (r : Record) (bound : Nat) (rows : Table String Alert) (v : OnceView) : Prop where
  named : ∀ id ∈ rows.keys, r.Names id
  nodup : rows.keys.Nodup
  bound : rows.size + v.mayStore.toNat ≤ bound

variable {s : RelaySettings} {r : Record} {bound : Nat} {rows : Table String Alert} {v : OnceView}

/-- Fewer rows are few as well. -/
theorem Few.sublist {fewer : Table String Alert} {later : OnceView} (few : Few r bound rows v)
    (sub : fewer.keys.Sublist rows.keys) (may : later.mayStore.toNat ≤ v.mayStore.toNat) :
    Few r bound fewer later where
  named id member := few.named id (sub.subset member)
  nodup := few.nodup.sublist sub
  bound := by
    have shorter := sub.length_le
    rw [Table.length_keys, Table.length_keys] at shorter
    exact Nat.le_trans (Nat.add_le_add shorter may) few.bound

/-- A call that is in order leaves the rows few. -/
theorem Few.note (few : Few r bound rows v) {request : RelayCall} {reply : request.Reply}
    (allowed : s.AllowsOnce r.Names v request) (tells : request.Tells rows reply) :
    Few r bound (request.rowsAfter rows reply) (v.note request reply) := by
  cases request with
  | insertAlert a =>
      obtain ⟨untried, _, named⟩ := allowed
      cases reply with
      | error cause => exact few.sublist (.refl _) (Nat.zero_le _)
      | ok stored =>
          cases stored with
          | false => exact few.sublist (.refl _) (Nat.zero_le _)
          | true =>
              have keys : (rows.put a.eventId a).keys = rows.keys ++ [a.eventId] :=
                rows.keys_put a tells
              have spent := few.bound
              unfold OnceView.mayStore at spent
              rw [decide_eq_true untried] at spent
              refine ⟨fun id member => ?_, ?_, ?_⟩
              · change id ∈ (rows.put a.eventId a).keys at member
                rw [keys, List.mem_append, List.mem_singleton] at member
                rcases member with earlier | rfl
                · exact few.named id earlier
                · exact named
              · change (rows.put a.eventId a).keys.Nodup
                rw [keys]
                refine List.nodup_append.mpr ⟨few.nodup, List.pairwise_singleton _ _, ?_⟩
                rintro id member _ one rfl
                rw [List.mem_singleton.mp one, Table.mem_keys] at member
                exact Bool.false_ne_true (Eq.trans (Eq.symm tells) member)
              · change (rows.put a.eventId a).size + 0 ≤ bound
                rw [← Table.length_keys, keys, List.length_append, Table.length_keys]
                exact spent
  | deleteAlert eventId =>
      have kept : v.mayStore = false := by
        unfold OnceView.mayStore
        rw [allowed.1]
        rfl
      cases reply with
      | error cause => exact few.sublist (.refl _) (Nat.le_refl _)
      | ok count =>
          cases count with
          | zero => exact few.sublist (.refl _) (Nat.zero_le _)
          | succ more => exact few.sublist (rows.keys_erase_sublist eventId) (Nat.zero_le _)
  | _ => exact few.sublist (.refl _) (Nat.le_refl _)

end OnceView

/-! ## Handling again and again -/

/-- Workers that handle one record, with one store. -/
structure Replay where
  world : World
  /-- The work that was begun, and who does it. -/
  begun : List (Nat × RelayProgram (Except RelayError Outcome))

namespace Replay

/-- What happens to the workers that handle a record. -/
inductive Event where
  /-- A worker begins to handle the record. -/
  | handle (worker : Nat) (s : RelaySettings)
  /-- A piece of work makes its next call. -/
  | advance (index : Nat)
  /-- A piece of work breaks off. -/
  | cancel (index : Nat)
  | disturb (d : Disturbance)
  /-- Workers begin anew, with a ledger of theirs. -/
  | relaunch (workers : List WorkerClients) (ledger : Ledger)

/-- Whether a worker begins to handle the record. -/
def Event.begins : Event → Bool
  | .handle _ _ => true
  | _ => false

/-- One thing that happens. -/
def step (r : Record) (c : Replay) : Event → Replay
  | .handle worker s => { c with begun := c.begun ++ [(worker, r.handle s)] }
  | .advance index =>
    match c.begun[index]? with
    | none => c
    | some (worker, work) =>
      let (work, world) := work.advance (World.reply worker) c.world
      ⟨world, c.begun.set index (worker, work)⟩
  | .cancel index => { c with begun := c.begun.eraseIdx index }
  | .disturb d => { c with world := d.apply c.world }
  | .relaunch workers ledger =>
    { c with world := { c.world with workers := workers, ledger := ledger } }

/-- What becomes of a world whose store is empty. -/
def run (r : Record) (w : World) (events : List Event) : Replay :=
  events.foldl (step r) ⟨{ w with store := .empty }, []⟩

/-- A piece of work with what its worker remembers. -/
abbrev Tracked := (Nat × RelayProgram (Except RelayError Outcome)) × OnceView

/-- Whether a piece of work goes on as it should. -/
def Tracked.Sound (r : Record) (x : Tracked) : Prop :=
  ∃ (s : RelaySettings) (ends : Except RelayError Outcome → OnceView → Prop),
    x.1.2.Obeys (s.onceDiscipline r.Names) ends x.2

/-- How many of the pieces of work may still store a row. -/
def open_ (tracked : List Tracked) : Nat := tracked.countP fun x => x.2.mayStore

/-- There are no more rows than pieces of work were begun that are not yet to store theirs. -/
structure Kept (r : Record) (count : Nat) (c : Replay) (tracked : List Tracked) : Prop where
  same : c.begun = tracked.map Prod.fst
  sound : ∀ x ∈ tracked, x.Sound r
  named : ∀ id ∈ c.world.store.rows.keys, r.Names id
  nodup : c.world.store.rows.keys.Nodup
  bound : c.world.store.rows.size + open_ tracked ≤ count

variable {r : Record} {count : Nat} {c : Replay} {tracked : List Tracked}

private theorem ite_toNat (b : Bool) : (if b = true then 1 else 0) = b.toNat := by
  cases b with
  | false => rfl
  | true => rfl

/-- Before any work, there are no rows. -/
theorem kept_start (r : Record) (w : World) :
    Kept r 0 ⟨{ w with store := .empty }, []⟩ [] where
  same := rfl
  sound _ none := by cases none
  named _ none := by cases none
  nodup := .nil
  bound := Nat.le_refl _

/-- When a worker begins to handle the record, one more row may come. -/
theorem Kept.handle (kept : Kept r count c tracked) (worker : Nat) (s : RelaySettings) :
    ∃ more, Kept r (count + 1) (c.step r (.handle worker s)) more := by
  refine ⟨tracked ++ [((worker, r.handle s), .enter none none)], ?_, fun x member => ?_,
    kept.named, kept.nodup, ?_⟩
  · change c.begun ++ _ = _
    rw [kept.same, List.map_append]
    rfl
  · rcases List.mem_append.mp member with earlier | now
    · exact kept.sound x earlier
    · rw [List.mem_singleton.mp now]
      exact ⟨s, _, r.handle_once s none none⟩
  · have bound := kept.bound
    unfold Replay.open_ at bound ⊢
    rw [List.countP_append]
    exact Nat.succ_le_succ bound

/-- A piece of work that goes on stores a row only if it had none to store before. -/
theorem Kept.call (kept : Kept r count c tracked) (worker : Nat) {s : RelaySettings}
    {ends : Except RelayError Outcome → OnceView → Prop}
    {work : RelayProgram (Except RelayError Outcome)} {v : OnceView}
    (obeys : work.Obeys (s.onceDiscipline r.Names) ends v) :
    ∃ after, (work.advance (World.reply worker) c.world).1.Obeys (s.onceDiscipline r.Names) ends
        after ∧
      OnceView.Few r (c.world.store.rows.size + v.mayStore.toNat)
        (work.advance (World.reply worker) c.world).2.store.rows after := by
  have few : OnceView.Few r (c.world.store.rows.size + v.mayStore.toNat) c.world.store.rows v :=
    ⟨kept.named, kept.nodup, Nat.le_refl _⟩
  refine obeys.advance (fun (w : World) view => OnceView.Few r _ w.store.rows view)
    (fun request allowed => ?_) few
  obtain ⟨rows, tells⟩ := World.reply_rows c.world worker request
  rw [rows]
  exact ⟨_, rfl, few.note allowed tells⟩

/-- A step of a worker brings no row beyond its own. -/
theorem Kept.advance (kept : Kept r count c tracked) (index : Nat) :
    ∃ more, Kept r count (c.step r (.advance index)) more := by
  unfold Replay.step
  cases found : tracked[index]? with
  | none =>
      have absent : c.begun[index]? = none := by
        rw [kept.same, List.getElem?_map, found, Option.map_none]
      simp only [absent]
      exact ⟨tracked, kept⟩
  | some x =>
      have present : c.begun[index]? = some x.1 := by
        rw [kept.same, List.getElem?_map, found, Option.map_some]
      obtain ⟨inside, is⟩ := List.getElem?_eq_some_iff.mp found
      obtain ⟨⟨worker, work⟩, v⟩ := x
      obtain ⟨s, ends, obeys⟩ := kept.sound _ (List.mem_of_getElem? found)
      obtain ⟨after, later, few⟩ := kept.call worker obeys
      simp only [present]
      refine ⟨tracked.set index ((worker, (work.advance (World.reply worker) c.world).1), after),
        ?_, fun y member => ?_, few.named, few.nodup, ?_⟩
      · rw [kept.same, List.map_set]
      · rcases List.mem_or_eq_of_mem_set member with earlier | rfl
        · exact kept.sound y earlier
        · exact ⟨s, ends, later⟩
      · -- What this piece of work may still store counts among what all of them may.
        have among := List.boole_getElem_le_countP (p := fun x : Tracked => x.2.mayStore) inside
        have bound := kept.bound
        have fewer : (work.advance (World.reply worker) c.world).2.store.rows.size +
          after.mayStore.toNat ≤ c.world.store.rows.size + v.mayStore.toNat := few.bound
        unfold Replay.open_ at bound ⊢
        rw [is, ite_toNat] at among
        rw [List.countP_set inside, is, ite_toNat, ite_toNat]
        change v.mayStore.toNat ≤ _ at among
        change (work.advance (World.reply worker) c.world).2.store.rows.size +
          (_ - v.mayStore.toNat + after.mayStore.toNat) ≤ count
        omega

/-- Whatever happens, there are no more rows than there were beginnings. -/
theorem Kept.step (kept : Kept r count c tracked) (event : Event) :
    ∃ more, Kept r (count + event.begins.toNat) (c.step r event) more := by
  cases event with
  | handle worker s => exact kept.handle worker s
  | advance index => exact kept.advance index
  | cancel index =>
      have fewer := tracked.eraseIdx_sublist index
      refine ⟨tracked.eraseIdx index, ?_, fun x member => kept.sound x (fewer.subset member),
        kept.named, kept.nodup, ?_⟩
      · change c.begun.eraseIdx index = _
        rw [kept.same, List.eraseIdx_map]
      · exact Nat.le_trans (Nat.add_le_add_left fewer.countP_le _) kept.bound
  | disturb d =>
      have rows := (d.apply_spares c.world).rows
      refine ⟨tracked, kept.same, kept.sound, ?_, ?_, ?_⟩
      · change ∀ id ∈ (d.apply c.world).store.rows.keys, r.Names id
        rw [rows]
        exact kept.named
      · change (d.apply c.world).store.rows.keys.Nodup
        rw [rows]
        exact kept.nodup
      · change (d.apply c.world).store.rows.size + open_ tracked ≤ count
        rw [rows]
        exact kept.bound
  | relaunch workers ledger =>
      exact ⟨tracked, kept.same, kept.sound, kept.named, kept.nodup, kept.bound⟩

/-- However much happens, there are no more rows than there were beginnings. -/
theorem Kept.foldl (kept : Kept r count c tracked) (events : List Event) :
    ∃ more, Kept r (count + events.countP Event.begins) (events.foldl (Replay.step r) c) more := by
  induction events generalizing count c tracked with
  | nil => exact ⟨tracked, kept⟩
  | cons event rest ih =>
      obtain ⟨more, stepped⟩ := kept.step event
      obtain ⟨last, after⟩ := ih stepped
      refine ⟨last, ?_⟩
      have counted : count + (event :: rest).countP Event.begins =
          count + event.begins.toNat + rest.countP Event.begins := by
        rw [List.countP_cons, ite_toNat]
        omega
      rw [List.foldl_cons, counted]
      exact after

/-- However often a record is handled, by whichever workers, side by side or one after the other,
with whichever ledgers and whatever goes wrong, it leaves no more rows than it was handled times,
and a record that gives its event an identifier leaves one row at most. -/
theorem rows_of_replay (r : Record) (w : World) (events : List Event) :
    (run r w events).world.store.rows.size ≤ events.countP Event.begins ∧
      ∀ own, r.ownId? = some own → (run r w events).world.store.rows.size ≤ 1 := by
  obtain ⟨tracked, kept⟩ := (kept_start r w).foldl events
  rw [Nat.zero_add] at kept
  refine ⟨Nat.le_trans (Nat.le_add_right _ _) kept.bound, fun own owned => ?_⟩
  have nodup := kept.nodup
  have named : ∀ id ∈ (run r w events).world.store.rows.keys, id = own :=
    fun id member => (kept.named id member).eq_own owned
  -- Two rows would have two keys, but both would be the identifier that the record gives.
  rw [← Table.length_keys]
  change (run r w events).world.store.rows.keys.Nodup at nodup
  match (run r w events).world.store.rows.keys, nodup, named with
  | [], _, _ => exact Nat.zero_le _
  | [_], _, _ => exact Nat.le_refl _
  | a :: b :: _, nodup, named =>
      have first := named a List.mem_cons_self
      have second := named b (List.mem_cons_of_mem _ List.mem_cons_self)
      rw [first, second] at nodup
      exact ((List.nodup_cons.mp nodup).1 List.mem_cons_self).elim

/-- A record with an identifier of its own, handled anew after a restart. -/
theorem rows_of_replay_named :
    let s : RelaySettings := ⟨"group", "results", "alerts", "dead", .once, .once⟩
    let workers : List WorkerClients := [.new "results-0" "alerts-0" (fun _ => .ok ⟨0.0, 0.0, 0.0⟩)
      fun _ _ _ => .ok default]
    let w := World.start workers Uuid.mk
    let r : Record := ⟨"events", 0, 0, none, utf8
      "\x7b\"id\":7,\"src_ip\":\"10.1.2.3\",\"timestamp\":\"2024-05-01T12:00:00Z\"\x7d", []⟩
    let events := [Event.handle 0 s] ++ List.replicate 30 (.advance 0) ++
      [.relaunch workers .empty, .handle 0 s] ++ List.replicate 30 (.advance 1)
    r.ownId? = some "7" ∧ (run r w events).world.store.rows.contains "7" = true ∧
      (run r w events).world.store.rows.size ≤ 1 := by
  intro s workers w r events
  have owned : r.ownId? = some "7" := by decide +kernel
  have stored : (run r w events).world.store.rows.contains "7" = true := by decide +kernel
  exact ⟨owned, stored, (rows_of_replay r w events).2 "7" owned⟩

/-- A record without an identifier, handled anew after a restart: it leaves two rows. -/
theorem two_rows_of_replay :
    let s : RelaySettings := ⟨"group", "results", "alerts", "dead", .once, .once⟩
    let workers : List WorkerClients := [.new "results-0" "alerts-0" (fun _ => .ok ⟨0.0, 0.0, 0.0⟩)
      fun _ _ _ => .ok default]
    let w := World.start workers Uuid.mk
    let r : Record := ⟨"events", 0, 0, none, utf8
      "\x7b\"src_ip\":\"10.1.2.3\",\"timestamp\":\"2024-05-01T12:00:00Z\"\x7d", []⟩
    let events := [Event.handle 0 s] ++ List.replicate 30 (.advance 0) ++
      [.relaunch workers .empty, .handle 0 s] ++ List.replicate 30 (.advance 1)
    r.ownId? = none ∧ (run r w events).world.store.rows.size = 2 := by
  decide +kernel

end Replay

end AlertRelay
