import AlertRelay.Proofs.Broker.Handouts
import Mathlib.Data.List.Rotate

/-!
# Turns of partitions

A member begins each scan one partition further on than the last one. Among as many scans as it has
partitions, each partition comes first once, whatever happens in between. So a partition that has a
record to offer whenever the member scans is served in such a round, however much the others have to
offer (`Hub.served_within_round`).
-/

namespace AlertRelay

namespace Subscription

variable {s later : Subscription} {l : Log} {tp : TopicPartition}

/-- Whether a partition has a record to offer: it is not paused, and there is a record where the
member reads on. -/
def Offers (s : Subscription) (l : Log) (tp : TopicPartition) : Prop :=
  s.isPaused tp = false ∧ ((s.position? tp).bind fun offset => l.record? tp offset).isSome = true

instance : Decidable (s.Offers l tp) := inferInstanceAs (Decidable (_ ∧ _))

/-- Whether a scan begins with a partition when so many others have been made before it. -/
def BeginsIn (s : Subscription) (scans : Nat) (tp : TopicPartition) : Prop :=
  (s.cursor + scans) % s.assignment.length = s.assignment.idxOf tp

/-- Whether so many scans lie between two states of a subscription. -/
structure Turns (scans : Nat) (before after : Subscription) : Prop where
  assignment : after.assignment = before.assignment
  cursor : before.cursor + scans < 0x10000000000000000 → after.cursor = before.cursor + scans

/-! ## The order of a scan -/

/-- Each partition comes first in one scan of a round. -/
theorem exists_beginsIn (assigned : tp ∈ s.assignment) :
    ∃ scans < s.assignment.length, s.BeginsIn scans tp := by
  unfold Subscription.BeginsIn
  have inside := List.idxOf_lt_length_of_mem assigned
  generalize s.assignment.idxOf tp = index at *
  generalize s.assignment.length = count at *
  have start := Nat.div_add_mod s.cursor count
  have short := Nat.mod_lt s.cursor (Nat.zero_lt_of_lt inside)
  by_cases ahead : s.cursor % count ≤ index
  · refine ⟨index - s.cursor % count, by omega, ?_⟩
    have lands : s.cursor + (index - s.cursor % count) = count * (s.cursor / count) + index := by
      omega
    rw [lands, Nat.mul_add_mod, Nat.mod_eq_of_lt inside]
  · refine ⟨count - (s.cursor % count - index), by omega, ?_⟩
    have lands : s.cursor + (count - (s.cursor % count - index)) =
        count * (s.cursor / count) + (count + index) := by
      omega
    rw [lands, Nat.mul_add_mod, Nat.add_mod_left, Nat.mod_eq_of_lt inside]

/-- A scan goes over the partitions in their order, rotated by the count of scans. -/
theorem turnOrder_eq_rotate (s : Subscription) : s.turnOrder = s.positions.rotate s.cursor :=
  List.rotate_eq_drop_append_take_mod.symm

/-- The position of a partition stands at the place that the partition has in the assignment. -/
theorem getElem?_idxOf_assignment {offset : Int} (there : s.position? tp = some offset) :
    s.positions[s.assignment.idxOf tp]? = some (tp, offset) := by
  obtain ⟨entry, found, rfl⟩ := Option.map_eq_some_iff.mp there
  have key : entry.1 = tp := by simpa using List.find?_some found
  subst key
  rw [List.find?_eq_getElem?_findIdx] at found
  unfold Subscription.assignment List.idxOf
  rw [List.findIdx_map]
  exact found

/-- A scan goes to the partition first that it begins with. -/
theorem turnOrder_of_beginsIn {offset : Int} (first : s.BeginsIn 0 tp)
    (there : s.position? tp = some offset) : ∃ rest, s.turnOrder = (tp, offset) :: rest := by
  have here := getElem?_idxOf_assignment there
  obtain ⟨inside, _⟩ := List.getElem?_eq_some_iff.mp here
  rw [turnOrder_eq_rotate, ← List.head?_eq_some_iff, List.head?_eq_getElem?,
    List.getElem?_rotate (Nat.zero_lt_of_lt inside), ← here, ← first]
  simp only [Subscription.assignment, List.length_map, Nat.zero_add, Nat.add_zero]

/-- What a scan does if there is a partition. -/
theorem scan_of_assigned (assigned : tp ∈ s.assignment) :
    s.scan l = { s with cursor := (s.cursor + 1) % 0x10000000000000000 }.serve l s.turnOrder := by
  have some_ : ¬ s.positions.isEmpty = true := by
    intro none
    simp [Subscription.assignment, List.isEmpty_iff.mp none] at assigned
  exact if_neg some_

/-- The partition that a scan begins with is served if it has a record to offer. -/
theorem scan_of_beginsIn (assigned : tp ∈ s.assignment) (first : s.BeginsIn 0 tp)
    (offers : s.Offers l tp) :
    ∃ offset r, (s.scan l).1 = some r ∧ l.record? tp offset = some r := by
  obtain ⟨free, some_⟩ := offers
  obtain ⟨r, found⟩ := Option.isSome_iff_exists.mp some_
  obtain ⟨offset, there, at_⟩ := Option.bind_eq_some_iff.mp found
  obtain ⟨rest, order⟩ := turnOrder_of_beginsIn first there
  have available (cursor : Nat) :
      { s with cursor := cursor }.available? l (tp, offset) = some r :=
    available?_eq_some.mpr ⟨free, at_⟩
  refine ⟨offset, r, ?_, at_⟩
  simp only [scan_of_assigned assigned, order, Subscription.serve, available]

/-! ## What a scan moves -/

theorem Turns.still (assignment : later.assignment = s.assignment)
    (cursor : later.cursor = s.cursor) : s.Turns 0 later := ⟨assignment, fun _ => cursor⟩

/-- The scans that are made are no longer ahead. -/
theorem Turns.beginsIn {made ahead : Nat} (turns : s.Turns made later)
    (fits : s.cursor + made < 0x10000000000000000) (begins : s.BeginsIn (made + ahead) tp) :
    later.BeginsIn ahead tp := by
  unfold Subscription.BeginsIn at begins ⊢
  rw [turns.assignment, turns.cursor fits, Nat.add_assoc]
  exact begins

/-- To serve a record moves no turn. -/
theorem cursor_serve (s : Subscription) (l : Log) (entries : List (TopicPartition × Int)) :
    (s.serve l entries).2.cursor = s.cursor := by
  rcases s.serve_cases l entries with nothing | ⟨_, _, _, _, served⟩
  · rw [nothing]
  · rw [served]
    rfl

/-- A scan moves the turn one further. -/
theorem turns_scan (assigned : tp ∈ s.assignment) : s.Turns 1 (s.scan l).2 := by
  refine ⟨(s.steady_scan l).assignment, fun fits => ?_⟩
  simp only [scan_of_assigned assigned, cursor_serve, Nat.mod_eq_of_lt fits]

end Subscription

/-! ## Scans among other events -/

namespace MemberAct

variable {s : Subscription} {l : Log} {tp : TopicPartition}

/-- Whether a member scans its partitions. -/
def scans : MemberAct → Bool
  | scan => true
  | _ => false

/-- Only a scan moves the turn on. -/
theorem turns_run (assigned : tp ∈ s.assignment) (a : MemberAct) :
    s.Turns a.scans.toNat (a.run s l).2.1 := by
  cases a with
  | scan => exact Subscription.turns_scan assigned
  | seek other offset =>
      apply Subscription.Turns.still (s.steady_seek l other offset).assignment
      rcases s.seek_cases l other offset with moved | ⟨cause, refused⟩
      · simp only [moved]
        rfl
      · simp only [refused]
  | reset => exact .still (s.assignment_resetPositions l) rfl
  | look | pause tps | resume tps | bump | close => exact .still rfl rfl

end MemberAct

namespace Hub

open HubEvent

variable {h : Hub} {id : Nat} {s : Subscription} {tp : TopicPartition} {ds : List Deposit}

/-- Whether an event is a scan of a member. -/
def scans (h : Hub) (id : Nat) : HubEvent → Bool
  | .act i a => i = id && (a.scans && (h.actor? id a).isSome)
  | _ => false

/-- The states in which a member scans its partitions. -/
def scanning (id : Nat) : Hub → List HubEvent → List Hub
  | _, [] => []
  | h, e :: rest => (if h.scans id e then [h] else []) ++ scanning id (h.step e).2 rest

theorem length_ite_singleton (scanned : Bool) (h : Hub) :
    (if scanned then [h] else []).length = scanned.toNat := by
  cases scanned <;> rfl

/-- Whether a partition has a record to offer to a member. -/
def Offers (h : Hub) (id : Nat) (tp : TopicPartition) : Prop :=
  ∃ s ∈ h.member? id, s.Offers h.log tp

instance : Decidable (h.Offers id tp) :=
  inferInstanceAs (Decidable (∃ s ∈ h.member? id, s.Offers h.log tp))

/-- One event for a member that does not join anew. -/
theorem turns_step (joined : h.member? id = some s) (assigned : tp ∈ s.assignment) (e : HubEvent)
    (stays : ∀ group topics, e ≠ .join id group topics) :
    ∃ later, (h.step e).2.member? id = some later ∧
      s.Turns (h.scans id e).toNat later := by
  cases e with
  | call c => exact ⟨s, joined, .still rfl rfl⟩
  | join i group topics =>
      have other : id ≠ i := by
        rintro rfl
        exact stays group topics rfl
      exact ⟨s, (if_neg other).trans joined, .still rfl rfl⟩
  | act i a =>
      by_cases mine : i = id
      · subst mine
        cases acts : h.actor? i a with
        | none =>
            rw [step_of_no_actor acts]
            refine ⟨s, joined, ?_⟩
            simpa [Hub.scans, acts] using Subscription.Turns.still rfl rfl
        | some actor =>
            cases joined.symm.trans (actor?_eq_some.mp acts).1
            rw [step_of_actor acts]
            refine ⟨_, if_pos rfl, ?_⟩
            simpa [Hub.scans, acts] using MemberAct.turns_run assigned a
      · refine ⟨s, ?_, ?_⟩
        · rw [Hub.step]
          split
          · exact (if_neg (Ne.symm mine)).trans joined
          · exact joined
        · simpa [Hub.scans, mine] using Subscription.Turns.still rfl rfl

/-- Whoever scans is there to do it. -/
theorem actor_of_scans {e : HubEvent} (scanned : h.scans id e = true) :
    e = .act id .scan ∧ ∃ s, h.actor? id .scan = some s := by
  cases e with
  | call c | join i group topics => cases scanned
  | act i a =>
      obtain ⟨mine, scanned⟩ := Bool.and_eq_true_iff.mp scanned
      obtain ⟨kind, acts⟩ := Bool.and_eq_true_iff.mp scanned
      cases of_decide_eq_true mine
      cases a with
      | scan => exact ⟨rfl, Option.isSome_iff_exists.mp acts⟩
      | _ => cases kind

/-- The scan that begins with a partition serves it if it has a record to offer. -/
theorem served_now (sound : h.Sound ds) (joined : h.member? id = some s)
    (assigned : tp ∈ s.assignment) (first : s.BeginsIn 0 tp) (offers : h.Offers id tp)
    {e : HubEvent} (scanned : h.scans id e = true) :
    e = .act id .scan ∧ ∃ r, (h.step e).1 = .ok (some r) ∧ r.topicPartition = tp := by
  obtain ⟨rfl, actor, acts⟩ := actor_of_scans scanned
  obtain ⟨same, joined', offered⟩ := offers
  cases joined.symm.trans joined'
  cases joined.symm.trans (actor?_eq_some.mp acts).1
  obtain ⟨offset, r, served, at_⟩ := Subscription.scan_of_beginsIn assigned first offered
  refine ⟨rfl, r, ?_, (sound.shows_.wellFormed.record?_place at_).1⟩
  rw [step_of_actor acts]
  exact congrArg Except.ok served

/-- A partition that has a record to offer at each scan is served, at the latest by the scan that
begins with it. -/
theorem served_by_turn {between : List HubEvent} {ahead : Nat} (sound : h.Sound ds)
    (joined : h.member? id = some s) (assigned : tp ∈ s.assignment)
    (begins : s.BeginsIn ahead tp) (fits : s.cursor + ahead < 0x10000000000000000)
    (stays : ∀ group topics, .join id group topics ∉ between)
    (within : ahead < (h.scanning id between).length)
    (offers : ∀ now ∈ h.scanning id between, now.Offers id tp) :
    ∃ r, (.act id .scan, .ok (some r)) ∈ h.history between ∧ r.topicPartition = tp := by
  induction between generalizing h ds s ahead with
  | nil => cases within
  | cons e rest ih =>
      rw [scanning] at within offers
      rw [history]
      by_cases turn : h.scans id e = true ∧ ahead = 0
      · obtain ⟨scanned, rfl⟩ := turn
        rw [if_pos scanned] at offers
        obtain ⟨rfl, r, served, place⟩ :=
          served_now sound joined assigned begins (offers h List.mem_cons_self) scanned
        exact ⟨r, List.mem_cons.mpr (.inl (congrArg _ served.symm)), place⟩
      · obtain ⟨more, stepped⟩ := sound.step e
        obtain ⟨later, here, turns⟩ := turns_step joined assigned e fun group topics same =>
          stays group topics (same ▸ List.mem_cons_self)
        have made : (h.scans id e).toNat ≤ ahead := by
          cases scanned : h.scans id e with
          | false => exact Nat.zero_le ahead
          | true => exact Nat.pos_of_ne_zero fun none => turn ⟨scanned, none⟩
        obtain ⟨left, rfl⟩ := Nat.exists_eq_add_of_le made
        have moved := turns.cursor (by omega)
        have further : left < ((h.step e).2.scanning id rest).length := by
          rw [List.length_append, length_ite_singleton] at within
          omega
        obtain ⟨r, served, place⟩ := ih stepped here (turns.assignment ▸ assigned)
          (turns.beginsIn (by omega) begins) (by omega)
          (fun group topics among => stays group topics (List.mem_cons_of_mem e among))
          further (fun now among => offers now (List.mem_append_right _ among))
        exact ⟨r, List.mem_cons_of_mem _ served, place⟩

/-- While a member makes as many scans as it has partitions, a partition that has a record to offer
at each of them is served, whatever else happens in between: records may be added, and the member
may be set to other offsets, pause and resume. The count of its scans must not start anew
meanwhile. -/
theorem served_within_round (names : Nat → String) (events between : List HubEvent) (id : Nat)
    (tp : TopicPartition) (s : Subscription)
    (joined : ((start names).after events).member? id = some s) (assigned : tp ∈ s.assignment)
    (stays : ∀ group topics, .join id group topics ∉ between)
    (round : (((start names).after events).scanning id between).length = s.assignment.length)
    (fits : s.cursor + s.assignment.length ≤ 0x10000000000000000)
    (offers : ∀ now ∈ ((start names).after events).scanning id between, now.Offers id tp) :
    ∃ r, (.act id .scan, .ok (some r)) ∈ ((start names).after events).history between ∧
      r.topicPartition = tp := by
  obtain ⟨ds, sound⟩ := (sound_start names).after events
  obtain ⟨ahead, soon, begins⟩ := Subscription.exists_beginsIn assigned
  apply served_by_turn sound joined assigned begins _ stays _ offers
  · omega
  · omega

/-- Two partitions, one of them busy: it has records before and behind, gets another one between two
scans, and is set back to its first record. The other one is served as well. -/
theorem served_within_round_busy :
    let busy : Message := ⟨"busy", none, [], []⟩
    let events : List HubEvent := [.call (.publish busy 0), .call (.publish busy 0),
      .call (.publish ⟨"calm", none, [], []⟩ 0), .join 0 "readers" ["busy", "calm"]]
    let between : List HubEvent := [.act 0 .look, .act 0 .scan, .call (.publish busy 0),
      .act 0 (.seek ⟨"busy", 0⟩ 0), .act 0 (.pause [⟨"busy", 0⟩]), .act 0 (.resume [⟨"busy", 0⟩]),
      .act 0 .look, .act 0 .scan]
    let h := (start fun _ => "").after events
    ∃ s, h.member? 0 = some s ∧ s.assignment = [⟨"busy", 0⟩, ⟨"calm", 0⟩] ∧ s.cursor = 0 ∧
      (h.scanning 0 between).length = 2 ∧
      (∀ now ∈ h.scanning 0 between, now.Offers 0 ⟨"busy", 0⟩ ∧ now.Offers 0 ⟨"calm", 0⟩) ∧
      ∃ r, (.act 0 .scan, .ok (some r)) ∈ h.history between ∧ r.topicPartition = ⟨"calm", 0⟩ := by
  intro busy events between h
  obtain ⟨s, joined, assignment, cursor⟩ : ∃ s, h.member? 0 = some s ∧
      s.assignment = [⟨"busy", 0⟩, ⟨"calm", 0⟩] ∧ s.cursor = 0 :=
    ⟨_, rfl, by decide +kernel, rfl⟩
  have round : (h.scanning 0 between).length = 2 := by decide +kernel
  have offers : ∀ now ∈ h.scanning 0 between,
      now.Offers 0 ⟨"busy", 0⟩ ∧ now.Offers 0 ⟨"calm", 0⟩ := by
    decide +kernel
  refine ⟨s, joined, assignment, cursor, round, offers, ?_⟩
  apply served_within_round (fun _ => "") events between 0 ⟨"calm", 0⟩ s joined
  · simp [assignment]
  · simp [between]
  · rw [assignment]
    exact round
  · simp [assignment, cursor]
  · exact fun now among => (offers now among).2

end Hub

end AlertRelay
