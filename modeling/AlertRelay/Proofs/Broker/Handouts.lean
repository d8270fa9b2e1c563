import AlertRelay.Proofs.Broker.Hub
import AlertRelay.Proofs.Broker.Pauses

/-!
# What members are handed out

A member of a consumer group is set to an offset of a partition when it joins, when it seeks there
and when its partitions are assigned anew. From then on it is handed out the records of the
partition one by one from that offset, until it is set anew, and nothing while the partition is
paused. After it has left only those polls hand anything out that had looked before
(`Hub.hands_out_in_order`); such a poll may do so (`Hub.handed_out_after_leaving`).
-/

namespace AlertRelay

/-! ## Scans -/

namespace Subscription

variable {s : Subscription} {l : Log} {entry : TopicPartition × Int} {r : Record}

/-- A partition offers a record just if it is not paused and the record lies at its position. -/
theorem available?_eq_some :
    s.available? l entry = some r ↔
      s.isPaused entry.1 = false ∧ l.record? entry.1 entry.2 = some r := by
  unfold Subscription.available?
  split
  · next paused => simp only [reduceCtorEq, paused, Bool.true_eq_false, false_and]
  · next free => simp only [Bool.eq_false_iff.mpr free, true_and]

/-- A partition offers nothing just if it is paused or has no record at its position. -/
theorem available?_eq_none :
    s.available? l entry = none ↔
      (s.isPaused entry.1 = false → l.record? entry.1 entry.2 = none) := by
  unfold Subscription.available?
  split
  · next paused => simp only [paused, Bool.true_eq_false, false_implies]
  · next free => simp only [Bool.eq_false_iff.mpr free, true_implies]

/-- What is served was available. -/
theorem available_of_serve {entries : List (TopicPartition × Int)}
    (served : (s.serve l entries).1 = some r) :
    ∃ entry ∈ entries, s.available? l entry = some r := by
  induction entries with
  | nil => cases served
  | cons entry rest ih =>
      rw [Subscription.serve] at served
      cases available : s.available? l entry with
      | some found =>
          rw [available] at served
          cases served
          exact ⟨entry, List.mem_cons_self, available⟩
      | none =>
          rw [available] at served
          obtain ⟨found, there, offered⟩ := ih served
          exact ⟨found, List.mem_cons_of_mem entry there, offered⟩

/-- Nothing is served just if no partition has anything to offer. -/
theorem serve_eq_none {entries : List (TopicPartition × Int)} :
    (s.serve l entries).1 = none ↔ ∀ entry ∈ entries, s.available? l entry = none := by
  induction entries with
  | nil => simp only [Subscription.serve, List.not_mem_nil, false_implies, implies_true]
  | cons entry rest ih =>
      rw [Subscription.serve, List.forall_mem_cons]
      cases available : s.available? l entry with
      | some found => simp only [reduceCtorEq, false_and]
      | none => simp only [true_and, ih]

/-- A scan goes over all assigned partitions. -/
theorem mem_turnOrder : entry ∈ s.turnOrder ↔ entry ∈ s.positions := by
  unfold Subscription.turnOrder
  rw [List.mem_append, Or.comm, ← List.mem_append, List.take_append_drop]

/-- What is handed out lies at the position of a partition that is not paused. -/
theorem unpaused_of_scan (served : (s.scan l).1 = some r) :
    ∃ entry ∈ s.positions, s.isPaused entry.1 = false ∧ l.record? entry.1 entry.2 = some r := by
  rcases s.scan_eq_serve l with nothing | ⟨cursor, serves⟩
  · rw [nothing] at served
    cases served
  · rw [serves] at served
    obtain ⟨entry, there, available⟩ := available_of_serve served
    exact ⟨entry, mem_turnOrder.mp there, available?_eq_some.mp available⟩

/-- A scan finds nothing just if no partition that is not paused has a record at its position. -/
theorem scan_eq_none :
    (s.scan l).1 = none ↔ ∀ entry ∈ s.positions,
      s.isPaused entry.1 = false → l.record? entry.1 entry.2 = none := by
  unfold Subscription.scan
  split
  · next none =>
    simp only [List.isEmpty_iff.mp none, List.not_mem_nil, false_implies, implies_true]
  · rw [serve_eq_none]
    exact forall_congr' fun entry => imp_congr mem_turnOrder available?_eq_none

/-- Whether a member reads on in a partition from an offset, if it reads the partition at all. -/
def ReadsFrom (s : Subscription) (tp : TopicPartition) (next : Int) : Prop :=
  ∀ position ∈ s.positionsOf tp, position = next

/-- A seek sets the position of a partition, or it is refused. -/
theorem seek_cases (s : Subscription) (l : Log) (tp : TopicPartition) (offset : Int) :
    s.seek l tp offset = (.ok (), s.setPosition tp offset, l.ring) ∨
      ∃ cause, s.seek l tp offset = (.error cause, s, l) := by
  unfold Subscription.seek
  split
  · exact .inl rfl
  · exact .inr ⟨_, rfl⟩

/-- To join a group changes nothing about where the group starts. -/
theorem startOffset_join (l : Log) (group : String) (topics : List String) (tp : TopicPartition) :
    startOffset (join l group topics).2 group tp = startOffset l group tp := by
  have same : (join l group topics).2.committed = l.committed :=
    List.foldlRecOn (motive := fun log : Log => log.committed = l.committed) topics _ rfl
      fun log same topic _ => (log.createTopic_committed topic 1).trans same
  unfold Subscription.startOffset Log.committed?
  rw [same]

end Subscription

/-! ## What events say -/

namespace MemberAct

/-- Whether a member pauses a partition, or lets it go on. -/
def pauses? (tp : TopicPartition) : MemberAct → Option Bool
  | pause tps => if tp ∈ tps then some true else none
  | resume tps => if tp ∈ tps then some false else none
  | reset => some false
  | _ => none

/-- Whether a member leaves. -/
def leaves? : MemberAct → Option Bool
  | close => some true
  | _ => none

/-- The record of a partition that a member is handed out. -/
def handed? (tp : TopicPartition) : MemberAct × HubAnswer → Option Record
  | (scan, .ok (some r)) => if r.topicPartition = tp then some r else none
  | _ => none

/-- The record that a member is handed out, of whatever partition. -/
def brings? : MemberAct × HubAnswer → Option Record
  | (scan, .ok found) => found
  | _ => none

/-- The offset of a partition that a member is set to, when its group starts there from an offset. A
seek names another one. -/
def sets? (start : Int) (tp : TopicPartition) : MemberAct × HubAnswer → Option Int
  | (reset, _) => some start
  | (seek other offset, .ok _) => if other = tp then some offset else none
  | _ => none

end MemberAct

namespace HubEvent

/-- The record of a partition that a member is handed out. -/
def handed? (id : Nat) (tp : TopicPartition) : HubEvent × HubAnswer → Option Record
  | (act i a, answer) => if i = id then MemberAct.handed? tp (a, answer) else none
  | _ => none

/-- The record that a member is handed out, of whatever partition. -/
def brings? (id : Nat) : HubEvent × HubAnswer → Option Record
  | (act i a, answer) => if i = id then MemberAct.brings? (a, answer) else none
  | _ => none

/-- Whether an event sets a member to an offset of a partition. -/
def repositions (id : Nat) (tp : TopicPartition) : HubEvent × HubAnswer → Bool
  | (join i _ _, _) => i = id
  | (act i a, answer) => i = id ∧ (MemberAct.sets? 0 tp (a, answer)).isSome
  | (call _, _) => false

variable (mark? : MemberAct → Option Bool)

/-- What an event says of a member. One that joins starts afresh. -/
def says? (id : Nat) : HubEvent → Option Bool
  | join i _ _ => if i = id then some false else none
  | act i a => if i = id then mark? a else none
  | call _ => none

/-- What was last said of a member. -/
def lastSaid (id : Nat) (events : List HubEvent) : Bool :=
  ((events.filterMap (says? mark? id)).getLast?).getD false

/-- What was last said of a member is what the last event says, if it says anything. -/
theorem lastSaid_snoc (id : Nat) (events : List HubEvent) (e : HubEvent) :
    lastSaid mark? id (events ++ [e]) = (says? mark? id e).getD (lastSaid mark? id events) := by
  unfold HubEvent.lastSaid
  rw [List.filterMap_append, List.getLast?_append]
  cases said : says? mark? id e with
  | none => rw [List.filterMap_cons_none said]; rfl
  | some b => rw [List.filterMap_cons_some said]; rfl

/-- Whether a partition is paused for a member, as the events say. -/
def Paused (id : Nat) (tp : TopicPartition) (events : List HubEvent) : Prop :=
  lastSaid (MemberAct.pauses? tp) id events = true

/-- Whether a member has left, as the events say. -/
def Left (id : Nat) (events : List HubEvent) : Prop :=
  lastSaid MemberAct.leaves? id events = true

end HubEvent

namespace MemberAct

variable (s : Subscription) (l : Log) (tp : TopicPartition) (a : MemberAct)

/-- A member pauses what it says that it pauses. -/
theorem isPaused_run : (a.run s l).2.1.isPaused tp = (a.pauses? tp).getD (s.isPaused tp) := by
  cases a with
  | scan =>
      change (s.scan l).2.paused.contains tp = _
      rw [(s.steady_scan l).paused]
      rfl
  | seek other offset =>
      change (s.seek l other offset).2.1.paused.contains tp = _
      rw [(s.steady_seek l other offset).paused]
      rfl
  | pause tps =>
      simp only [MemberAct.run, Subscription.pause, Subscription.isPaused, MemberAct.pauses?,
        List.contains_eq_mem, List.mem_append]
      split
      · next here => simp only [here, or_true, decide_true, Option.getD_some]
      · next apart => simp only [apart, or_false, Option.getD_none]
  | resume tps =>
      simp only [MemberAct.run, Subscription.resume, Subscription.isPaused, MemberAct.pauses?,
        List.contains_eq_mem, List.mem_filter, Bool.not_eq_true', decide_eq_false_iff_not]
      split
      · next here => simp only [here, not_true_eq_false, and_false, decide_false, Option.getD_some]
      · next apart => simp only [apart, not_false_eq_true, and_true, Option.getD_none]
  | look | reset | bump | close => rfl

/-- A member has left when it says so. -/
theorem closed_run : (a.run s l).2.1.closed = a.leaves?.getD s.closed := by
  cases a with
  | scan =>
      dsimp only [MemberAct.run, MemberAct.leaves?, Option.getD_none]
      rcases s.scan_eq_serve l with same | ⟨cursor, same⟩
      · rw [same]
      · rw [same]
        rcases Subscription.serve_cases { s with cursor := cursor } l s.turnOrder
          with served | ⟨_, _, _, _, served⟩
        · rw [served]
        · rw [served]
          rfl
  | seek other offset =>
      dsimp only [MemberAct.run, MemberAct.leaves?, Option.getD_none, Subscription.seek]
      split <;> rfl
  | look | pause tps | resume tps | reset | bump | close => rfl

variable {s l tp a}

/-- A member that is set to an offset reads from there. -/
theorem readsFrom_of_sets {base : Int}
    (set : sets? (Subscription.startOffset l s.group tp) tp (a, (a.run s l).1) = some base) :
    (a.run s l).2.1.ReadsFrom tp base := by
  cases a with
  | reset =>
      cases set
      intro position there
      exact Subscription.positionsOf_resetPositions there
  | seek other offset =>
      rcases s.seek_cases l other offset with moved | ⟨cause, refused⟩
      · simp only [run, moved, Except.map, sets?, Option.ite_none_right_eq_some] at set ⊢
        obtain ⟨rfl, same⟩ := set
        cases same
        intro position there
        exact Subscription.positionsOf_setPosition_self there
      · simp only [run, refused, Except.map, sets?, reduceCtorEq] at set
  | _ => cases set

/-- Until it is set anew, a member goes on behind the records that it is handed out. -/
theorem readsFrom_run {next : Int} (sound : l.WellFormed) (reads : s.ReadsFrom tp next)
    (kept : (sets? 0 tp (a, (a.run s l).1)).isSome = false) :
    (∀ r ∈ handed? tp (a, (a.run s l).1), r.offset = next ∧ l.record? tp next = some r) ∧
      (a.run s l).2.1.ReadsFrom tp
        (next + (handed? tp (a, (a.run s l).1)).toList.length) := by
  have stays : ∀ later : Subscription, later.positionsOf tp = s.positionsOf tp →
      later.ReadsFrom tp (next + ([] : List Record).length) := by
    intro later same position there
    rw [same] at there
    exact (reads position there).trans (Int.add_zero next).symm
  cases a with
  | scan =>
      simp only [run]
      rcases s.scan_cases l with
        ⟨cursor, nothing⟩ | ⟨other, offset, r, later, serves, at_, served⟩
      · rw [nothing]
        exact ⟨nofun, stays _ rfl⟩
      · rw [served]
        obtain ⟨place, here⟩ := sound.record?_place at_
        by_cases mine : other = tp
        · subst mine
          have first := reads offset (Subscription.mem_positionsOf.mpr serves.there)
          subst first
          simp only [handed?, place, ↓reduceIte, Option.mem_some_iff]
          refine ⟨?_, serves.moved⟩
          rintro _ rfl
          exact ⟨here, at_⟩
        · have empty : handed? tp (scan, .ok (some r)) = none :=
            if_neg fun same => mine (place.symm.trans same)
          rw [empty]
          exact ⟨nofun, stays _ (serves.kept tp (Ne.symm mine))⟩
  | seek other offset =>
      refine ⟨nofun, stays _ ?_⟩
      rcases s.seek_cases l other offset with moved | ⟨cause, refused⟩
      · simp only [run, moved, Except.map, sets?] at kept ⊢
        apply Subscription.positionsOf_setPosition_other
        rintro rfl
        simp at kept
      · simp only [run, refused]
  | reset => cases kept
  | look | pause tps | resume tps | bump | close => exact ⟨nofun, stays _ rfl⟩

/-- When a member has left, a look begins no poll any more, and only a scan hands something out. -/
theorem looked_of_closed (left : s.closed = true) {before : Nat} (able : a = scan → 0 < before) :
    (brings? (a, (a.run s l).1)).toList.length + a.looked s before ≤ before := by
  cases a with
  | look => simp only [brings?, looked, left, ↓reduceIte, Option.toList_none, List.length_nil,
      Nat.zero_add, Nat.le_refl]
  | scan =>
      have some_ := able rfl
      have one : (s.scan l).1.toList.length ≤ 1 := Option.length_toList_le
      simp only [run, brings?, looked]
      omega
  | pause tps | resume tps | seek tp offset | reset | bump | close =>
      simp only [brings?, looked, Option.toList_none, List.length_nil, Nat.zero_add, Nat.le_refl]

end MemberAct

namespace Hub

open HubEvent

variable {h : Hub} {id : Nat} {tp : TopicPartition} {next : Int} {ds : List Deposit}
  {events : List HubEvent} {s : Subscription} {a : MemberAct}

/-! ## Who does something -/

/-- Whoever does something has joined, and if it scans, one of its polls has looked. -/
theorem actor?_eq_some :
    h.actor? id a = some s ↔ h.member? id = some s ∧ (a = .scan → 0 < h.looked id) := by
  by_cases waits : a = .scan ∧ h.looked id = 0
  · obtain ⟨rfl, none⟩ := waits
    simp [Hub.actor?, none]
  · have able : a = .scan → 0 < h.looked id := fun scans =>
      Nat.pos_of_ne_zero fun none => waits ⟨scans, none⟩
    have same : h.actor? id a = h.member? id := by
      cases a with
      | scan => exact if_neg (Nat.pos_iff_ne_zero.mp (able rfl))
      | _ => rfl
    rw [same]
    exact (and_iff_left able).symm

/-- What a member does that is there to do it. -/
theorem step_of_actor (acts : h.actor? id a = some s) :
    h.step (.act id a) = ((a.run s h.log).1,
      h.put id (a.run s h.log).2.1 (a.looked s (h.looked id)) (a.run s h.log).2.2) := by
  rw [Hub.step, acts]

/-- Nothing happens without a member to do it. -/
theorem step_of_no_actor (idle : h.actor? id a = none) : h.step (.act id a) = (.ok none, h) := by
  rw [Hub.step, idle]

/-! ## What holds of a member by what it has said last -/

section Marks

variable {mark? : MemberAct → Option Bool} {flag : Subscription → Bool}

/-- Whether a mark of the members is what the events say it is. -/
def Marks (h : Hub) (mark? : MemberAct → Option Bool) (flag : Subscription → Bool)
    (events : List HubEvent) : Prop :=
  ∀ id s, h.member? id = some s → flag s = lastSaid mark? id events

/-- An event that changes one member, or none. -/
theorem Marks.snoc {after : Hub} (marked : h.Marks mark? flag events) (e : HubEvent) (i : Nat)
    (others : ∀ id, id ≠ i → after.member? id = h.member? id ∧ says? mark? id e = none)
    (here : ∀ s, after.member? i = some s →
      flag s = (says? mark? i e).getD (lastSaid mark? i events)) :
    after.Marks mark? flag (events ++ [e]) := by
  intro id s joined
  rw [lastSaid_snoc]
  by_cases same : id = i
  · subst same
    exact here s joined
  · obtain ⟨still, silent⟩ := others id same
    rw [still] at joined
    rw [silent, Option.getD_none]
    exact marked id s joined

/-- One event, if what a member does changes its mark as it says, and a scan says nothing. -/
theorem Marks.step (law : ∀ s l a, flag (MemberAct.run s l a).2.1 = (mark? a).getD (flag s))
    (silent : mark? .scan = none)
    (fresh : ∀ l group topics, flag (Subscription.join l group topics).1 = false)
    (marked : h.Marks mark? flag events) (e : HubEvent) :
    (h.step e).2.Marks mark? flag (events ++ [e]) := by
  cases e with
  | call c =>
      intro id s joined
      rw [lastSaid_snoc]
      exact marked id s joined
  | join i group topics =>
      apply marked.snoc _ i
      · intro id other
        exact ⟨if_neg other, if_neg (Ne.symm other)⟩
      · intro s joined
        have same : (Subscription.join h.log group topics).1 = s :=
          Option.some.inj ((if_pos rfl).symm.trans joined)
        rw [← same, fresh, says?, if_pos rfl]
        rfl
  | act i a =>
      cases acts : h.actor? i a with
      | none =>
          rw [step_of_no_actor acts]
          apply marked.snoc _ i
          · intro id other
            exact ⟨rfl, if_neg (Ne.symm other)⟩
          · intro s joined
            -- Only a scan can fail to take place when there is a member.
            have scans : a = .scan := by
              by_contra other
              exact Option.some_ne_none s
                ((actor?_eq_some.mpr ⟨joined, fun scans => absurd scans other⟩).symm.trans acts)
            rw [says?, if_pos rfl, scans, silent, Option.getD_none]
            exact marked i s joined
      | some before =>
          rw [step_of_actor acts]
          apply marked.snoc _ i
          · intro id other
            exact ⟨if_neg other, if_neg (Ne.symm other)⟩
          · intro s joined
            have same : (a.run before h.log).2.1 = s :=
              Option.some.inj ((if_pos rfl).symm.trans joined)
            rw [← same, law, says?, if_pos rfl, marked i before (actor?_eq_some.mp acts).1]

/-- What a mark is after one event, it is after any events. -/
theorem Marks.after (law : ∀ s l a, flag (MemberAct.run s l a).2.1 = (mark? a).getD (flag s))
    (silent : mark? .scan = none)
    (fresh : ∀ l group topics, flag (Subscription.join l group topics).1 = false)
    (marked : h.Marks mark? flag events) (more : List HubEvent) :
    (h.after more).Marks mark? flag (events ++ more) := by
  induction more generalizing h events with
  | nil =>
      rw [List.append_nil]
      exact marked
  | cons e rest ih =>
      rw [List.append_cons]
      exact ih (marked.step law silent fresh e)

end Marks

/-- A partition is paused for a member just if the events say so. -/
theorem isPaused_iff (names : Nat → String) (events : List HubEvent) {s : Subscription}
    (joined : ((start names).after events).member? id = some s) (tp : TopicPartition) :
    s.isPaused tp = true ↔ Paused id tp events := by
  have none : (start names).Marks (MemberAct.pauses? tp) (fun s => s.isPaused tp) [] := nofun
  have marked := none.after (fun s l => MemberAct.isPaused_run s l tp) rfl (fun _ _ _ => rfl) events
  have same : s.isPaused tp = _ := marked id s joined
  rw [HubEvent.Paused, same, List.nil_append]

/-- A member has left just if the events say so. -/
theorem closed_iff (names : Nat → String) (events : List HubEvent) {s : Subscription}
    (joined : ((start names).after events).member? id = some s) :
    s.closed = true ↔ Left id events := by
  have none : (start names).Marks MemberAct.leaves? Subscription.closed [] := nofun
  have marked := none.after MemberAct.closed_run rfl (fun _ _ _ => rfl) events
  rw [HubEvent.Left, marked id s joined, List.nil_append]

/-! ## Positions -/

/-- The offset of a partition that an event sets a member to: a seek names it, and who joins a group
or is assigned its partitions anew begins where the group has committed, or at the first record. -/
def sets? (h : Hub) (id : Nat) (tp : TopicPartition) : HubEvent × HubAnswer → Option Int
  | (.join i group _, _) =>
    if i = id then some (Subscription.startOffset h.log group tp) else none
  | (.act i a, answer) =>
    if i = id then (h.actor? id a).bind fun s =>
      MemberAct.sets? (Subscription.startOffset h.log s.group tp) tp (a, answer)
    else none
  | (.call _, _) => none

/-- Whether a member that has joined reads on in a partition from an offset. -/
def ReadsFrom (h : Hub) (id : Nat) (tp : TopicPartition) (next : Int) : Prop :=
  ∃ s, h.member? id = some s ∧ s.ReadsFrom tp next

/-- A member reads on from the offset that an event sets it to. -/
theorem readsFrom_of_sets {e : HubEvent} {base : Int}
    (set : h.sets? id tp (e, (h.step e).1) = some base) : (h.step e).2.ReadsFrom id tp base := by
  cases e with
  | call c => cases set
  | join i group topics =>
      rw [sets?, Option.ite_none_right_eq_some] at set
      obtain ⟨rfl, begins⟩ := set
      refine ⟨_, if_pos rfl, fun position there => ?_⟩
      rw [Subscription.positionsOf_join there, Subscription.startOffset_join]
      exact Option.some.inj begins
  | act i a =>
      rw [sets?, Option.ite_none_right_eq_some] at set
      obtain ⟨rfl, begins⟩ := set
      obtain ⟨s, acts, begins⟩ := Option.bind_eq_some_iff.mp begins
      rw [step_of_actor acts] at begins ⊢
      exact ⟨_, if_pos rfl, MemberAct.readsFrom_of_sets begins⟩

/-- One event for a member that reads on. -/
theorem ReadsFrom.step (sound : h.log.WellFormed) (reads : h.ReadsFrom id tp next) (e : HubEvent)
    (kept : repositions id tp (e, (h.step e).1) = false) :
    (∀ r ∈ HubEvent.handed? id tp (e, (h.step e).1),
      r.offset = next ∧ h.log.record? tp next = some r) ∧
    (h.step e).2.ReadsFrom id tp
      (next + (HubEvent.handed? id tp (e, (h.step e).1)).toList.length) := by
  obtain ⟨s, joined, reads⟩ := reads
  have apart : ∀ {later : Hub}, later.member? id = h.member? id →
      later.ReadsFrom id tp (next + ([] : List Record).length) := by
    intro later same
    refine ⟨s, same.trans joined, fun position there => ?_⟩
    exact (reads position there).trans (Int.add_zero next).symm
  cases e with
  | call c => exact ⟨nofun, apart rfl⟩
  | join i group topics =>
      have other : id ≠ i := fun same => of_decide_eq_false kept same.symm
      exact ⟨nofun, apart (if_neg other)⟩
  | act i a =>
      by_cases mine : i = id
      · subst mine
        cases acts : h.actor? i a with
        | none =>
            have silent : HubEvent.handed? i tp (.act i a, .ok none) = none := by
              simp only [HubEvent.handed?, MemberAct.handed?, ite_self]
            rw [step_of_no_actor acts, silent]
            exact ⟨nofun, apart rfl⟩
        | some actor =>
            cases joined.symm.trans (actor?_eq_some.mp acts).1
            rw [step_of_actor acts] at kept ⊢
            simp only [repositions, true_and, Bool.decide_eq_true] at kept
            simp only [HubEvent.handed?, ↓reduceIte]
            obtain ⟨found, later⟩ := MemberAct.readsFrom_run sound reads kept
            exact ⟨found, _, if_pos rfl, later⟩
      · have silent : HubEvent.handed? id tp (.act i a, (h.step (.act i a)).1) = none := if_neg mine
        rw [silent]
        refine ⟨nofun, apart ?_⟩
        rw [Hub.step]
        split
        · exact if_neg (Ne.symm mine)
        · rfl

/-- A member that reads on is handed out record after record. -/
theorem ReadsFrom.after (sound : h.Sound ds) (reads : h.ReadsFrom id tp next)
    {between : List HubEvent} (kept : ∀ e ∈ h.history between, repositions id tp e = false) :
    (∀ (i : Nat) r, ((h.history between).filterMap (HubEvent.handed? id tp))[i]? = some r →
      r.offset = next + i ∧ (h.after between).log.record? tp (next + i) = some r) ∧
    (h.after between).ReadsFrom id tp
      (next + ((h.history between).filterMap (HubEvent.handed? id tp)).length) := by
  have further : ∀ (next : Int) (count : Nat),
      next + ((1 : Nat) : Int) + (count : Int) = next + ((count + 1 : Nat) : Int) := by
    intro next count
    omega
  induction between generalizing h ds next with
  | nil =>
      refine ⟨nofun, ?_⟩
      rw [Hub.history, List.filterMap_nil, List.length_nil, Int.ofNat_zero, Int.add_zero]
      exact reads
  | cons e rest ih =>
      rw [Hub.history, List.forall_mem_cons] at kept
      obtain ⟨now, later⟩ := reads.step sound.shows_.wellFormed e kept.1
      obtain ⟨more, stepped⟩ := sound.step e
      obtain ⟨onwards, ends⟩ := ih stepped later kept.2
      rw [Hub.history, List.filterMap_cons]
      cases brings : HubEvent.handed? id tp (e, (h.step e).1) with
      | none =>
          rw [brings] at onwards ends
          simp only [Option.toList_none, List.length_nil, Int.ofNat_zero, Int.add_zero]
            at onwards ends
          exact ⟨onwards, ends⟩
      | some first =>
          rw [brings] at now onwards ends
          simp only [Option.toList_some, List.length_singleton] at onwards ends
          obtain ⟨offset, at_⟩ := now first rfl
          refine ⟨fun i r found => ?_, ?_⟩
          · cases i with
            | zero =>
                cases found
                obtain ⟨added, ran⟩ := sound.after (e :: rest)
                have kept := (sound.shows_.grown ran.shows_).extends tp next first at_
                rw [Int.ofNat_zero, Int.add_zero]
                exact ⟨offset, kept⟩
            | succ i =>
                rw [← further]
                exact onwards i r found
          · rw [further] at ends
            exact ends

/-! ## Leaving -/

/-- Whether a member has left, if there is one. -/
def Gone (h : Hub) (id : Nat) : Prop := ∀ s, h.member? id = some s → s.closed = true

/-- A member that has left stays away until it joins again, and what it is handed out goes to polls
that had looked before. -/
theorem Gone.step (gone : h.Gone id) (e : HubEvent)
    (away : ∀ group topics, e ≠ .join id group topics) :
    (h.step e).2.Gone id ∧
      (HubEvent.brings? id (e, (h.step e).1)).toList.length + (h.step e).2.looked id ≤
        h.looked id := by
  have still : ∀ {later : Hub}, later.member? id = h.member? id →
      later.looked id = h.looked id →
      later.Gone id ∧ ([] : List Record).length + later.looked id ≤ h.looked id := by
    intro later member looked
    refine ⟨fun s joined => gone s (member.symm.trans joined), ?_⟩
    rw [looked, List.length_nil, Nat.zero_add]
  cases e with
  | call c => exact still rfl rfl
  | join i group topics =>
      have other : id ≠ i := by
        rintro rfl
        exact away group topics rfl
      exact still (if_neg other) (if_neg other)
  | act i a =>
      by_cases mine : i = id
      · subst mine
        cases acts : h.actor? i a with
        | none =>
            have silent : HubEvent.brings? i (.act i a, .ok none) = none := by
              cases a <;> simp only [HubEvent.brings?, MemberAct.brings?, ite_self]
            rw [step_of_no_actor acts, silent]
            exact still rfl rfl
        | some s =>
            obtain ⟨joined, able⟩ := actor?_eq_some.mp acts
            have left := gone s joined
            rw [step_of_actor acts]
            simp only [HubEvent.brings?, Hub.put, ↓reduceIte]
            refine ⟨?_, MemberAct.looked_of_closed left able⟩
            intro later there
            cases (if_pos rfl).symm.trans there
            rw [MemberAct.closed_run, left]
            cases a <;> rfl
      · have silent : HubEvent.brings? id (.act i a, (h.step (.act i a)).1) = none := if_neg mine
        rw [silent, Hub.step]
        split
        · exact still (if_neg (Ne.symm mine)) (if_neg (Ne.symm mine))
        · exact still rfl rfl

/-- After a member has left, as many records are handed out to it as its polls had looked before, at
most. -/
theorem Gone.after (gone : h.Gone id) {more : List HubEvent}
    (away : ∀ group topics, .join id group topics ∉ more) :
    ((h.history more).filterMap (HubEvent.brings? id)).length ≤ h.looked id := by
  induction more generalizing h with
  | nil => exact Nat.zero_le _
  | cons e rest ih =>
      obtain ⟨stays, spent⟩ := gone.step e fun group topics same =>
        away group topics (same ▸ List.mem_cons_self)
      have later := ih stays fun group topics among =>
        away group topics (List.mem_cons_of_mem e among)
      rw [Hub.history, List.filterMap_cons]
      cases brings : HubEvent.brings? id (e, (h.step e).1) with
      | none =>
          rw [brings, Option.toList_none, List.length_nil] at spent
          dsimp only
          omega
      | some r =>
          rw [brings, Option.toList_some, List.length_singleton] at spent
          rw [List.length_cons]
          omega

/-! ## What polls answer -/

/-- A scan hands out nothing of a partition that is paused. -/
theorem unpaused_of_handed {names : Nat → String} {events : List HubEvent} {r : Record}
    (brings : (((start names).after events).step (.act id .scan)).1 = .ok (some r)) :
    ¬ Paused id r.topicPartition events := by
  obtain ⟨_, sound⟩ := (sound_start names).after events
  cases acts : ((start names).after events).actor? id .scan with
  | none =>
      rw [step_of_no_actor acts] at brings
      cases brings
  | some s =>
      rw [step_of_actor acts] at brings
      obtain ⟨entry, _, free, found⟩ := Subscription.unpaused_of_scan (Except.ok.inj brings)
      have place := (sound.shows_.wellFormed.record?_place found).1
      rw [place, ← isPaused_iff names events (actor?_eq_some.mp acts).1, free]
      exact Bool.false_ne_true

/-- A poll that looks is refused just if the member has left. -/
theorem look_refused_iff {names : Nat → String} {events : List HubEvent} {s : Subscription}
    (joined : ((start names).after events).member? id = some s) :
    (((start names).after events).step (.act id .look)).1 = .error .closed ↔ Left id events := by
  have acts : ((start names).after events).actor? id .look = some s := joined
  rw [step_of_actor acts, ← closed_iff names events joined]
  dsimp only [MemberAct.run]
  split
  · next left => simp only [left]
  · next there => simp only [there, reduceCtorEq, Bool.false_eq_true]

/-- A scan finds nothing just if no partition that the member reads and that is not paused has a
record where it reads on. -/
theorem scan_finds_nothing_iff {names : Nat → String} {events : List HubEvent} {s : Subscription}
    (joined : ((start names).after events).member? id = some s)
    (looked : 0 < ((start names).after events).looked id) :
    (((start names).after events).step (.act id .scan)).1 = .ok none ↔
      ∀ entry ∈ s.positions, ¬ Paused id entry.1 events →
        ((start names).after events).log.record? entry.1 entry.2 = none := by
  have acts : ((start names).after events).actor? id .scan = some s :=
    actor?_eq_some.mpr ⟨joined, fun _ => looked⟩
  rw [step_of_actor acts]
  simp only [MemberAct.run, Except.ok.injEq, ← isPaused_iff names events joined,
    Bool.not_eq_true]
  exact Subscription.scan_eq_none

/-- From the offset that it is set to in a partition and until it is set anew, a member is handed
out the records of the partition one after the other, as they lie in the log; what it is set to is
what a seek names, and otherwise what its group has committed, or the first record. It is handed out
nothing of a partition that is paused. A poll that looks after the member has left is refused, so
that from then on it is handed out no more than one record for each poll that had looked before. A
scan finds nothing just if no partition that the member reads and that is not paused has a record
where it reads on. -/
theorem hands_out_in_order (names : Nat → String) (events : List HubEvent) (id : Nat)
    (tp : TopicPartition) :
    let h := (start names).after events
    (∀ e base between, h.sets? id tp (e, (h.step e).1) = some base →
      let set := (h.step e).2
      let handed := (set.history between).filterMap (HubEvent.handed? id tp)
      (∀ e ∈ set.history between, repositions id tp e = false) →
      (∀ (i : Nat) r, handed[i]? = some r →
        r.offset = base + i ∧ (set.after between).log.record? tp (base + i) = some r) ∧
      ∀ s, (set.after between).member? id = some s →
        ∀ position ∈ s.positionsOf tp, position = base + handed.length) ∧
    (∀ r, (h.step (.act id .scan)).1 = .ok (some r) → ¬ Paused id r.topicPartition events) ∧
    (∀ s, h.member? id = some s →
      ((h.step (.act id .look)).1 = .error .closed ↔ Left id events)) ∧
    (Left id events → ∀ more, (∀ group topics, .join id group topics ∉ more) →
      ((h.history more).filterMap (HubEvent.brings? id)).length ≤ h.looked id) ∧
    ∀ s, h.member? id = some s → 0 < h.looked id → ((h.step (.act id .scan)).1 = .ok none ↔
      ∀ entry ∈ s.positions, ¬ Paused id entry.1 events →
        h.log.record? entry.1 entry.2 = none) := by
  intro h
  obtain ⟨ds, sound⟩ := (sound_start names).after events
  refine ⟨?_, fun r => unpaused_of_handed, fun s => look_refused_iff, fun left more => ?_,
    fun s => scan_finds_nothing_iff⟩
  · intro e base between sets set handed kept
    obtain ⟨more, stepped⟩ := sound.step e
    obtain ⟨inOrder, s, joined, ends⟩ := (readsFrom_of_sets sets).after stepped kept
    refine ⟨inOrder, fun found there => ?_⟩
    cases joined.symm.trans there
    exact ends
  · exact Gone.after fun s joined => (closed_iff names events joined).mpr left

/-- A member leaves between the look and the scan of a poll, and is handed out a record all the
same. -/
theorem handed_out_after_leaving :
    let events : List HubEvent := [.call (.publish ⟨"events", none, [], []⟩ 0),
      .join 0 "readers" ["events"], .act 0 .look, .act 0 .close]
    Left 0 events ∧
      ∃ r, (((start fun _ => "").after events).step (.act 0 .scan)).1 = .ok (some r) := by
  refine ⟨rfl, ?_⟩
  exact ⟨_, rfl⟩

end Hub

end AlertRelay
