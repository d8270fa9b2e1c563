import AlertRelay.Proofs.Relay.Atomicity

/-!
# Units of work in succession

Workers that share a group, a ledger and a log work on records one after the other, in any order of
offsets, while anything may go wrong. The offsets that they commit ascend in every partition, the
ledger and the log agree on the last one, and a record that is not behind it is refused
(`World.commits_ascend`).

One unit of work adds at most one offset, above what the ledger had (`UnitOfWork.run_advances`); how
a partition advances composes (`World.Advances.trans`).
-/

namespace AlertRelay

/-- A unit of work: who works on which record, and what goes wrong before which of its calls. -/
structure UnitOfWork where
  worker : Nat
  settings : RelaySettings
  plan : Nat → List Disturbance
  record : Record
  /-- Why the record is to be set aside. Without a reason it is handled. -/
  reason : Option DeadLetterReason

namespace Hindered

/-- What a worker does while a plan is carried out leaves the producers of other workers as they
are, but that they may lose their identifiers. -/
theorem run_others {α : Type} (plan : Nat → List Disturbance) {worker other : Nat}
    (different : worker ≠ other) (p : RelayProgram α) {w : World}
    (now : w.transaction? other .results = none ∨ w.Fenced other .results) :
    (p.run (surroundings plan worker) (start w)).2.world.transaction? other .results = none ∨
      (p.run (surroundings plan worker) (start w)).2.world.Fenced other .results := by
  refine Program.run_keeps (fun h : Hindered => h.world.transaction? other .results = none ∨
    h.world.Fenced other .results) (fun h request held => ?_) (fun h nanos held => ?_) p now
  · have spares := h.world.disturb_spares (plan h.calls)
    have accounts := World.reply_accounts (h.world.disturb (plan h.calls)) worker request
    refine held.imp (fun dropped => ?_) fun fenced =>
      accounts.fenced _ _ (spares.fenced _ _ fenced)
    exact ((accounts.transaction other .results).trans (if_neg different)).trans
      ((spares.transaction other .results).trans dropped)
  · have spares := h.world.wait_spares nanos
    exact held.imp (fun dropped => (spares.transaction other .results).trans dropped)
      fun fenced => spares.fenced _ _ fenced

end Hindered

namespace World

/-- Whether no results producer holds a transaction that it could still commit. -/
def Tidy (w : World) : Prop :=
  ∀ worker, w.transaction? worker .results = none ∨ w.Fenced worker .results

/-- The world once the ledger has refused a record: a failure is counted. -/
def refusing (w : World) (plan : Nat → List Disturbance) : World :=
  ((w.disturb (plan 0)).disturb (plan 1)).count fun k => k.countFailure .offset

end World

namespace Record

variable {s : RelaySettings} {r : Record} {w : World} {e : RelayError}

/-- A record that the ledger refuses is left alone. -/
theorem refused_run (plan : Nat → List Disturbance) (worker : Nat)
    (refused : w.ledger.check (.forRecord r s.group) = .error e) :
    (r.handle s).run (Hindered.surroundings plan worker) (.start w) =
        (some (.error e), ⟨w.refusing plan, 2, []⟩) ∧
      ∀ reason, (r.deadLetter s reason).run (Hindered.surroundings plan worker) (.start w) =
        (some (.error e), ⟨w.refusing plan, 2, []⟩) := by
  have first : (w.disturb (plan 0)).ledger.check (.forRecord r s.group) = .error e := by
    rw [(w.disturb_spares (plan 0)).ledger]
    exact refused
  constructor
  · simp only [Record.handle, RelayCall.ask, Program.call_bind, Program.done_bind, Program.run,
      Hindered.surroundings, Hindered.reply, Hindered.start, World.reply, first]
    rfl
  · intro reason
    simp only [Record.deadLetter, RelayCall.ask, Program.call_bind, Program.done_bind, Program.run,
      Hindered.surroundings, Hindered.reply, Hindered.start, World.reply, first]
    rfl

end Record

namespace UnitOfWork

variable {group : String} {u : UnitOfWork} {w : World}

/-- Does a unit of work for a group to its end. To set a record aside is an outcome too. -/
def run (group : String) (u : UnitOfWork) (w : World) :
    Option (Except RelayError Outcome) × World :=
  let s := { u.settings with group := group }
  match u.reason with
  | none =>
    let (outcome, h) := (u.record.handle s).run (Hindered.surroundings u.plan u.worker) (.start w)
    (outcome, h.world)
  | some reason =>
    let (result, h) :=
      (u.record.deadLetter s reason).run (Hindered.surroundings u.plan u.worker) (.start w)
    (result.map fun made => made.map fun _ => .deadLettered, h.world)

/-- The commit that a unit of work is about. -/
def commit (group : String) (u : UnitOfWork) : OffsetCommit := .forRecord u.record group

/-- A unit whose record the ledger refuses only counts a failure. -/
theorem run_refused {e : RelayError} (refused : w.ledger.check (u.commit group) = .error e) :
    u.run group w = (some (.error e), w.refusing u.plan) := by
  obtain ⟨handled, aside⟩ :=
    Record.refused_run (s := { u.settings with group := group }) u.plan u.worker refused
  unfold UnitOfWork.run
  cases u.reason with
  | none => simp only [handled]
  | some reason => simp only [aside, Option.map_some, Except.map]

/-- Every unit of work comes to an end and settles. -/
theorem run_settles (u : UnitOfWork) (group : String) (tidy : w.Tidy) :
    ∃ outcome h, u.run group w = (some outcome, h.world) ∧
      Hindered.Settles { u.settings with group := group } u.record u.worker w outcome h := by
  obtain ⟨stuck, fenced, closed⟩ : ∃ stuck, (stuck = true → w.Fenced u.worker .results) ∧
      (UnitView.enter (w.transaction? u.worker .results) (w.transaction? u.worker .alerts)
        stuck).Closed := by
    rcases tidy u.worker with idle | fenced
    · exact ⟨false, nofun, .inl idle⟩
    · exact ⟨true, fun _ => fenced, .inr rfl⟩
  have shows := Hindered.shows_enter (s := { u.settings with group := group }) (r := u.record)
    fenced
  unfold UnitOfWork.run
  cases u.reason with
  | none =>
      obtain ⟨outcome, h, later, ran, finished, shows⟩ :=
        Hindered.ends_of_obeys u.plan shows (u.record.handle_obeys rfl closed)
      exact ⟨outcome, h, by simp only [ran], Hindered.settles_of_finished shows finished⟩
  | some reason =>
      obtain ⟨result, h, later, ran, finished, shows⟩ :=
        Hindered.ends_of_obeys u.plan shows (u.record.deadLetter_obeys reason rfl closed)
      exact ⟨_, h, by simp only [ran, Option.map_some], Hindered.settles_of_finished shows finished⟩

/-- A unit leaves no transaction open that could be committed. -/
theorem run_tidy (tidy : w.Tidy) : (u.run group w).2.Tidy := by
  intro worker
  by_cases mine : u.worker = worker
  · obtain ⟨outcome, h, ran, settles⟩ := u.run_settles group tidy
    rw [ran, ← mine]
    exact settles.closed
  · unfold UnitOfWork.run
    cases u.reason with
    | none => exact Hindered.run_others u.plan mine _ (tidy worker)
    | some reason => exact Hindered.run_others u.plan mine _ (tidy worker)

end UnitOfWork

namespace World

variable {group : String} {tp : TopicPartition} {w later last : World} {added more : List Int}

/-- What a group has added to the commits of a partition: offsets that ascend from what the ledger
had, and of which ledger and log have the last one. -/
structure Advances (group : String) (tp : TopicPartition) (w later : World) (added : List Int) :
    Prop where
  log : later.log.offsetsOf group tp = w.log.offsetsOf group tp ++ added
  others : ∀ other, other ≠ group → later.log.offsetsOf other tp = w.log.offsetsOf other tp
  ascending : added.Pairwise (· < ·)
  above : ∀ offset ∈ added, ∀ known, w.ledger.last? group tp = some known → known < offset
  ledger : later.ledger.last? group tp = added.getLast?.or (w.ledger.last? group tp)
  committed : later.log.committed? group tp = added.getLast?.or (w.log.committed? group tp)

theorem Advances.refl (group : String) (tp : TopicPartition) (w : World) :
    w.Advances group tp w [] :=
  ⟨(List.append_nil _).symm, fun _ _ => rfl, .nil, nofun, rfl, rfl⟩

/-- The last of ascending offsets is the highest. -/
theorem Advances.le_last (advances : w.Advances group tp later added) {top : Int}
    (ends : added.getLast? = some top) : ∀ offset ∈ added, offset ≤ top := by
  obtain ⟨front, rfl⟩ := List.getLast?_eq_some_iff.mp ends
  intro offset among
  rcases List.mem_append.mp among with earlier | same
  · exact Int.le_of_lt ((List.pairwise_append.mp advances.ascending).2.2 offset earlier top
      (List.mem_singleton_self top))
  · exact Int.le_of_eq (List.mem_singleton.mp same)

theorem Advances.trans (first : w.Advances group tp later added)
    (second : later.Advances group tp last more) : w.Advances group tp last (added ++ more) := by
  have beyond : ∀ known, w.ledger.last? group tp = some known → ∀ offset ∈ more,
      known < offset := by
    intro known noted offset among
    cases ends : added.getLast? with
    | none =>
        refine second.above offset among known ?_
        rw [first.ledger, ends, noted]
        rfl
    | some top =>
        have here : later.ledger.last? group tp = some top := by
          rw [first.ledger, ends]
          rfl
        exact Int.lt_trans (first.above top (List.mem_of_getLast? ends) known noted)
          (second.above offset among top here)
  constructor
  · rw [second.log, first.log, List.append_assoc]
  · exact fun other different =>
      (second.others other different).trans (first.others other different)
  · refine List.pairwise_append.mpr ⟨first.ascending, second.ascending, fun a left b right => ?_⟩
    obtain ⟨top, ends⟩ : ∃ top, added.getLast? = some top :=
      ⟨_, List.getLast?_eq_some_getLast (List.ne_nil_of_mem left)⟩
    have here : later.ledger.last? group tp = some top := by
      rw [first.ledger, ends]
      rfl
    exact Int.lt_of_le_of_lt (first.le_last ends a left) (second.above b right top here)
  · intro offset among known noted
    rcases List.mem_append.mp among with left | right
    · exact first.above offset left known noted
    · exact beyond known noted offset right
  · rw [second.ledger, first.ledger, List.getLast?_append, Option.or_assoc]
  · rw [second.committed, first.committed, List.getLast?_append, Option.or_assoc]

/-- Where nothing is committed nothing advances. -/
theorem Advances.of_same (commitLog : later.log.commitLog = w.log.commitLog)
    (committed : later.log.committed = w.log.committed) (ledger : later.ledger = w.ledger) :
    w.Advances group tp later [] := by
  have offsets : ∀ other, later.log.offsetsOf other tp = w.log.offsetsOf other tp := by
    intro other
    unfold Log.offsetsOf
    rw [commitLog]
  refine ⟨?_, fun other _ => offsets other, .nil, nofun, ?_, ?_⟩
  · rw [offsets, List.append_nil]
  · rw [ledger]
    rfl
  · unfold Log.committed?
    rw [committed]
    rfl

/-- A commit that the ledger has admitted and noted advances its partition, and no other. -/
theorem Advances.of_commit {c : OffsetCommit} (admitted : w.ledger.Admits c)
    (commitLog : later.log.commitLog = w.log.commitLog ++ [c])
    (committed : later.log.committed? c.consumerGroup tp =
      (OffsetCommit.latest? c.consumerGroup tp [c]).or (w.log.committed? c.consumerGroup tp))
    (ledger : later.ledger = w.ledger.record c) :
    w.Advances c.consumerGroup tp later (if c.topicPartition = tp then [c.offset] else []) := by
  have offsets : ∀ other, later.log.offsetsOf other tp = w.log.offsetsOf other tp ++
      if c.consumerGroup = other ∧ c.topicPartition = tp then [c.offset] else [] := by
    intro other
    unfold Log.offsetsOf
    rw [commitLog, List.filter_append, List.map_append]
    congr 1
    split
    · next here => rw [List.filter_cons_of_pos (by simpa using here)]; rfl
    · next elsewhere => rw [List.filter_cons_of_neg (by simpa using elsewhere)]; rfl
  rw [OffsetCommit.latest?_cons] at committed
  have elsewhere : ∀ other, other ≠ c.consumerGroup →
      later.log.offsetsOf other tp = w.log.offsetsOf other tp := by
    intro other different
    rw [offsets, if_neg fun both => different both.1.symm, List.append_nil]
  by_cases here : c.topicPartition = tp
  · rw [if_pos here]
    rw [if_pos ⟨rfl, here⟩] at committed
    refine ⟨?_, elsewhere, List.pairwise_singleton _ _, fun offset among known noted => ?_, ?_,
      committed⟩
    · rw [offsets, if_pos ⟨rfl, here⟩]
    · rw [List.mem_singleton.mp among]
      exact admitted known (here ▸ noted)
    · rw [ledger, ← here]
      exact Ledger.last?_record_self admitted
  · have missed : ¬(c.consumerGroup = c.consumerGroup ∧ c.topicPartition = tp) :=
      fun both => here both.2
    rw [if_neg here]
    rw [if_neg missed] at committed
    refine ⟨?_, elsewhere, .nil, nofun, ?_, committed⟩
    · rw [offsets, if_neg missed]
    · rw [ledger]
      exact Ledger.last?_record_other missed

end World

namespace UnitOfWork

variable {group : String} {u : UnitOfWork} {w : World}

/-- One unit of work adds at most one offset to what a group has committed for a partition. -/
theorem run_advances (u : UnitOfWork) (group : String) (tidy : w.Tidy) (tp : TopicPartition) :
    ∃ more, w.Advances group tp (u.run group w).2 more := by
  cases checked : w.ledger.check (u.commit group) with
  | error e =>
      rw [u.run_refused checked]
      have spares := (w.disturb_spares (u.plan 0)).trans
        ((w.disturb (u.plan 0)).disturb_spares (u.plan 1))
      exact ⟨[], .of_same (congrArg Log.commitLog spares.log) (congrArg Log.committed spares.log)
        spares.ledger⟩
  | ok =>
      have admitted : w.ledger.Admits (u.commit group) := Ledger.check_eq_ok_iff.mp checked
      obtain ⟨outcome, h, ran, settles⟩ := u.run_settles group tidy
      rw [ran]
      by_cases left : outcome = .ok .failed ∨ ∃ e, outcome = .error e
      · obtain ⟨-, commitLog, committed, ledger⟩ := settles.untouched left
        exact ⟨[], .of_same commitLog committed ledger⟩
      · obtain ⟨done, rfl⟩ : ∃ done, outcome = .ok done := by
          cases outcome with
          | error e => exact (left (.inr ⟨e, rfl⟩)).elim
          | ok done => exact ⟨done, rfl⟩
        obtain ⟨-, commitLog, ledger, -⟩ :=
          settles.whole done rfl fun failed => left (.inl (by rw [failed]))
        have offsets : h.postings.flatMap Posting.offsets = [u.commit group] := by
          have grown := Posting.postAll_commitLog h.postings w.log
          rw [← settles.log.commitLog, commitLog] at grown
          exact (List.append_cancel_left grown).symm
        have committed : h.world.log.committed? group tp =
            (OffsetCommit.latest? group tp [u.commit group]).or (w.log.committed? group tp) := by
          rw [← offsets, ← Posting.postAll_committed?]
          unfold Log.committed?
          rw [settles.log.committed]
        exact ⟨_, World.Advances.of_commit admitted commitLog committed ledger⟩

end UnitOfWork

namespace World

/-- The world after units of work for a group, done one after the other. -/
def afterUnits (group : String) (w : World) (units : List UnitOfWork) : World :=
  units.foldl (fun w u => (u.run group w).2) w

/-- How a partition advances while units of work are done in succession. -/
theorem advances_afterUnits {w : World} (tidy : w.Tidy) (group : String) (tp : TopicPartition)
    (units : List UnitOfWork) : ∃ added, w.Advances group tp (w.afterUnits group units) added := by
  unfold World.afterUnits
  induction units generalizing w with
  | nil => exact ⟨[], .refl group tp w⟩
  | cons u rest ih =>
      obtain ⟨first, advances⟩ := u.run_advances group tidy tp
      obtain ⟨added, rest⟩ := ih (u.run_tidy tidy)
      exact ⟨first ++ added, advances.trans rest⟩

/-- Workers that share a group, a ledger and a log do units of work one after the other, on any
records and whatever goes wrong. The offsets that they add for a partition ascend; the ledger and
the log agree that the highest of them is the last; and a record that does not lie behind it is
refused, with nothing changed but the count of failures. -/
theorem commits_ascend (group : String) (w : World) (tidy : w.Tidy) (units : List UnitOfWork)
    (tp : TopicPartition) :
    ∃ added : List Int,
      (w.afterUnits group units).log.offsetsOf group tp = w.log.offsetsOf group tp ++ added ∧
        (∀ other, other ≠ group →
          (w.afterUnits group units).log.offsetsOf other tp = w.log.offsetsOf other tp) ∧
        added.Pairwise (· < ·) ∧
        ∀ top, added.getLast? = some top →
          (∀ offset ∈ added, offset ≤ top) ∧
            (w.afterUnits group units).ledger.last? group tp = some top ∧
            (w.afterUnits group units).log.committed? group tp = some top ∧
            ∀ next : UnitOfWork, next.record.topicPartition = tp → next.record.offset + 1 ≤ top →
              next.run group (w.afterUnits group units) =
                (some (.error (Ledger.regression (next.commit group) top)),
                  (w.afterUnits group units).refusing next.plan) := by
  obtain ⟨added, advances⟩ := advances_afterUnits tidy group tp units
  refine ⟨added, advances.log, advances.others, advances.ascending, fun top ends => ?_⟩
  have noted : (w.afterUnits group units).ledger.last? group tp = some top := by
    rw [advances.ledger, ends]
    rfl
  refine ⟨advances.le_last ends, noted, ?_, fun next here behind => ?_⟩
  · rw [advances.committed, ends]
    rfl
  · refine next.run_refused (Ledger.check_of_le ?_ (Int.le_trans next.record.nextOffset_le behind))
    rw [← here] at noted
    exact noted

/-- Two workers of one group. The commit of a record fails, the record is worked on again, the other
worker sets a later one aside, and then the first record comes once more. -/
theorem commits_ascend_two :
    let settings : RelaySettings := ⟨"group", "results", "alerts", "dead", .once, .once⟩
    let clients := WorkerClients.new "results" "alerts" (fun _ => .error (.scoring "none"))
      fun _ _ _ => .error (.labeling "none" false)
    let w := World.start [clients, clients] fun _ => default
    let calm : Nat → List Disturbance := fun _ => []
    let first : UnitOfWork := ⟨0, settings, calm, ⟨"events", 0, 4, none, [], []⟩, none⟩
    let hindered : UnitOfWork := { first with plan := fun calls =>
      if calls = 0 then [.failCommit 0 .results 1] else [] }
    let second : UnitOfWork :=
      ⟨1, settings, calm, ⟨"events", 0, 9, none, [], []⟩, some .processingFailure⟩
    let later := w.afterUnits "group" [hindered, first, second]
    w.Tidy ∧ later.log.offsetsOf "group" ⟨"events", 0⟩ = [5, 10] ∧
      later.ledger.last? "group" ⟨"events", 0⟩ = some 10 ∧
      first.run "group" later =
        (some (.error (Ledger.regression (first.commit "group") 10)), later.refusing calm) := by
  intro settings clients w calm first hindered second later
  have tidy : w.Tidy := by
    rintro (_ | _ | worker)
    · exact .inl rfl
    · exact .inl rfl
    · exact .inl rfl
  have offsets : later.log.offsetsOf "group" ⟨"events", 0⟩ = [5, 10] := by decide +kernel
  obtain ⟨added, log, -, -, last⟩ :=
    commits_ascend "group" w tidy [hindered, first, second] ⟨"events", 0⟩
  obtain rfl : [5, 10] = added := offsets.symm.trans log
  obtain ⟨-, noted, -, refused⟩ := last 10 rfl
  exact ⟨tidy, offsets, noted, refused first rfl (by decide)⟩

end World

end AlertRelay
