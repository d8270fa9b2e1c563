import AlertRelay.Store.Memory
import AlertRelay.Store.Persistent
import Mathlib.Data.List.Induction

/-!
# The store in memory and the store in a database

Both stores answer every sequence of calls from the alerts that the calls have left, at most one for
each event (`StoreCall.left`): the store in memory with the alerts themselves, the database with
what a table keeps of them (`Alert.inTable`). A table keeps times in whole microseconds, and loses
nothing else; but it refuses alerts of times that a timestamp does not hold (`StoreCall.Taken`), and
answers as if they had never been sent (`stores_answer_alike`).

Each store holds the alerts in its own form (`AlertStore.Holds`, `PersistentStore.Holds`); a call
answers from that form and keeps it.
-/

namespace AlertRelay

/-! ## What a table keeps -/

namespace Instant

/-- The nanoseconds from 2000 to an instant. -/
def nanosSinceMillennium (i : Instant) : Int := (i.seconds - millennium) * 1000000000 + i.nanos

/-- An instant as a table keeps it. -/
def inTable (i : Instant) : Instant := .ofMicrosSinceMillennium i.microsSinceMillennium

/-- Whether a timestamp holds an instant. -/
def Storable (i : Instant) : Prop :=
  Database.firstTimestamp ≤ i.microsSinceMillennium ∧
    i.microsSinceMillennium < Database.endTimestamp

instance : DecidablePred Instant.Storable := fun _ => instDecidableAnd

/-- Of the nanoseconds that are no whole microsecond a table keeps nothing. -/
theorem nanosSinceMillennium_inTable (i : Instant) :
    i.inTable.nanosSinceMillennium = i.nanosSinceMillennium.tdiv 1000 * 1000 := by
  unfold Instant.inTable Instant.ofMicrosSinceMillennium Instant.microsSinceMillennium
    Instant.nanosSinceMillennium
  generalize ((i.seconds - millennium) * 1000000000 + (i.nanos : Int)).tdiv 1000 = micros
  dsimp only
  omega

/-- A table keeps an instant of whole microseconds that is not in a leap second, and no other. -/
theorem inTable_eq_iff (i : Instant) : i.inTable = i ↔ i.nanos < 1000000000 ∧ 1000 ∣ i.nanos := by
  constructor
  · intro same
    rw [← same]
    unfold Instant.inTable Instant.ofMicrosSinceMillennium
    dsimp only
    omega
  · rintro ⟨short, parts, whole⟩
    have micros : i.microsSinceMillennium = (i.seconds - millennium) * 1000000 + parts := by
      unfold Instant.microsSinceMillennium
      rw [show (i.seconds - millennium) * 1000000000 + (i.nanos : Int) =
        ((i.seconds - millennium) * 1000000 + parts) * 1000 by omega,
        Int.mul_tdiv_cancel _ (by decide)]
    unfold Instant.inTable Instant.ofMicrosSinceMillennium
    rw [micros]
    refine Instant.mk.injEq .. ▸ ⟨?_, ?_⟩
    · omega
    · omega

end Instant

namespace Alert

/-- An alert as a table keeps it. -/
def inTable (a : Alert) : Alert := { a with eventTime := a.eventTime.inTable }

/-- An alert whose columns hold it: its usage has 32 bits, and its raw event is read back from the
column that it is written to. -/
structure Fits (a : Alert) : Prop where
  usage : a.usage < 0x100000000
  rawEvent : Json.parse? a.rawEvent.render = some a.rawEvent

/-- A table keeps an alert whose time it keeps, and no other. -/
theorem inTable_eq_iff (a : Alert) :
    a.inTable = a ↔ a.eventTime.nanos < 1000000000 ∧ 1000 ∣ a.eventTime.nanos := by
  rw [← Instant.inTable_eq_iff]
  exact ⟨congrArg Alert.eventTime, fun same => congrArg (fun t => { a with eventTime := t }) same⟩

/-- The row of an alert. -/
def row (a : Alert) : AlertRow :=
  ⟨some a.id, some a.eventId, some a.incident, some a.severity.name, some a.reason, some a.score,
    some a.eventTime.microsSinceMillennium, some a.rawEvent.render, some a.usage⟩

/-- The row of an alert is read as what a table keeps of it. -/
theorem toAlert_row {a : Alert} (fits : a.Fits) : a.row.toAlert = .ok a.inTable := by
  have pass : ∀ {α β : Type} (b : α) (f : α → Except StoreError β), (.ok b >>= f) = f b :=
    fun _ _ => rfl
  have severity : AlertRow.severityOf a.severity.name = .ok a.severity := by
    cases a.severity <;> rfl
  have rawEvent : AlertRow.jsonOf a.rawEvent.render = .ok a.rawEvent := by
    unfold AlertRow.jsonOf
    rw [fits.rawEvent]
  have usage : AlertRow.usageOf a.usage = .ok a.usage := by
    unfold AlertRow.usageOf
    rw [if_pos ⟨Int.natCast_nonneg _, by have := fits.usage; omega⟩, Int.toNat_natCast]
  unfold AlertRow.toAlert Alert.row
  simp only [AlertRow.column, pass]
  rw [severity, pass, rawEvent, pass, usage, pass]
  rfl

end Alert

/-! ## Calls and what they leave -/

/-- A call of an alert store. -/
inductive StoreCall where
  | insert (a : Alert)
  | delete (eventId : String)
  | get (eventId : String)

/-- What an alert store answers. -/
inductive StoreAnswer where
  | inserted (result : Except StoreError Bool)
  | deleted (result : Except StoreError Nat)
  | found (result : Except StoreError (Option Alert))

namespace StoreCall

/-- The alerts that a call leaves where there were others. What an event has is not replaced. -/
def after (held : String → Option Alert) : StoreCall → String → Option Alert
  | insert a, eventId => (held eventId).or (if a.eventId = eventId then some a else none)
  | delete other, eventId => if other = eventId then none else held eventId
  | get _, eventId => held eventId

/-- The alerts that calls leave where there were none. -/
def left (calls : List StoreCall) : String → Option Alert :=
  calls.foldl after fun _ => none

/-- The answer to a call where there are alerts. -/
def answer (held : String → Option Alert) : StoreCall → StoreAnswer
  | insert a => .inserted (.ok (held a.eventId).isNone)
  | delete eventId => .deleted (.ok (if (held eventId).isSome then 1 else 0))
  | get eventId => .found (.ok (held eventId))

/-- Whether a table takes a call: it refuses an alert of a time that a timestamp does not hold. -/
def Taken : StoreCall → Prop
  | insert a => a.eventTime.Storable
  | delete _ | get _ => True

instance : DecidablePred Taken
  | insert a => inferInstanceAs (Decidable a.eventTime.Storable)
  | delete _ | get _ => .isTrue trivial

/-- An insertion is taken just if the time of the alert can be stored. -/
@[simp]
theorem taken_insert (a : Alert) : (insert a).Taken ↔ a.eventTime.Storable := .rfl

@[simp]
theorem taken_delete (eventId : String) : (delete eventId).Taken := trivial

@[simp]
theorem taken_get (eventId : String) : (get eventId).Taken := trivial

variable {held : String → Option Alert}

/-- An insert for an event that has an alert leaves everything as it was. -/
theorem after_insert_of_some {a b : Alert} (known : held a.eventId = some b) :
    after held (.insert a) = held := by
  funext eventId
  change (held eventId).or _ = held eventId
  by_cases same : a.eventId = eventId
  · rw [← same, known]
    rfl
  · rw [if_neg same, Option.or_none]

/-- An insert for an event without an alert gives the event that alert, and no other event any. -/
theorem after_insert_of_none {a : Alert} (free : held a.eventId = none) (eventId : String) :
    after held (.insert a) eventId = if a.eventId = eventId then some a else held eventId := by
  change (held eventId).or _ = _
  by_cases same : a.eventId = eventId
  · rw [if_pos same, if_pos same, ← same, free]
    rfl
  · rw [if_neg same, if_neg same, Option.or_none]

/-- A delete for an event without an alert leaves everything as it was. -/
theorem after_delete_of_none {eventId : String} (free : held eventId = none) :
    after held (.delete eventId) = held := by
  funext other
  change (if eventId = other then none else held other) = held other
  by_cases same : eventId = other
  · rw [if_pos same, ← same, free]
  · rw [if_neg same]

/-- What is left was inserted, for the event that has it. -/
theorem mem_of_left {calls : List StoreCall} {eventId : String} {a : Alert}
    (some_left : left calls eventId = some a) : .insert a ∈ calls ∧ a.eventId = eventId := by
  unfold StoreCall.left at some_left
  induction calls using List.reverseRecOn with
  | nil => cases some_left
  | append_singleton earlier call ih =>
      rw [List.foldl_append, List.foldl_cons, List.foldl_nil] at some_left
      have before : earlier.foldl after (fun _ => none) eventId = some a →
          .insert a ∈ earlier ++ [call] ∧ a.eventId = eventId := fun known =>
        (ih known).imp_left (List.mem_append_left _)
      cases call with
      | insert b =>
          rcases Option.or_eq_some_iff.mp some_left with known | ⟨-, now⟩
          · exact before known
          · split at now
            · next same =>
              cases now
              exact ⟨List.mem_append_right _ (List.mem_singleton_self _), same⟩
            · cases now
      | delete other =>
          change (if other = eventId then none else _) = _ at some_left
          split at some_left
          · cases some_left
          · exact before some_left
      | get other => exact before some_left

/-- What is left of the calls that a table takes fits its columns if all that was inserted does. -/
theorem fits_of_left {calls : List StoreCall} (fits : ∀ a, .insert a ∈ calls → a.Fits)
    (eventId : String) (a : Alert) (held : left (calls.filter (·.Taken)) eventId = some a) :
    a.Fits :=
  fits a (List.mem_filter.mp (mem_of_left held).1).1

/-- An alert that was inserted for an event without one stays until the event is deleted. -/
theorem left_of_insert (earlier : List StoreCall) (a : Alert) {later : List StoreCall}
    (free : left earlier a.eventId = none) (kept : .delete a.eventId ∉ later) :
    left (earlier ++ .insert a :: later) a.eventId = some a := by
  unfold StoreCall.left at free ⊢
  rw [List.foldl_append, List.foldl_cons]
  have inserted : after (earlier.foldl after fun _ => none) (.insert a) a.eventId = some a := by
    change Option.or _ (if a.eventId = a.eventId then some a else none) = some a
    rw [free, if_pos rfl]
    rfl
  generalize after (earlier.foldl after fun _ => none) (.insert a) = held at inserted
  induction later generalizing held with
  | nil => exact inserted
  | cons call rest ih =>
      rw [List.mem_cons, not_or] at kept
      refine ih kept.2 _ ?_
      cases call with
      | insert b =>
          change (held a.eventId).or _ = some a
          rw [inserted]
          rfl
      | delete other =>
          change (if other = a.eventId then none else held a.eventId) = some a
          rw [if_neg fun same => kept.1 (by rw [same]), inserted]
      | get other => exact inserted

end StoreCall

namespace StoreAnswer

/-- An answer from what a table keeps. -/
def inTable : StoreAnswer → StoreAnswer
  | found (.ok held) => found (.ok (held.map Alert.inTable))
  | other => other

end StoreAnswer

/-! ## The two stores -/

namespace AlertStore

variable {s : AlertStore} {held : String → Option Alert}

/-- One call. -/
def answer (s : AlertStore) : StoreCall → StoreAnswer × AlertStore
  | .insert a =>
    let (stored, s) := s.insertIfAbsent a
    (.inserted stored, s)
  | .delete eventId =>
    let (deleted, s) := s.deleteByEventId eventId
    (.deleted deleted, s)
  | .get eventId => (.found (s.get eventId), s)

/-- The store after calls. -/
def after (s : AlertStore) (calls : List StoreCall) : AlertStore :=
  calls.foldl (fun s call => (s.answer call).2) s

/-- An open store without faults that holds alerts. -/
structure Holds (s : AlertStore) (held : String → Option Alert) : Prop where
  opened : s.closed = false
  inserts : s.failInserts = false
  deletes : s.failDeletes = false
  rows : ∀ eventId, s.rows.get? eventId = held eventId

theorem holds_empty : AlertStore.empty.Holds (StoreCall.left []) :=
  ⟨rfl, rfl, rfl, fun _ => rfl⟩

/-- An alert is stored if its event has none. -/
theorem Holds.insert (holds : s.Holds held) (a : Alert) :
    s.insertIfAbsent a = (.ok (held a.eventId).isNone,
      if (held a.eventId).isSome then s else { s with rows := s.rows.put a.eventId a }) := by
  unfold AlertStore.insertIfAbsent Table.contains
  rw [holds.opened, holds.inserts, holds.rows]
  cases held a.eventId with
  | some b => rfl
  | none => rfl

/-- The alert of an event is taken out if it has one. -/
theorem Holds.delete (holds : s.Holds held) (eventId : String) :
    s.deleteByEventId eventId = (.ok (if (held eventId).isSome then 1 else 0),
      if (held eventId).isSome then { s with rows := s.rows.erase eventId } else s) := by
  unfold AlertStore.deleteByEventId Table.contains
  rw [holds.opened, holds.deletes, holds.rows]
  cases held eventId with
  | some b => rfl
  | none => rfl

/-- A store that holds some alerts finds each of them. -/
theorem Holds.get (holds : s.Holds held) (eventId : String) :
    s.get eventId = .ok (held eventId) := by
  unfold AlertStore.get
  rw [holds.opened, holds.rows]
  rfl

/-- A store holds an alert that was put besides the others. -/
theorem Holds.put (holds : s.Holds held) {a : Alert} (free : held a.eventId = none) :
    { s with rows := s.rows.put a.eventId a }.Holds (StoreCall.after held (.insert a)) := by
  refine ⟨holds.opened, holds.inserts, holds.deletes, fun eventId => ?_⟩
  rw [StoreCall.after_insert_of_none free, Table.get?_put, holds.rows]

/-- A store holds all alerts but the one that was erased. -/
theorem Holds.erase (holds : s.Holds held) (eventId : String) :
    { s with rows := s.rows.erase eventId }.Holds (StoreCall.after held (.delete eventId)) := by
  refine ⟨holds.opened, holds.inserts, holds.deletes, fun other => ?_⟩
  rw [Table.get?_erase, holds.rows]
  rfl

/-- A call is answered from the alerts that are held, and leaves what it should. -/
theorem Holds.answer (holds : s.Holds held) (call : StoreCall) :
    (s.answer call).1 = call.answer held ∧ (s.answer call).2.Holds (call.after held) := by
  cases call with
  | insert a =>
      unfold AlertStore.answer
      dsimp only
      rw [holds.insert]
      refine ⟨rfl, ?_⟩
      cases known : held a.eventId with
      | some b =>
          rw [StoreCall.after_insert_of_some known]
          exact holds
      | none => exact holds.put known
  | delete eventId =>
      unfold AlertStore.answer
      dsimp only
      rw [holds.delete]
      refine ⟨rfl, ?_⟩
      cases known : held eventId with
      | some b => exact holds.erase eventId
      | none =>
          rw [StoreCall.after_delete_of_none known]
          exact holds
  | get eventId => exact ⟨congrArg StoreAnswer.found (holds.get eventId), holds⟩

/-- After any calls the store in memory holds what they have left. -/
theorem holds_after (calls : List StoreCall) :
    (AlertStore.empty.after calls).Holds (StoreCall.left calls) := by
  unfold AlertStore.after StoreCall.left
  induction calls using List.reverseRecOn with
  | nil => exact holds_empty
  | append_singleton earlier call ih =>
      rw [List.foldl_append, List.foldl_append]
      exact (ih.answer call).2

end AlertStore

namespace PersistentStore

variable {s : PersistentStore} {held : String → Option Alert}

/-- One call. -/
def answer (s : PersistentStore) : StoreCall → StoreAnswer × PersistentStore
  | .insert a =>
    let (stored, s) := s.insertIfAbsent a
    (.inserted stored, s)
  | .delete eventId =>
    let (deleted, s) := s.deleteByEventId eventId
    (.deleted deleted, s)
  | .get eventId =>
    let (found, s) := s.get eventId
    (.found found, s)

/-- The store after calls. -/
def after (s : PersistentStore) (calls : List StoreCall) : PersistentStore :=
  calls.foldl (fun s call => (s.answer call).2) s

/-- An open store over a table of alerts in which no statement is made to fail. -/
structure Holds (s : PersistentStore) (held : String → Option Alert) : Prop where
  opened : s.closed = false
  reached : s.refused = false
  steady : s.database.failNext = 0
  ranged : s.database.ranged = true
  rows : ∀ eventId, s.database.ofEvent eventId = ((held eventId).map Alert.row).toList

/-- The store after a statement that has left these rows. -/
def ran (s : PersistentStore) (query : SqlQuery) (rows : List AlertRow) : PersistentStore :=
  { s with database := { s.database with rows := rows, log := s.database.log ++ [query] } }

theorem holds_empty : PersistentStore.empty.Holds (StoreCall.left []) :=
  ⟨rfl, rfl, rfl, rfl, fun _ => rfl⟩

/-- A statement that fits is run, and taken down. -/
theorem Holds.run (holds : s.Holds held) {query : SqlQuery} {reply : SqlReply}
    {rows : List AlertRow} (applied : s.database.apply query = some (reply, rows)) :
    s.run query = (.ok reply, s.ran query rows) := by
  unfold PersistentStore.run Database.execute PersistentStore.ran
  dsimp only
  rw [holds.opened, holds.reached, holds.steady, applied]
  rfl

/-- A statement that does not fit fails, and is taken down. -/
theorem Holds.run_unfit (holds : s.Holds held) {query : SqlQuery}
    (unfit : s.database.apply query = none) :
    s.run query = (.error (.database "statement failed"), s.ran query s.database.rows) := by
  unfold PersistentStore.run Database.execute PersistentStore.ran
  dsimp only
  rw [holds.opened, holds.reached, holds.steady, unfit]
  rfl

/-- A store holds what the rows of a table show after a query. -/
theorem Holds.ran (holds : s.Holds held) (query : SqlQuery) {rows : List AlertRow}
    {later : String → Option Alert}
    (shows : ∀ eventId, (rows.filter fun row => row.eventId == some eventId) =
      ((later eventId).map Alert.row).toList) : (s.ran query rows).Holds later :=
  ⟨holds.opened, holds.reached, holds.steady, holds.ranged, shows⟩

/-- The table takes the times that a timestamp holds. -/
theorem Holds.takesTime (holds : s.Holds held) (i : Instant) :
    s.database.takesTime i.microsSinceMillennium = decide i.Storable := by
  unfold Database.takesTime
  rw [holds.ranged]
  rfl

/-- An alert of a time that a timestamp holds is stored if its event has none. -/
theorem Holds.insert (holds : s.Holds held) {a : Alert} (storable : a.eventTime.Storable) :
    s.insertIfAbsent a = (.ok (held a.eventId).isNone, s.ran ⟨.insertAlert, a.parameters⟩
      (if (held a.eventId).isSome then s.database.rows else s.database.rows ++ [a.row])) := by
  have applied : s.database.apply ⟨.insertAlert, a.parameters⟩ =
      some (if (held a.eventId).isSome then (⟨[], 0⟩, s.database.rows)
        else (⟨[a.row], 1⟩, s.database.rows ++ [a.row])) := by
    unfold Alert.parameters Database.apply
    dsimp only
    rw [holds.takesTime, decide_eq_true storable, holds.rows]
    cases held a.eventId with
    | some b => rfl
    | none => rfl
  unfold PersistentStore.insertIfAbsent
  cases known : held a.eventId with
  | some b =>
      rw [known] at applied
      rw [holds.run applied]
      rfl
  | none =>
      rw [known] at applied
      rw [holds.run applied]
      rfl

/-- An alert of any other time is not stored, whether or not its event has one. -/
theorem Holds.insert_refused (holds : s.Holds held) {a : Alert}
    (outside : ¬a.eventTime.Storable) :
    s.insertIfAbsent a = (.error (.database "statement failed"),
      s.ran ⟨.insertAlert, a.parameters⟩ s.database.rows) := by
  have unfit : s.database.apply ⟨.insertAlert, a.parameters⟩ = none := by
    unfold Alert.parameters Database.apply
    dsimp only
    rw [holds.takesTime, decide_eq_false outside]
    rfl
  unfold PersistentStore.insertIfAbsent
  rw [holds.run_unfit unfit]
  rfl

/-- The rows of an event are removed. -/
theorem Holds.delete (holds : s.Holds held) (eventId : String) :
    s.deleteByEventId eventId = (.ok (if (held eventId).isSome then 1 else 0),
      s.ran ⟨.deleteAlert, [.text eventId]⟩ (s.database.ofOthers eventId)) := by
  have applied : s.database.apply ⟨.deleteAlert, [.text eventId]⟩ =
      some (⟨[], (s.database.ofEvent eventId).length⟩, s.database.ofOthers eventId) := rfl
  unfold PersistentStore.deleteByEventId
  rw [holds.run applied, holds.rows]
  cases held eventId with
  | some b => rfl
  | none => rfl

/-- The row of an event is read as what the table keeps of its alert. -/
theorem Holds.get (holds : s.Holds held) (fits : ∀ eventId a, held eventId = some a → a.Fits)
    (eventId : String) : s.get eventId = (.ok ((held eventId).map Alert.inTable),
      s.ran ⟨.selectAlert, [.text eventId]⟩ s.database.rows) := by
  have applied : s.database.apply ⟨.selectAlert, [.text eventId]⟩ =
      some (⟨s.database.ofEvent eventId, (s.database.ofEvent eventId).length⟩,
        s.database.rows) := rfl
  unfold PersistentStore.get
  rw [holds.run applied, holds.rows]
  cases known : held eventId with
  | some a =>
      change ((a.row.toAlert).map some, _) = _
      rw [Alert.toAlert_row (fits eventId a known)]
      rfl
  | none => rfl

/-- The rows of an event once the row of an alert has been added for an event without one. -/
theorem Holds.rows_added (holds : s.Holds held) {a : Alert} (free : held a.eventId = none)
    (eventId : String) :
    ((s.database.rows ++ [a.row]).filter fun row => row.eventId == some eventId) =
      ((StoreCall.after held (.insert a) eventId).map Alert.row).toList := by
  have others := holds.rows eventId
  unfold Database.ofEvent at others
  rw [StoreCall.after_insert_of_none free, List.filter_append, others]
  by_cases same : a.eventId = eventId
  · rw [if_pos same, ← same, free]
    exact List.filter_cons_of_pos (p := fun row : AlertRow => row.eventId == some a.eventId)
      (beq_self_eq_true (some a.eventId))
  · rw [if_neg same, List.filter_cons_of_neg (by simpa [Alert.row] using same)]
    exact List.append_nil _

/-- The rows of an event once those of an event have been removed. -/
theorem Holds.rows_removed (holds : s.Holds held) (eventId other : String) :
    ((s.database.ofOthers eventId).filter fun row => row.eventId == some other) =
      ((StoreCall.after held (.delete eventId) other).map Alert.row).toList := by
  unfold Database.ofOthers
  change _ = ((if eventId = other then none else held other).map Alert.row).toList
  rw [List.filter_filter]
  by_cases same : eventId = other
  · rw [if_pos same, ← same]
    exact List.filter_eq_nil_iff.mpr fun row _ => by simp [bne]
  · have others := holds.rows other
    unfold Database.ofEvent at others
    rw [if_neg same, ← others]
    refine List.filter_congr fun row _ => ?_
    by_cases here : row.eventId = some other
    · simp [here, Ne.symm same]
    · simp [here]

/-- A call that the table takes is answered with what it keeps of the alerts that are held, and
leaves what it should. -/
theorem Holds.answer (holds : s.Holds held)
    (fits : ∀ eventId a, held eventId = some a → a.Fits) {call : StoreCall} (taken : call.Taken) :
    (s.answer call).1 = (call.answer held).inTable ∧ (s.answer call).2.Holds (call.after held) := by
  cases call with
  | insert a =>
      unfold PersistentStore.answer
      dsimp only
      rw [holds.insert taken]
      refine ⟨rfl, holds.ran _ ?_⟩
      cases known : held a.eventId with
      | some b =>
          rw [StoreCall.after_insert_of_some known]
          exact holds.rows
      | none => exact holds.rows_added known
  | delete eventId =>
      unfold PersistentStore.answer
      dsimp only
      rw [holds.delete]
      exact ⟨rfl, holds.ran _ (holds.rows_removed eventId)⟩
  | get eventId =>
      unfold PersistentStore.answer
      dsimp only
      rw [holds.get fits]
      exact ⟨rfl, holds.ran _ holds.rows⟩

/-- A call that the table refuses is answered with an error, and leaves the alerts that are held. -/
theorem Holds.answer_refused (holds : s.Holds held) {call : StoreCall} (refused : ¬call.Taken) :
    (s.answer call).1 = .inserted (.error (.database "statement failed")) ∧
      (s.answer call).2.Holds held := by
  cases call with
  | insert a =>
      unfold PersistentStore.answer
      dsimp only
      rw [holds.insert_refused refused]
      exact ⟨rfl, holds.ran _ holds.rows⟩
  | delete eventId => exact (refused (StoreCall.taken_delete eventId)).elim
  | get eventId => exact (refused (StoreCall.taken_get eventId)).elim

/-- After any calls the database holds what those have left that it took. -/
theorem holds_after {calls : List StoreCall} (fits : ∀ a, .insert a ∈ calls → a.Fits) :
    (PersistentStore.empty.after calls).Holds (StoreCall.left (calls.filter (·.Taken))) := by
  unfold PersistentStore.after StoreCall.left
  induction calls using List.reverseRecOn with
  | nil => exact holds_empty
  | append_singleton earlier call ih =>
      have before : ∀ a, .insert a ∈ earlier → a.Fits := fun a among =>
        fits a (List.mem_append_left _ among)
      rw [List.foldl_append, List.filter_append, List.foldl_append]
      by_cases taken : call.Taken
      · rw [List.filter_cons, if_pos (decide_eq_true taken)]
        exact ((ih before).answer (StoreCall.fits_of_left before) taken).2
      · rw [List.filter_cons, if_neg (by simpa using taken)]
        exact ((ih before).answer_refused taken).2

end PersistentStore

/-- Whatever was called before, on alerts that the columns hold, the store in memory answers a call
from the alerts that are left, as they were inserted. The database fails to insert an alert of a
time that a timestamp does not hold; it answers every other call with what a table keeps of the
alerts that would be left without such calls. So as long as no call has such an alert, both answer
from the same alerts. What is left of an event is the alert that was inserted when it had none and
that has not been deleted since. A table keeps the alert itself unless its time is finer than a
microsecond, or in a leap second; then only the time differs, by the part of a microsecond that a
table drops. -/
theorem stores_answer_alike (earlier : List StoreCall)
    (fits : ∀ a, .insert a ∈ earlier → a.Fits) (call : StoreCall) :
    ((AlertStore.empty.after earlier).answer call).1 = call.answer (StoreCall.left earlier) ∧
      ((PersistentStore.empty.after earlier).answer call).1 =
        (if call.Taken then (call.answer (StoreCall.left (earlier.filter (·.Taken)))).inTable
          else .inserted (.error (.database "statement failed"))) ∧
      ((∀ other ∈ call :: earlier, other.Taken) →
        ((PersistentStore.empty.after earlier).answer call).1 =
          ((AlertStore.empty.after earlier).answer call).1.inTable) ∧
      (∀ before a later, earlier = before ++ .insert a :: later →
        StoreCall.left before a.eventId = none → .delete a.eventId ∉ later →
          StoreCall.left earlier a.eventId = some a) ∧
      ∀ a : Alert, (a.inTable = a ↔ a.eventTime.nanos < 1000000000 ∧ 1000 ∣ a.eventTime.nanos) ∧
        { a.inTable with eventTime := a.eventTime } = a ∧
        a.inTable.eventTime.nanosSinceMillennium =
          a.eventTime.nanosSinceMillennium.tdiv 1000 * 1000 := by
  have memory := ((AlertStore.holds_after earlier).answer call).1
  have holds := PersistentStore.holds_after fits
  have taken (takes : call.Taken) := (holds.answer (StoreCall.fits_of_left fits) takes).1
  refine ⟨memory, ?_, fun all => ?_, fun before a _ is free kept =>
    is ▸ StoreCall.left_of_insert before a free kept,
    fun a => ⟨a.inTable_eq_iff, rfl, a.eventTime.nanosSinceMillennium_inTable⟩⟩
  · split
    · next takes => exact taken takes
    · next refuses => exact (holds.answer_refused refuses).1
  · obtain ⟨takes, others⟩ := List.forall_mem_cons.mp all
    have same : earlier.filter (·.Taken) = earlier :=
      List.filter_eq_self.mpr fun other among => decide_eq_true (others other among)
    rw [taken takes, same, memory]

/-- An alert is stored, deleted and stored again under another identifier. One of a time before all
timestamps is stored in memory only. -/
theorem stores_answer_alike_again :
    let a : Alert := ⟨⟨1⟩, "e", "Malware", .low, "", 0.5, ⟨1714564800, 123456789⟩, .object [], 7⟩
    let old : Alert := { a with id := ⟨4⟩, eventId := "f", eventTime := ⟨-220000000000, 0⟩ }
    let earlier : List StoreCall :=
      [.insert a, .insert { a with id := ⟨2⟩ }, .delete "e", .insert { a with id := ⟨3⟩ },
        .insert old]
    (∀ b, .insert b ∈ earlier → b.Fits) ∧
      ((AlertStore.empty.after earlier).answer (.get "e")).1 =
        .found (.ok (some { a with id := ⟨3⟩ })) ∧
      ((PersistentStore.empty.after earlier).answer (.get "e")).1 =
        .found (.ok (some { a with id := ⟨3⟩, eventTime := ⟨1714564800, 123456000⟩ })) ∧
      ((AlertStore.empty.after earlier).answer (.get "f")).1 = .found (.ok (some old)) ∧
      ((PersistentStore.empty.after earlier).answer (.get "f")).1 = .found (.ok none) := by
  intro a old earlier
  have reads : Json.parse? (Json.object []).render = some (.object []) := by rfl
  have fits : ∀ b, .insert b ∈ earlier → b.Fits := by
    intro b among
    simp only [earlier, List.mem_cons, StoreCall.insert.injEq, reduceCtorEq, List.not_mem_nil,
      or_false, false_or] at among
    rcases among with rfl | rfl | rfl | rfl
    all_goals exact ⟨by decide, reads⟩
  have time : a.eventTime.inTable = ⟨1714564800, 123456000⟩ := by decide
  have storable : a.eventTime.Storable := by decide
  have outside : ¬old.eventTime.Storable := by decide
  have taken : earlier.filter (·.Taken) = earlier.dropLast := by
    simp [earlier, storable, outside]
  obtain ⟨memory, persistent, -⟩ := stores_answer_alike earlier fits (.get "e")
  obtain ⟨oldMemory, oldPersistent, -⟩ := stores_answer_alike earlier fits (.get "f")
  rw [taken] at persistent oldPersistent
  refine ⟨fits, memory, persistent.trans ?_, oldMemory, oldPersistent⟩
  rw [← time]
  rfl

/-- What is finer than a microsecond is not read back from the database. -/
theorem time_not_read_back :
    let a : Alert := ⟨⟨1⟩, "e", "Malware", .low, "", 0.5, ⟨1714564800, 123456789⟩, .object [], 7⟩
    a.Fits ∧ ((AlertStore.empty.after [.insert a]).answer (.get "e")).1 = .found (.ok (some a)) ∧
      ((PersistentStore.empty.after [.insert a]).answer (.get "e")).1 ≠ .found (.ok (some a)) := by
  intro a
  have reads : Json.parse? (Json.object []).render = some (.object []) := by rfl
  have fits : a.Fits := ⟨by decide, reads⟩
  have all : ∀ b, .insert b ∈ [StoreCall.insert a] → b.Fits := by
    intro b among
    cases List.mem_singleton.mp among
    exact fits
  have storable : a.eventTime.Storable := by decide
  have taken : [StoreCall.insert a].filter (·.Taken) = [.insert a] := by simp [storable]
  refine ⟨fits, ((AlertStore.holds_after [.insert a]).answer (.get "e")).1, fun same => ?_⟩
  have kept : a.inTable = a := by
    have persistent := ((PersistentStore.holds_after all).answer (StoreCall.fits_of_left all)
      (StoreCall.taken_get "e")).1
    rw [taken] at persistent
    have answered : .found (.ok (some a.inTable)) = StoreAnswer.found (.ok (some a)) :=
      persistent.symm.trans same
    exact Option.some.inj (Except.ok.inj (StoreAnswer.found.inj answered))
  exact absurd (a.inTable_eq_iff.mp kept) (by decide)

end AlertRelay
