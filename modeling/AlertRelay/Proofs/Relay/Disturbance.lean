import AlertRelay.Proofs.Relay.Clients

/-!
# Disturbances

What may go wrong, or change, around relay work at any time. A disturbance makes calls fail, takes
the identifier of a producer away, exchanges a model or lets time pass; it leaves everything alone
that relay work has brought about (`World.disturb_spares`).
-/

namespace AlertRelay

/-- A change around relay work that relay work has no part in. -/
inductive Disturbance where
  /-- The next so many transactions of a producer cannot be opened. -/
  | failBegin (worker : Nat) (lane : Lane) (count : Nat)
  /-- The next so many messages cannot be produced. -/
  | failProduce (worker : Nat) (lane : Lane) (count : Nat)
  /-- The next so many transactions cannot be committed. -/
  | failCommit (worker : Nat) (lane : Lane) (count : Nat)
  /-- Another producer takes over the identifier of a producer. -/
  | fence (worker : Nat) (lane : Lane)
  /-- A producer is to be fenced when the next alert is to be stored. -/
  | fenceAtInsert (due : Option (Nat × Lane))
  | changeScores (worker : Nat) (score : Event → Except EnrichmentError Score)
  | changeLabels (worker : Nat) (label : Nat → Event → Score → Except EnrichmentError Label)
  | failInserts (failing : Bool)
  | failDeletes (failing : Bool)
  | closeStore
  | deadLettersDown (down : Bool)
  | flushDown (down : Bool)
  /-- So many milliseconds pass. -/
  | elapse (millis : Nat)

namespace World

/-- Makes a change to what a worker has, if there is such a worker. -/
def modifyWorker (w : World) (worker : Nat) (change : WorkerClients → WorkerClients) : World :=
  { w with workers := w.workers.modify worker change }

/-- What nobody but relay work changes. -/
structure Spares (w later : World) : Prop where
  transaction : ∀ i lane, later.transaction? i lane = w.transaction? i lane
  fenced : ∀ i lane, w.Fenced i lane → later.Fenced i lane
  log : later.log = w.log
  ledger : later.ledger = w.ledger
  rows : later.store.rows = w.store.rows

theorem Spares.refl (w : World) : w.Spares w :=
  ⟨fun _ _ => rfl, fun _ _ fenced => fenced, rfl, rfl, rfl⟩

theorem Spares.trans {a b c : World} (first : a.Spares b) (second : b.Spares c) : a.Spares c where
  transaction i lane := (second.transaction i lane).trans (first.transaction i lane)
  fenced i lane fenced := second.fenced i lane (first.fenced i lane fenced)
  log := second.log.trans first.log
  ledger := second.ledger.trans first.ledger
  rows := second.rows.trans first.rows

/-- A harmless change of a producer spares the world. -/
theorem spares_of_harmless {change : TransactionalProducer → TransactionalProducer}
    (harmless : Harmless change) (w : World) (worker : Nat) (lane : Lane) :
    w.Spares (w.modifyProducer worker lane change) where
  transaction i other := harmless.transaction? w worker i lane other
  fenced _ _ fenced := harmless.fenced fenced worker lane
  log := rfl
  ledger := rfl
  rows := rfl

/-- A change of the models of a worker spares the world. -/
theorem spares_of_models {change : WorkerClients → WorkerClients}
    (producers : ∀ k lane, (change k).producer lane = k.producer lane) (w : World) (worker : Nat) :
    w.Spares (w.modifyWorker worker change) := by
  have same : ∀ i lane, (w.modifyWorker worker change).producer? i lane = w.producer? i lane := by
    intro i lane
    unfold World.producer? World.modifyWorker
    simp only [List.getElem?_modify, Option.map_eq_map, Option.map_map]
    congr 1
    funext k
    dsimp only [Function.comp]
    split
    · exact producers k lane
    · rfl
  refine ⟨fun i lane => ?_, fun i lane fenced p found => ?_, rfl, rfl, rfl⟩
  · unfold World.transaction?
    rw [same]
  · exact fenced p ((same i lane).symm.trans found)

end World

namespace Disturbance

/-- The world after a disturbance. -/
def apply : Disturbance → World → World
  | failBegin worker lane count, w =>
    w.modifyProducer worker lane fun p => { p with failBegin := count }
  | failProduce worker lane count, w =>
    w.modifyProducer worker lane fun p => { p with failProduce := count }
  | failCommit worker lane count, w =>
    w.modifyProducer worker lane fun p => { p with failCommit := count }
  | fence worker lane, w => w.modifyProducer worker lane fun p => { p with fenced := true }
  | fenceAtInsert due, w => { w with fenceAtInsert := due }
  | changeScores worker score, w => w.modifyWorker worker fun k => { k with score := score }
  | changeLabels worker label, w => w.modifyWorker worker fun k => { k with label := label }
  | failInserts failing, w => { w with store := { w.store with failInserts := failing } }
  | failDeletes failing, w => { w with store := { w.store with failDeletes := failing } }
  | closeStore, w => { w with store := w.store.close }
  | deadLettersDown down, w => { w with deadLetters := { w.deadLetters with down := down } }
  | flushDown down, w => { w with deadLetters := { w.deadLetters with flushDown := down } }
  | elapse millis, w => { w with clock := w.clock + millis }

/-- A disturbance spares the world. -/
theorem apply_spares (d : Disturbance) (w : World) : w.Spares (d.apply w) := by
  have models : ∀ (k : WorkerClients) (lane : Lane) score label,
      { k with score := score, label := label }.producer lane = k.producer lane := by
    intro k lane score label
    cases lane with
    | results => rfl
    | alerts => rfl
  cases d with
  | failBegin worker lane count =>
      have harmless : World.Harmless fun p => { p with failBegin := count } :=
        fun _ => ⟨rfl, fun fenced => fenced⟩
      exact World.spares_of_harmless harmless w worker lane
  | failProduce worker lane count =>
      have harmless : World.Harmless fun p => { p with failProduce := count } :=
        fun _ => ⟨rfl, fun fenced => fenced⟩
      exact World.spares_of_harmless harmless w worker lane
  | failCommit worker lane count =>
      have harmless : World.Harmless fun p => { p with failCommit := count } :=
        fun _ => ⟨rfl, fun fenced => fenced⟩
      exact World.spares_of_harmless harmless w worker lane
  | fence worker lane =>
      have harmless : World.Harmless fun p => { p with fenced := true } :=
        fun _ => ⟨rfl, fun _ => rfl⟩
      exact World.spares_of_harmless harmless w worker lane
  | changeScores worker score =>
      exact World.spares_of_models (fun k lane => models k lane score k.label) w worker
  | changeLabels worker label =>
      exact World.spares_of_models (fun k lane => models k lane k.score label) w worker
  | _ => exact ⟨fun _ _ => rfl, fun _ _ fenced => fenced, rfl, rfl, rfl⟩

end Disturbance

namespace World

/-- The world after several disturbances. -/
def disturb (w : World) (disturbances : List Disturbance) : World :=
  disturbances.foldl (fun w d => d.apply w) w

/-- Disturbances leave alone what relay work has brought about. -/
theorem disturb_spares (w : World) (disturbances : List Disturbance) :
    w.Spares (w.disturb disturbances) := by
  unfold World.disturb
  induction disturbances generalizing w with
  | nil => exact .refl w
  | cons d rest ih => exact (d.apply_spares w).trans (ih (d.apply w))

theorem wait_spares (w : World) (nanos : Nat) : w.Spares (w.wait nanos) :=
  (Disturbance.elapse (Program.wholeMillis nanos)).apply_spares w

end World

end AlertRelay
