import AlertRelay.Proofs.Broker.Growth
import AlertRelay.Proofs.Store.Memory
import AlertRelay.Relay.World

/-!
# What calls do to the clients of workers and to the log

The transaction that a producer holds open is a matter of the calls of its worker and of their
replies; what others do, and what goes wrong, leaves it alone. A call shows in the log if it commits
a transaction or sends a dead letter, and in no other way (`World.reply_accounts`). Only the note of
a commit changes the ledger (`World.reply_ledger`), and only insertion and removal change the rows
of the store (`World.reply_rows`).
-/

namespace AlertRelay

/-- What becomes visible in a log at once. -/
inductive Posting where
  /-- A transaction that was committed. -/
  | transaction (lane : Lane) (content : Transaction)
  /-- A dead letter that was sent outside of transactions. -/
  | letter (message : Message)

namespace Posting

/-- The log once something has become visible in it. -/
def post : Posting → Log → Log
  | transaction _ t, l => l.applyTransaction t.messages t.offsets
  | letter m, l => l.append m

/-- The messages that become visible. -/
def messages : Posting → List Message
  | transaction _ t => t.messages
  | letter m => [m]

/-- The offsets that become committed. -/
def offsets : Posting → List OffsetCommit
  | transaction _ t => t.offsets
  | letter _ => []

/-- What becomes visible is the same in logs that agree. -/
theorem post_agrees (p : Posting) {a b : Log} (same : a.Agrees b) :
    (p.post a).Agrees (p.post b) := by
  cases p with
  | transaction lane t => exact same.applyTransaction t.messages t.offsets
  | letter m => exact same.append m

/-- A log stays well-formed when something becomes visible in it. -/
theorem post_wellFormed (p : Posting) {l : Log} (sound : l.WellFormed) : (p.post l).WellFormed := by
  cases p with
  | transaction lane t => exact sound.applyTransaction t.messages t.offsets
  | letter m => exact sound.append m

/-- What becomes visible is added at the end of the log. -/
theorem post_extends (p : Posting) (l : Log) : (p.post l).Extends l := by
  cases p with
  | transaction lane t => exact l.extends_applyTransaction t.messages t.offsets
  | letter m => exact l.extends_append m

/-- What becomes visible leaves a topic alone that none of its messages is for. -/
theorem record?_post_other (p : Posting) (l : Log) {tp : TopicPartition}
    (apart : ∀ m ∈ p.messages, m.topic ≠ tp.topic) (offset : Int) :
    (p.post l).record? tp offset = l.record? tp offset := by
  cases p with
  | transaction lane t => exact l.record?_applyTransaction_other t.offsets apart offset
  | letter m => exact l.record?_append_other (apart m (List.mem_singleton_self m)) offset

/-- The commits that become visible are the offsets of the transaction, in their order. -/
theorem post_commitLog (p : Posting) (l : Log) :
    (p.post l).commitLog = l.commitLog ++ p.offsets := by
  cases p with
  | transaction lane t => exact l.applyTransaction_commitLog t.messages t.offsets
  | letter m => exact (List.append_nil _).symm

/-- What becomes visible is found under its keys; all else is found as before. -/
theorem post_hasKey (p : Posting) {l : Log} (sound : l.WellFormed) (topic : String)
    (key : Option Bytes) : (p.post l).HasKey topic key ↔
      l.HasKey topic key ∨ ∃ m ∈ p.messages, m.topic = topic ∧ m.key = key := by
  cases p with
  | transaction lane t => exact sound.hasKey_applyTransaction t.messages t.offsets topic key
  | letter m =>
      refine (sound.hasKey_append m topic key).trans ?_
      simp only [Posting.messages, List.mem_singleton, exists_eq_left]

/-- The log once several things have become visible in it, one after the other. -/
def postAll (postings : List Posting) (l : Log) : Log := postings.foldl (fun l p => p.post l) l

theorem postAll_append (first second : List Posting) (l : Log) :
    postAll (first ++ second) l = postAll second (postAll first l) := List.foldl_append

/-- The commits that become visible one after the other are all the offsets in their order. -/
theorem postAll_commitLog (postings : List Posting) (l : Log) :
    (postAll postings l).commitLog = l.commitLog ++ postings.flatMap offsets := by
  unfold Posting.postAll
  induction postings generalizing l with
  | nil => exact (List.append_nil _).symm
  | cons p rest ih =>
      rw [List.foldl_cons, ih, p.post_commitLog, List.flatMap_cons, List.append_assoc]

/-- What commits no offset leaves the committed offsets as they were. -/
theorem post_committed {p : Posting} (offsetless : p.offsets = []) (l : Log) :
    (p.post l).committed = l.committed := by
  cases p with
  | letter m => exact l.append_committed m
  | transaction lane t =>
      have none : t.offsets = [] := offsetless
      change (l.applyTransaction t.messages t.offsets).committed = l.committed
      rw [none, l.applyTransaction_nil_committed]

/-- What has no offsets commits nothing. -/
theorem postAll_committed {postings : List Posting} (offsetless : postings.flatMap offsets = [])
    (l : Log) : (postAll postings l).committed = l.committed := by
  unfold Posting.postAll
  induction postings generalizing l with
  | nil => rfl
  | cons p rest ih =>
      rw [List.flatMap_cons, List.append_eq_nil_iff] at offsetless
      rw [List.foldl_cons, ih offsetless.2, post_committed offsetless.1]

/-- What a group has committed once several things have become visible. -/
theorem postAll_committed? (postings : List Posting) (l : Log) (group : String)
    (tp : TopicPartition) :
    (postAll postings l).committed? group tp =
      (OffsetCommit.latest? group tp (postings.flatMap offsets)).or (l.committed? group tp) := by
  unfold Posting.postAll
  induction postings generalizing l with
  | nil => rfl
  | cons p rest ih =>
      have now : (p.post l).committed? group tp =
          (OffsetCommit.latest? group tp p.offsets).or (l.committed? group tp) := by
        cases p with
        | transaction lane t => exact l.committed?_applyTransaction t.messages t.offsets group tp
        | letter m => rfl
      rw [List.foldl_cons, ih, now, List.flatMap_cons, OffsetCommit.latest?_append, Option.or_assoc]

end Posting

namespace RelayCall

/-- The transaction that a producer holds after a call of its worker, given the one before. -/
def transactionAfter (lane : Lane) (t : Option Transaction) :
    (request : RelayCall) → request.Reply → Option Transaction
  | .begin other, .ok () => if other = lane then some ⟨[], []⟩ else t
  | .produce other m, .ok () =>
    if other = lane then t.map fun t => { t with messages := t.messages ++ [m] } else t
  | .sendOffsets other offsets, .ok () =>
    if other = lane then t.map fun t => { t with offsets := t.offsets ++ offsets } else t
  | .commit other, .ok () => if other = lane then none else t
  | .abort other, .ok () => if other = lane then none else t
  | _, _ => t

/-- What a call makes visible, given the transactions that its worker holds. -/
def posting? (held : Lane → Option Transaction) :
    (request : RelayCall) → request.Reply → Option Posting
  | .commit lane, .ok () => (held lane).map (Posting.transaction lane)
  | .sendDeadLetter m, .ok () => some (.letter m)
  | _, _ => none

/-- The rows after a call, given those before. -/
def rowsAfter (rows : Table String Alert) :
    (request : RelayCall) → request.Reply → Table String Alert
  | .insertAlert a, .ok true => rows.put a.eventId a
  | .deleteAlert eventId, .ok (_ + 1) => rows.erase eventId
  | _, _ => rows

/-- Whether a reply tells of a row what is the case. -/
def Tells (rows : Table String Alert) : (request : RelayCall) → request.Reply → Prop
  | .insertAlert a, .ok stored => rows.contains a.eventId = !stored
  | .deleteAlert eventId, .ok count => rows.contains eventId = decide (count ≠ 0)
  | _, _ => True

/-- The ledger after a call, given the one before. -/
def ledgerAfter (l : Ledger) : RelayCall → Ledger
  | .recordOffset c => l.record c
  | _ => l

end RelayCall

namespace World

/-- A producer of a worker, if there is such a worker. -/
def producer? (w : World) (worker : Nat) (lane : Lane) : Option TransactionalProducer :=
  w.workers[worker]?.map fun k => k.producer lane

/-- The transaction that a producer of a worker holds open. -/
def transaction? (w : World) (worker : Nat) (lane : Lane) : Option Transaction :=
  (w.producer? worker lane).bind TransactionalProducer.transaction

/-- Whether a producer of a worker has lost its identifier. -/
def Fenced (w : World) (worker : Nat) (lane : Lane) : Prop :=
  ∀ p, w.producer? worker lane = some p → p.fenced = true

/-- The log once something may have become visible in it. -/
def logAfter (w : World) (posting : Option Posting) : Log :=
  posting.elim w.log fun p => p.post w.log

theorem logAfter_wellFormed {w : World} (sound : w.log.WellFormed) (posting : Option Posting) :
    (w.logAfter posting).WellFormed := by
  cases posting with
  | none => exact sound
  | some p => exact p.post_wellFormed sound

theorem logAfter_extends (w : World) (posting : Option Posting) :
    (w.logAfter posting).Extends w.log := by
  cases posting with
  | none => exact .refl _
  | some p => exact p.post_extends w.log

theorem producer_setProducer (k : WorkerClients) (p : TransactionalProducer) (lane other : Lane) :
    (k.setProducer p lane).producer other = if lane = other then p else k.producer other := by
  cases lane <;> cases other <;> rfl

/-- To change one producer leaves all others alone. -/
theorem producer?_modifyProducer (w : World) (worker i : Nat) (lane other : Lane)
    (change : TransactionalProducer → TransactionalProducer) :
    (w.modifyProducer worker lane change).producer? i other =
      if worker = i ∧ lane = other then (w.producer? i other).map change
      else w.producer? i other := by
  unfold World.producer? World.modifyProducer
  simp only [List.getElem?_modify, Option.map_eq_map]
  by_cases here : worker = i
  · cases found : w.workers[i]? with
    | none => simp only [Option.map_none, ite_self]
    | some k =>
        simp only [here, ↓reduceIte, Option.map_some, producer_setProducer, true_and]
        split
        · next same => rw [same]
        · rfl
  · simp only [here, ↓reduceIte, false_and, Option.map_id_fun', id_eq]

theorem transact_none {w : World} {worker : Nat} {lane : Lane}
    {step : TransactionalProducer → Log → TransactionalProducer.Step}
    (absent : w.producer? worker lane = none) :
    w.transact worker lane step = (.error .closed, w) := by
  unfold World.producer? at absent
  unfold World.transact
  rw [Option.map_eq_none_iff.mp absent]

/-- A step of a producer replies, and changes the producer and the log. -/
theorem transact_some {w : World} {worker : Nat} {lane : Lane} {p : TransactionalProducer}
    {step : TransactionalProducer → Log → TransactionalProducer.Step}
    (present : w.producer? worker lane = some p) :
    w.transact worker lane step = ((step p w.log).1,
      { w.modifyProducer worker lane (fun _ => (step p w.log).2.1) with
        log := (step p w.log).2.2 }) := by
  unfold World.producer? at present
  obtain ⟨k, found, rfl⟩ := Option.map_eq_some_iff.mp present
  unfold World.transact
  rw [found]

/-! ## The transactions that are held -/

/-- To change one producer leaves the open transactions of all others alone. -/
@[simp] theorem transaction?_modifyProducer (w : World) (worker i : Nat) (lane other : Lane)
    (change : TransactionalProducer → TransactionalProducer) :
    (w.modifyProducer worker lane change).transaction? i other =
      if worker = i ∧ lane = other then
        (w.producer? i other).bind fun p => (change p).transaction
      else w.transaction? i other := by
  unfold World.transaction?
  rw [producer?_modifyProducer]
  split
  · rw [Option.bind_map]
    rfl
  · rfl

/-- A change that leaves the transactions of producers alone and fences at most. -/
def Harmless (change : TransactionalProducer → TransactionalProducer) : Prop :=
  ∀ p, (change p).transaction = p.transaction ∧ (p.fenced = true → (change p).fenced = true)

/-- A harmless change leaves all open transactions alone. -/
theorem Harmless.transaction? {change : TransactionalProducer → TransactionalProducer}
    (harmless : Harmless change) (w : World) (worker i : Nat) (lane other : Lane) :
    (w.modifyProducer worker lane change).transaction? i other = w.transaction? i other := by
  rw [transaction?_modifyProducer]
  split
  · unfold World.transaction?
    congr
    funext p
    exact (harmless p).1
  · rfl

/-- A harmless change gives no identifier back. -/
theorem Harmless.fenced {change : TransactionalProducer → TransactionalProducer}
    (harmless : Harmless change) {w : World} {i : Nat} {other : Lane} (fenced : w.Fenced i other)
    (worker : Nat) (lane : Lane) : (w.modifyProducer worker lane change).Fenced i other := by
  intro p present
  rw [producer?_modifyProducer] at present
  split at present
  · obtain ⟨before, found, rfl⟩ := Option.map_eq_some_iff.mp present
    exact (harmless before).2 (fenced before found)
  · exact fenced p present

/-- A producer that is fenced when it is due keeps its open transaction. -/
theorem fenceDue_transaction? (w : World) (i : Nat) (lane : Lane) :
    w.fenceDue.transaction? i lane = w.transaction? i lane := by
  unfold World.fenceDue
  split
  · rfl
  · next worker other due =>
    have harmless : Harmless fun p => { p with fenced := true } := fun _ => ⟨rfl, fun _ => rfl⟩
    exact harmless.transaction? w worker i other lane

theorem fenceDue_fenced {w : World} {i : Nat} {lane : Lane} (fenced : w.Fenced i lane) :
    w.fenceDue.Fenced i lane := by
  unfold World.fenceDue
  split
  · exact fenced
  · next worker other due =>
    have harmless : Harmless fun p => { p with fenced := true } := fun _ => ⟨rfl, fun _ => rfl⟩
    exact harmless.fenced fenced worker other

end World

/-! ## Calls to producers -/

/-- What a producer and the log come to by a call of the producer's worker. -/
structure TransactionalProducer.Accounts (lane : Lane) (p : TransactionalProducer) (l : Log)
    (request : RelayCall) (reply : request.Reply) (after : TransactionalProducer) (log : Log) :
    Prop where
  fenced : after.fenced = p.fenced
  transaction : after.transaction = RelayCall.transactionAfter lane p.transaction request reply
  log : log.Agrees ((request.posting? (fun _ => p.transaction) reply).elim l fun q => q.post l)

namespace TransactionalProducer

variable (lane : Lane) (p : TransactionalProducer) (l : Log)

theorem begin_accounts :
    p.Accounts lane l (.begin lane) (p.begin l).1 (p.begin l).2.1 (p.begin l).2.2 := by
  unfold TransactionalProducer.begin
  split
  · exact ⟨rfl, rfl, .refl l⟩
  · split
    · exact ⟨rfl, rfl, .refl l⟩
    · split
      · exact ⟨rfl, rfl, .refl l⟩
      · exact ⟨rfl, (if_pos rfl).symm, rfl, rfl, rfl⟩

theorem produce_accounts (m : Message) :
    p.Accounts lane l (.produce lane m) (p.produce l m).1 (p.produce l m).2.1
      (p.produce l m).2.2 := by
  unfold TransactionalProducer.produce
  split
  · exact ⟨rfl, rfl, .refl l⟩
  · split
    · exact ⟨rfl, rfl, .refl l⟩
    · split
      · next t held =>
        refine ⟨rfl, ?_, .refl l⟩
        rw [RelayCall.transactionAfter, if_pos rfl, held]
        rfl
      · exact ⟨rfl, rfl, .refl l⟩

theorem sendOffsets_accounts (offsets : List OffsetCommit) :
    p.Accounts lane l (.sendOffsets lane offsets) (p.sendOffsets l offsets).1
      (p.sendOffsets l offsets).2.1 (p.sendOffsets l offsets).2.2 := by
  unfold TransactionalProducer.sendOffsets
  split
  · exact ⟨rfl, rfl, .refl l⟩
  · split
    · next t held => exact ⟨rfl, by rw [RelayCall.transactionAfter, if_pos rfl, held]; rfl, .refl l⟩
    · exact ⟨rfl, rfl, .refl l⟩

theorem commit_accounts :
    p.Accounts lane l (.commit lane) (p.commit l).1 (p.commit l).2.1 (p.commit l).2.2 := by
  unfold TransactionalProducer.commit
  split
  · exact ⟨rfl, rfl, .refl l⟩
  · split
    · exact ⟨rfl, rfl, .refl l⟩
    · split
      · next t held =>
        refine ⟨rfl, (if_pos rfl).symm, ?_⟩
        simp only [RelayCall.posting?, held, Option.map_some, Option.elim_some]
        exact ⟨rfl, rfl, rfl⟩
      · exact ⟨rfl, rfl, .refl l⟩

theorem abort_accounts :
    p.Accounts lane l (.abort lane) (p.abort l).1 (p.abort l).2.1 (p.abort l).2.2 := by
  unfold TransactionalProducer.abort
  split
  · exact ⟨rfl, rfl, .refl l⟩
  · split
    · exact ⟨rfl, (if_pos rfl).symm, rfl, rfl, rfl⟩
    · next none => exact ⟨rfl, by rw [RelayCall.transactionAfter, if_pos rfl, none], .refl l⟩

/-- Only a producer that has lost its identifier cannot drop its transaction. -/
theorem abort_error {cause : BrokerError} (failed : (p.abort l).1 = .error cause) :
    p.fenced = true := by
  unfold TransactionalProducer.abort at failed
  split at failed
  · next fenced => exact fenced
  · split at failed
    · cases failed
    · cases failed

end TransactionalProducer

namespace World

/-- What all producers and the log come to by a call of a worker. -/
structure Accounts (w : World) (worker : Nat) (request : RelayCall) (reply : request.Reply)
    (after : World) : Prop where
  transaction : ∀ i lane, after.transaction? i lane =
    if worker = i then RelayCall.transactionAfter lane (w.transaction? i lane) request reply
    else w.transaction? i lane
  fenced : ∀ i lane, w.Fenced i lane → after.Fenced i lane
  log : after.log.Agrees (w.logAfter (request.posting? (w.transaction? worker) reply))

variable {w : World} {worker : Nat}

/-- A call to a producer that is there. -/
private theorem Accounts.of_producer {lane : Lane} {p after : TransactionalProducer} {log : Log}
    {request : RelayCall} {reply : request.Reply} (present : w.producer? worker lane = some p)
    (accounts : p.Accounts lane w.log request reply after log)
    (alone : ∀ other t, lane ≠ other → RelayCall.transactionAfter other t request reply = t)
    (own : ∀ held, request.posting? held reply = request.posting? (fun _ => held lane) reply) :
    w.Accounts worker request reply
      { w.modifyProducer worker lane (fun _ => after) with log := log } := by
  have producers : ∀ i other, ({ w.modifyProducer worker lane (fun _ => after) with
      log := log } : World).producer? i other =
        if worker = i ∧ lane = other then (w.producer? i other).map fun _ => after
        else w.producer? i other :=
    fun i other => producer?_modifyProducer w worker i lane other fun _ => after
  have held : w.transaction? worker lane = p.transaction := by
    unfold World.transaction?
    rw [present, Option.bind_some]
  constructor
  · intro i other
    by_cases here : worker = i
    · subst here
      rw [if_pos rfl]
      by_cases same : lane = other
      · subst same
        unfold World.transaction? at held ⊢
        rw [producers, if_pos ⟨rfl, rfl⟩, held, present]
        exact accounts.transaction
      · rw [alone other _ same]
        unfold World.transaction?
        rw [producers, if_neg fun both => same both.2]
    · rw [if_neg here]
      unfold World.transaction?
      rw [producers, if_neg fun both => here both.1]
  · intro i other fenced q found
    rw [producers] at found
    split at found
    · next here =>
      obtain ⟨rfl, rfl⟩ := here
      rw [present, Option.map_some, Option.some.injEq] at found
      rw [← found, accounts.fenced]
      exact fenced p present
    · exact fenced q found
  · rw [own, held]
    exact accounts.log

/-- A call that concerns no producer does what it replies. -/
private theorem Accounts.of_quiet {request : RelayCall} {reply : request.Reply} {after : World}
    (transactions : ∀ i lane, after.transaction? i lane = w.transaction? i lane)
    (fenced : ∀ i lane, w.Fenced i lane → after.Fenced i lane) (log : after.log.Agrees w.log)
    (quiet : ∀ lane t, RelayCall.transactionAfter lane t request reply = t)
    (silent : ∀ held, request.posting? held reply = none) :
    w.Accounts worker request reply after := by
  refine ⟨fun i lane => ?_, fenced, ?_⟩
  · rw [transactions, quiet, ite_self]
  · rw [silent]
    exact log

/-- A call of a worker that does not exist does nothing. -/
private theorem Accounts.of_absent {request : RelayCall} {reply : request.Reply}
    (quiet : ∀ lane t, RelayCall.transactionAfter lane t request reply = t)
    (silent : ∀ held, request.posting? held reply = none) :
    w.Accounts worker request reply w :=
  .of_quiet (fun _ _ => rfl) (fun _ _ fenced => fenced) (.refl _) quiet silent

/-- A call does what it replies if the step of its producer does. -/
private theorem Accounts.of_transact {lane : Lane} (request : RelayCall)
    {step : TransactionalProducer → Log → TransactionalProducer.Step}
    (f : Except BrokerError Unit → request.Reply)
    (accounts : ∀ (p : TransactionalProducer) (l : Log),
      p.Accounts lane l request (f (step p l).1) (step p l).2.1 (step p l).2.2)
    (alone : ∀ r other t, lane ≠ other → RelayCall.transactionAfter other t request (f r) = t)
    (own : ∀ r held, request.posting? held (f r) = request.posting? (fun _ => held lane) (f r))
    (refused : ∀ cause other t, RelayCall.transactionAfter other t request (f (.error cause)) = t)
    (silent : ∀ cause held, request.posting? held (f (.error cause)) = none) :
    w.Accounts worker request (f (w.transact worker lane step).1)
      (w.transact worker lane step).2 := by
  cases present : w.producer? worker lane with
  | none =>
      rw [transact_none present]
      exact .of_absent (refused _) (silent _)
  | some p =>
      rw [transact_some present]
      exact .of_producer present (accounts p w.log) (alone _) (own _)

/-- Whatever a worker asks, the transactions and the log become what the reply says. -/
theorem reply_accounts (w : World) (worker : Nat) (request : RelayCall) :
    w.Accounts worker request (World.reply worker request w).1
      (World.reply worker request w).2 := by
  have alone : ∀ {lane other : Lane} {t t' : Option Transaction}, lane ≠ other →
      (if lane = other then t' else t) = t := fun different => if_neg different
  cases request with
  | begin lane =>
      refine .of_transact (.begin lane) id (fun p l => p.begin_accounts lane l) ?_
        (fun _ _ => rfl) (fun _ _ _ => rfl) fun _ _ => rfl
      rintro (cause | _) other t different
      · rfl
      · exact alone different
  | produce lane m =>
      refine .of_transact (.produce lane m) id (fun p l => p.produce_accounts lane l m) ?_
        (fun _ _ => rfl) (fun _ _ _ => rfl) fun _ _ => rfl
      rintro (cause | _) other t different
      · rfl
      · exact alone different
  | sendOffsets lane offsets =>
      refine .of_transact (.sendOffsets lane offsets) id
        (fun p l => p.sendOffsets_accounts lane l offsets) ?_ (fun _ _ => rfl)
        (fun _ _ _ => rfl) fun _ _ => rfl
      rintro (cause | _) other t different
      · rfl
      · exact alone different
  | commit lane =>
      refine .of_transact (.commit lane) id (fun p l => p.commit_accounts lane l) ?_ ?_
        (fun _ _ _ => rfl) fun _ _ => rfl
      · rintro (cause | _) other t different
        · rfl
        · exact alone different
      · rintro (cause | _) held
        · rfl
        · rfl
  | abort lane =>
      refine .of_transact (.abort lane) id (fun p l => p.abort_accounts lane l) ?_
        (fun _ _ => rfl) (fun _ _ _ => rfl) fun _ _ => rfl
      rintro (cause | _) other t different
      · rfl
      · exact alone different
  | insertAlert a =>
      refine .of_quiet (fun i lane => fenceDue_transaction? w i lane)
        (fun i lane fenced => fenceDue_fenced fenced) ?_ (fun _ _ => rfl) fun _ => rfl
      change w.fenceDue.log.Agrees w.log
      unfold World.fenceDue
      split
      · exact .refl _
      · exact .refl _
  | sendDeadLetter m =>
      change w.Accounts worker (.sendDeadLetter m) (w.deadLetters.send w.log m).1
        { w with log := (w.deadLetters.send w.log m).2 }
      unfold PlainProducer.send
      split
      · exact .of_quiet (fun _ _ => rfl) (fun _ _ fenced => fenced) (.refl _) (fun _ _ => rfl)
          fun _ => rfl
      · refine ⟨fun i lane => (ite_self _).symm, fun _ _ fenced => fenced, ?_⟩
        exact (w.log.append m).ring_agrees
  | label event score =>
      change w.Accounts worker (.label event score) (w.askLabel worker event score).1
        (w.askLabel worker event score).2
      unfold World.askLabel
      split
      · exact .of_quiet (fun _ _ => rfl) (fun _ _ fenced => fenced) (.refl _) (fun _ _ => rfl)
          fun _ => rfl
      · have same : ∀ i lane, ({ w with workers := w.workers.modify worker fun k =>
            { k with labelCalls := k.labelCalls + 1 } } : World).producer? i lane =
              w.producer? i lane := by
          intro i lane
          unfold World.producer?
          simp only [List.getElem?_modify, Option.map_eq_map, Option.map_map]
          congr 1
          funext k
          dsimp only [Function.comp]
          split
          · cases lane <;> rfl
          · rfl
        refine .of_quiet (fun i lane => ?_) (fun i lane fenced p found => ?_) (.refl _)
          (fun _ _ => rfl) fun _ => rfl
        · unfold World.transaction?
          rw [same]
        · exact fenced p ((same i lane).symm.trans found)
  | _ =>
      exact Accounts.of_quiet (fun _ _ => rfl) (fun _ _ fenced => fenced) ⟨rfl, rfl, rfl⟩
        (fun _ _ => rfl) fun _ => rfl

/-- A worker that cannot drop a transaction has lost its identifier. -/
theorem fenced_of_abort_error {w : World} {worker : Nat} {lane : Lane} {cause : BrokerError}
    (failed : (World.reply worker (.abort lane) w).1 = .error cause) : w.Fenced worker lane := by
  intro p present
  refine p.abort_error w.log (?_ : (p.abort w.log).1 = .error cause)
  have answer : (w.transact worker lane fun p l => p.abort l).1 = .error cause := failed
  rw [transact_some present] at answer
  exact answer

theorem transact_ledger (w : World) (worker : Nat) (lane : Lane)
    (step : TransactionalProducer → Log → TransactionalProducer.Step) :
    (w.transact worker lane step).2.ledger = w.ledger := by
  unfold World.transact
  split
  · rfl
  · rfl

/-- Only a note of a commit changes the ledger. -/
theorem reply_ledger (w : World) (worker : Nat) (request : RelayCall) :
    (World.reply worker request w).2.ledger = request.ledgerAfter w.ledger := by
  cases request with
  | begin lane => exact transact_ledger ..
  | produce lane m => exact transact_ledger ..
  | sendOffsets lane offsets => exact transact_ledger ..
  | commit lane => exact transact_ledger ..
  | abort lane => exact transact_ledger ..
  | insertAlert a =>
      change w.fenceDue.ledger = w.ledger
      unfold World.fenceDue
      split
      · rfl
      · rfl
  | label event score =>
      change (w.askLabel worker event score).2.ledger = w.ledger
      unfold World.askLabel
      split
      · rfl
      · rfl
  | _ => rfl

theorem transact_store (w : World) (worker : Nat) (lane : Lane)
    (step : TransactionalProducer → Log → TransactionalProducer.Step) :
    (w.transact worker lane step).2.store = w.store := by
  unfold World.transact
  split
  · rfl
  · rfl

/-- Only insertion and removal change the rows, and what they reply says how. -/
theorem reply_rows (w : World) (worker : Nat) (request : RelayCall) :
    (World.reply worker request w).2.store.rows =
        request.rowsAfter w.store.rows (World.reply worker request w).1 ∧
      request.Tells w.store.rows (World.reply worker request w).1 := by
  cases request with
  | begin lane => exact ⟨congrArg AlertStore.rows (transact_store ..), trivial⟩
  | produce lane m => exact ⟨congrArg AlertStore.rows (transact_store ..), trivial⟩
  | sendOffsets lane offsets => exact ⟨congrArg AlertStore.rows (transact_store ..), trivial⟩
  | commit lane => exact ⟨congrArg AlertStore.rows (transact_store ..), trivial⟩
  | abort lane => exact ⟨congrArg AlertStore.rows (transact_store ..), trivial⟩
  | insertAlert a =>
      have store : w.fenceDue.store = w.store := by
        unfold World.fenceDue
        split
        · rfl
        · rfl
      change (w.fenceDue.store.insertIfAbsent a).2.rows =
          RelayCall.rowsAfter w.store.rows (.insertAlert a) (w.fenceDue.store.insertIfAbsent a).1 ∧
        RelayCall.Tells w.store.rows (.insertAlert a) (w.fenceDue.store.insertIfAbsent a).1
      rw [store]
      rcases w.store.insertIfAbsent_cases a with ⟨cause, is⟩ | ⟨known, is⟩ | ⟨unknown, is⟩
      · rw [is]
        exact ⟨rfl, trivial⟩
      · rw [is]
        exact ⟨rfl, known⟩
      · rw [is]
        exact ⟨rfl, Bool.eq_false_iff.mpr unknown⟩
  | deleteAlert eventId =>
      change (w.store.deleteByEventId eventId).2.rows =
          RelayCall.rowsAfter w.store.rows (.deleteAlert eventId)
            (w.store.deleteByEventId eventId).1 ∧
        RelayCall.Tells w.store.rows (.deleteAlert eventId) (w.store.deleteByEventId eventId).1
      rcases w.store.deleteByEventId_cases eventId with ⟨cause, is⟩ | ⟨known, is⟩ | ⟨unknown, is⟩
      · rw [is]
        exact ⟨rfl, trivial⟩
      · rw [is]
        exact ⟨rfl, known⟩
      · rw [is]
        exact ⟨rfl, Bool.eq_false_iff.mpr unknown⟩
  | label event score =>
      refine ⟨?_, trivial⟩
      change (w.askLabel worker event score).2.store.rows = w.store.rows
      unfold World.askLabel
      split
      · rfl
      · rfl
  | _ => exact ⟨rfl, trivial⟩

end World

end AlertRelay
