import AlertRelay.Broker.Transaction
import AlertRelay.Proofs.Broker.Deposits

/-!
# The broker as an atomic log

Any number of producers work on one log, in any order, while calls fail and producers lose their
identifiers (`Brokerage`, `BrokerCall`). What readers see of the log is what the calls and their
answers say was deposited: a commit that succeeds deposits at once all messages that its producer
has produced since it began, then its offsets, and no other transaction leaves a trace
(`Brokerage.shows_deposits`).
-/

namespace AlertRelay

/-- What is asked of a broker, or done to one of its producers. Producers are numbered. -/
inductive BrokerCall where
  | begin (id : Nat)
  | produce (id : Nat) (m : Message)
  | sendOffsets (id : Nat) (offsets : List OffsetCommit)
  | commit (id : Nat)
  | abort (id : Nat)
  /-- A plain producer sends a message. -/
  | send (id : Nat) (m : Message)
  /-- A record is appended directly. -/
  | publish (m : Message) (partition : Int)
  | createTopic (name : String) (count : Nat)
  /-- The next so many calls of a kind fail. -/
  | failBegin (id count : Nat)
  | failProduce (id count : Nat)
  | failCommit (id count : Nat)
  /-- Another producer takes over the identifier of a producer. -/
  | fence (id : Nat)
  /-- A plain producer loses the broker, or finds it again. -/
  | reach (id : Nat) (down : Bool)

/-- A log and the producers that work on it. -/
structure Brokerage where
  log : Log
  transactional : Nat → TransactionalProducer
  plain : Nat → PlainProducer

/-- What a call is answered. -/
abbrev BrokerAnswer := Except BrokerError Unit

namespace Brokerage

/-- An empty log, and producers that have not begun. -/
def start (names : Nat → String) : Brokerage := ⟨.empty, fun id => .new (names id), fun _ => .new⟩

/-- Puts a transactional producer. -/
def put (b : Brokerage) (id : Nat) (p : TransactionalProducer) (log : Log) : Brokerage :=
  { b with log := log, transactional := fun i => if i = id then p else b.transactional i }

/-- Makes a step of a transactional producer. -/
def transact (b : Brokerage) (id : Nat)
    (step : TransactionalProducer → Log → TransactionalProducer.Step) : BrokerAnswer × Brokerage :=
  let (answer, p, log) := step (b.transactional id) b.log
  (answer, b.put id p log)

/-- One call. -/
def step (b : Brokerage) : BrokerCall → BrokerAnswer × Brokerage
  | .begin id => b.transact id fun p l => p.begin l
  | .produce id m => b.transact id fun p l => p.produce l m
  | .sendOffsets id offsets => b.transact id fun p l => p.sendOffsets l offsets
  | .commit id => b.transact id fun p l => p.commit l
  | .abort id => b.transact id fun p l => p.abort l
  | .send id m =>
    let (answer, log) := (b.plain id).send b.log m
    (answer, { b with log := log })
  | .publish m partition => (.ok (), { b with log := (b.log.publish m partition).2 })
  | .createTopic name count => (.ok (), { b with log := b.log.createTopic name count })
  | .failBegin id count =>
    (.ok (), b.put id { b.transactional id with failBegin := count } b.log)
  | .failProduce id count =>
    (.ok (), b.put id { b.transactional id with failProduce := count } b.log)
  | .failCommit id count =>
    (.ok (), b.put id { b.transactional id with failCommit := count } b.log)
  | .fence id => (.ok (), b.put id { b.transactional id with fenced := true } b.log)
  | .reach id down =>
    (.ok (), { b with
      plain := fun i => if i = id then { b.plain id with down := down } else b.plain i })

/-- The broker after some calls. -/
def after (b : Brokerage) (calls : List BrokerCall) : Brokerage :=
  calls.foldl (fun b call => (b.step call).2) b

/-- The calls with their answers. -/
def history : Brokerage → List BrokerCall → List (BrokerCall × BrokerAnswer)
  | _, [] => []
  | b, call :: rest => (call, (b.step call).1) :: (b.step call).2.history rest

end Brokerage

/-! ## What calls and answers say -/

namespace BrokerCall

/-- Whether a producer has begun a transaction. -/
def opens (id : Nat) : BrokerCall × BrokerAnswer → Bool
  | (begin i, .ok ()) => i = id
  | _ => false

/-- Whether a producer has ended its transaction. -/
def closes (id : Nat) : BrokerCall × BrokerAnswer → Bool
  | (commit i, .ok ()) | (abort i, .ok ()) => i = id
  | _ => false

/-- The message that a producer has produced. -/
def produced? (id : Nat) : BrokerCall × BrokerAnswer → Option Message
  | (produce i m, .ok ()) => if i = id then some m else none
  | _ => none

/-- The offsets that a producer has added. -/
def added (id : Nat) : BrokerCall × BrokerAnswer → List OffsetCommit
  | (sendOffsets i offsets, .ok ()) => if i = id then offsets else []
  | _ => []

/-- The calls since a producer last began. -/
def since (id : Nat) (past : List (BrokerCall × BrokerAnswer)) : List (BrokerCall × BrokerAnswer) :=
  (past.reverse.takeWhile fun e => !opens id e).reverse

/-- Whether a producer has begun a transaction and not ended it. -/
def InTransaction (id : Nat) (past : List (BrokerCall × BrokerAnswer)) : Prop :=
  (∃ e ∈ past, opens id e = true) ∧ ∀ e ∈ since id past, closes id e = false

/-- What a call deposits, by its answer and by what was called before. -/
def deposits (past : List (BrokerCall × BrokerAnswer)) : BrokerCall × BrokerAnswer → List Deposit
  | (commit id, .ok ()) =>
    ((since id past).filterMap (produced? id)).map .message ++
      ((since id past).flatMap (added id)).map .offset
  | (send _ m, .ok ()) => [.message m]
  | (publish m partition, .ok ()) => [.record m partition]
  | (createTopic name count, .ok ()) => [.topic name count]
  | _ => []

/-- What some calls deposit, after others. -/
def depositsAfter (past : List (BrokerCall × BrokerAnswer)) :
    List (BrokerCall × BrokerAnswer) → List Deposit
  | [] => []
  | e :: rest => deposits past e ++ depositsAfter (past ++ [e]) rest

variable {id : Nat} {past : List (BrokerCall × BrokerAnswer)} {e : BrokerCall × BrokerAnswer}

/-- What was gathered since the transaction began grows by each event, and is dropped when a new one
begins. -/
theorem since_snoc : since id (past ++ [e]) = if opens id e then [] else since id past ++ [e] := by
  unfold BrokerCall.since
  rw [List.reverse_append, List.reverse_singleton, List.singleton_append, List.takeWhile_cons]
  cases opens id e with
  | true => rfl
  | false => exact List.reverse_cons

/-- The event that opens a transaction leaves its producer in one. -/
theorem inTransaction_of_opens (begins : opens id e = true) : InTransaction id (past ++ [e]) := by
  refine ⟨⟨e, List.mem_append_right _ (List.mem_singleton_self e), begins⟩, fun other among => ?_⟩
  rw [since_snoc, if_pos begins] at among
  cases among

/-- No event both opens and closes a transaction. -/
theorem opens_of_closes (ends : closes id e = true) : opens id e = false := by
  obtain ⟨call, answer⟩ := e
  cases call <;> first | rfl | cases ends

/-- The event that closes a transaction leaves its producer in none. -/
theorem not_inTransaction_of_closes (ends : closes id e = true) :
    ¬ InTransaction id (past ++ [e]) := by
  rintro ⟨_, running⟩
  rw [since_snoc, opens_of_closes ends, if_neg Bool.false_ne_true] at running
  rw [running e (List.mem_append_right _ (List.mem_singleton_self e))] at ends
  cases ends

/-- An event that neither opens nor closes a transaction leaves its producer where it was. -/
theorem inTransaction_snoc (goesOn : opens id e = false) (stays : closes id e = false) :
    InTransaction id (past ++ [e]) ↔ InTransaction id past := by
  unfold BrokerCall.InTransaction
  rw [since_snoc, goesOn, if_neg Bool.false_ne_true]
  constructor
  · rintro ⟨⟨first, among, begun⟩, running⟩
    refine ⟨?_, fun other before => running other (List.mem_append_left _ before)⟩
    rcases List.mem_append.mp among with before | now
    · exact ⟨first, before, begun⟩
    · rw [List.mem_singleton.mp now, goesOn] at begun
      cases begun
  · rintro ⟨⟨first, among, begun⟩, running⟩
    refine ⟨⟨first, List.mem_append_left _ among, begun⟩, fun other later => ?_⟩
    rcases List.mem_append.mp later with before | now
    · exact running other before
    · rw [List.mem_singleton.mp now]
      exact stays

end BrokerCall

/-! ## What the calls do -/

namespace TransactionalProducer

variable (p : TransactionalProducer) (l : Log)

/-- Whether a step was refused: it leaves the transaction and the log as they are. -/
def Refuses (p : TransactionalProducer) (l : Log) (step : Step) : Prop :=
  ∃ cause, step.1 = .error cause ∧ step.2.1.transaction = p.transaction ∧ step.2.2 = l

/-- A transaction that is begun is empty; else the call is refused. -/
theorem begin_cases : p.Refuses l (p.begin l) ∨
    ∃ log : Log, p.begin l = (.ok (), { p with transaction := some ⟨[], []⟩ }, log) ∧
      log.Agrees l := by
  unfold TransactionalProducer.begin
  split
  · exact .inl ⟨_, rfl, rfl, rfl⟩
  · split
    · exact .inl ⟨_, rfl, rfl, rfl⟩
    · split
      · exact .inl ⟨_, rfl, rfl, rfl⟩
      · exact .inr ⟨_, rfl, rfl, rfl, rfl⟩

/-- A message that is taken is gathered in the open transaction; else the call is refused. -/
theorem produce_cases (m : Message) : p.Refuses l (p.produce l m) ∨
    ∃ t, p.transaction = some t ∧ p.produce l m =
      (.ok (), { p with transaction := some { t with messages := t.messages ++ [m] } }, l) := by
  unfold TransactionalProducer.produce
  split
  · exact .inl ⟨_, rfl, rfl, rfl⟩
  · split
    · exact .inl ⟨_, rfl, rfl, rfl⟩
    · split
      · next t held => exact .inr ⟨t, held, rfl⟩
      · exact .inl ⟨_, rfl, rfl, rfl⟩

/-- Offsets that are taken are gathered in the open transaction; else the call is refused. -/
theorem sendOffsets_cases (offsets : List OffsetCommit) : p.Refuses l (p.sendOffsets l offsets) ∨
    ∃ t, p.transaction = some t ∧ p.sendOffsets l offsets =
      (.ok (), { p with transaction := some { t with offsets := t.offsets ++ offsets } }, l) := by
  unfold TransactionalProducer.sendOffsets
  split
  · exact .inl ⟨_, rfl, rfl, rfl⟩
  · split
    · next t held => exact .inr ⟨t, held, rfl⟩
    · exact .inl ⟨_, rfl, rfl, rfl⟩

/-- A commit writes all that the open transaction holds and closes it; else the call is refused. -/
theorem commit_cases : p.Refuses l (p.commit l) ∨
    ∃ t log, p.transaction = some t ∧ p.commit l = (.ok (), { p with transaction := none }, log) ∧
      log.Agrees (l.applyTransaction t.messages t.offsets) := by
  unfold TransactionalProducer.commit
  split
  · exact .inl ⟨_, rfl, rfl, rfl⟩
  · split
    · exact .inl ⟨_, rfl, rfl, rfl⟩
    · split
      · next t held => exact .inr ⟨t, _, held, rfl, rfl, rfl, rfl⟩
      · exact .inl ⟨_, rfl, rfl, rfl⟩

/-- A transaction can be begun just if nothing hinders the producer and it has none open. -/
theorem begin_ok_iff : (p.begin l).1 = .ok () ↔
    (p.fenced = false ∧ p.failBegin = 0) ∧ ¬ p.transaction.isSome := by
  unfold TransactionalProducer.begin
  grind

/-- A message can be produced just if nothing hinders the producer and it has a transaction open. -/
theorem produce_ok_iff (m : Message) : (p.produce l m).1 = .ok () ↔
    (p.fenced = false ∧ p.failProduce = 0) ∧ p.transaction.isSome := by
  unfold TransactionalProducer.produce
  grind

/-- Offsets can be sent just if the producer is not fenced and has a transaction open. -/
theorem sendOffsets_ok_iff (offsets : List OffsetCommit) : (p.sendOffsets l offsets).1 = .ok () ↔
    p.fenced = false ∧ p.transaction.isSome := by
  unfold TransactionalProducer.sendOffsets
  grind

/-- A transaction can be committed just if nothing hinders the producer and it has one open. -/
theorem commit_ok_iff : (p.commit l).1 = .ok () ↔
    (p.fenced = false ∧ p.failCommit = 0) ∧ p.transaction.isSome := by
  unfold TransactionalProducer.commit
  grind

/-- An abort drops what the open transaction holds and leaves the log alone; else the call is
refused. -/
theorem abort_cases : p.Refuses l (p.abort l) ∨
    ∃ (after : TransactionalProducer) (log : Log), p.abort l = (.ok (), after, log) ∧
      after.transaction = none ∧ log.Agrees l := by
  unfold TransactionalProducer.abort
  split
  · exact .inl ⟨_, rfl, rfl, rfl⟩
  · split
    · exact .inr ⟨_, _, rfl, rfl, rfl, rfl, rfl⟩
    · next free => exact .inr ⟨_, _, rfl, free, rfl, rfl, rfl⟩

end TransactionalProducer

/-- A plain producer writes a message at once, or it is refused. -/
theorem PlainProducer.send_cases (p : PlainProducer) (l : Log) (m : Message) :
    (∃ cause, p.send l m = (.error cause, l)) ∨
      ∃ log : Log, p.send l m = (.ok (), log) ∧ log.Agrees (l.append m) := by
  unfold PlainProducer.send
  split
  · exact .inl ⟨_, rfl⟩
  · exact .inr ⟨_, rfl, Log.ring_agrees _⟩

/-! ## What the producers hold -/

namespace BrokerCall

variable {id : Nat} {past : List (BrokerCall × BrokerAnswer)} {call : BrokerCall}
  {answer : BrokerAnswer} {cause : BrokerError}

/-- The producer that a call is made by, if it has a transaction. -/
def maker? : BrokerCall → Option Nat
  | begin id | produce id _ | sendOffsets id _ | commit id | abort id => some id
  | _ => none

/-- The producer in whose transaction a call belongs. -/
def inside? : BrokerCall → Option Nat
  | produce id _ | sendOffsets id _ | commit id => some id
  | _ => none

/-- Whether nothing was done to a producer that makes a call fail. -/
def Unhindered (p : TransactionalProducer) : BrokerCall → Prop
  | begin _ => p.fenced = false ∧ p.failBegin = 0
  | produce _ _ => p.fenced = false ∧ p.failProduce = 0
  | commit _ => p.fenced = false ∧ p.failCommit = 0
  | _ => p.fenced = false

/-- Whether a call leaves the transaction of a producer as it is. -/
structure Silent (id : Nat) (e : BrokerCall × BrokerAnswer) : Prop where
  opens : opens id e = false
  closes : closes id e = false
  produced : produced? id e = none
  added : added id e = []

/-- A call that is refused says nothing about any transaction. -/
theorem silent_error : Silent id (call, .error cause) := by
  cases call <;> exact ⟨rfl, rfl, rfl, rfl⟩

/-- The calls of others say nothing about the transaction of a producer. -/
theorem silent_other (other : call.maker? ≠ some id) : Silent id (call, answer) := by
  have differs : ∀ {i : Nat}, some i ≠ some id → i ≠ id := fun apart same => apart (same ▸ rfl)
  cases answer with
  | error cause => exact silent_error
  | ok _ =>
      cases call with
      | begin i => exact ⟨decide_eq_false (differs other), rfl, rfl, rfl⟩
      | produce i m => exact ⟨rfl, rfl, if_neg (differs other), rfl⟩
      | sendOffsets i offsets => exact ⟨rfl, rfl, rfl, if_neg (differs other)⟩
      | commit i | abort i => exact ⟨rfl, decide_eq_false (differs other), rfl, rfl⟩
      | _ => exact ⟨rfl, rfl, rfl, rfl⟩

/-- A call that is refused deposits nothing. -/
theorem deposits_error : deposits past (call, .error cause) = [] := by
  cases call <;> rfl

/-- A call that deposits nothing. -/
theorem shows_nothing {l : Log} {ds : List Deposit} {e : BrokerCall × BrokerAnswer}
    (nothing : deposits past e = []) (shows_ : l.Shows ds) : l.Shows (ds ++ deposits past e) := by
  rw [nothing, List.append_nil]
  exact shows_

end BrokerCall

namespace TransactionalProducer

open BrokerCall

variable {p q : TransactionalProducer} {l : Log} {id : Nat} {call : BrokerCall}
  {past : List (BrokerCall × BrokerAnswer)} {e : BrokerCall × BrokerAnswer} {step : Step}

/-- Whether a producer has a transaction just if it has begun one, and the transaction holds what
was produced and added since. -/
structure Recalls (past : List (BrokerCall × BrokerAnswer)) (id : Nat) (p : TransactionalProducer) :
    Prop where
  isSome_iff : p.transaction.isSome ↔ InTransaction id past
  messages : ∀ t, p.transaction = some t →
    t.messages = (since id past).filterMap (produced? id)
  offsets : ∀ t, p.transaction = some t → t.offsets = (since id past).flatMap (added id)

/-- A producer without a transaction is as its past says when the last event has closed it. -/
theorem Recalls.of_closes (idle : q.transaction = none) (ends : closes id e = true) :
    q.Recalls (past ++ [e]) id := by
  refine ⟨?_, ?_, ?_⟩
  · rw [idle]
    exact iff_of_false nofun (not_inTransaction_of_closes ends)
  all_goals
    rw [idle]
    exact nofun

/-- A producer with an empty transaction is as its past says when the last event has opened it. -/
theorem Recalls.of_opens (fresh : q.transaction = some ⟨[], []⟩) (begins : opens id e = true) :
    q.Recalls (past ++ [e]) id := by
  refine ⟨?_, ?_, ?_⟩
  · rw [fresh]
    exact iff_of_true rfl (inTransaction_of_opens begins)
  all_goals
    intro t held
    rw [fresh] at held
    cases held
    rw [since_snoc, if_pos begins]
    rfl

/-- A call that neither begins nor ends the transaction adds to it what it says. -/
theorem Recalls.snoc (recalled : p.Recalls past id) (goesOn : opens id e = false)
    (stays : closes id e = false)
    (gathers : q.transaction = p.transaction.map fun t =>
      ⟨t.messages ++ (produced? id e).toList, t.offsets ++ added id e⟩) :
    q.Recalls (past ++ [e]) id := by
  refine ⟨?_, fun after held => ?_, fun after held => ?_⟩
  · rw [gathers, Option.isSome_map, inTransaction_snoc goesOn stays]
    exact recalled.isSome_iff
  all_goals
    rw [gathers, Option.map_eq_some_iff] at held
    obtain ⟨t, before, rfl⟩ := held
  · rw [recalled.messages t before, since_snoc, goesOn, if_neg Bool.false_ne_true,
      List.filterMap_append]
    rfl
  · rw [recalled.offsets t before, since_snoc, goesOn, if_neg Bool.false_ne_true,
      List.flatMap_append, List.flatMap_singleton]

/-- A silent event leaves a producer as its past says. -/
theorem Recalls.silent (recalled : p.Recalls past id) (silent : Silent id e)
    (same : q.transaction = p.transaction) : q.Recalls (past ++ [e]) id := by
  refine recalled.snoc silent.opens silent.closes ?_
  rw [same, silent.produced, silent.added]
  simp only [Option.toList_none, List.append_nil, Option.map_id']

/-- Whether a step does what its call and its answer say. -/
structure Keeps (past : List (BrokerCall × BrokerAnswer)) (id : Nat) (call : BrokerCall) (l : Log)
    (step : Step) : Prop where
  recalls : step.2.1.Recalls (past ++ [(call, step.1)]) id
  visible : ∀ ds, l.Shows ds → step.2.2.Shows (ds ++ deposits past (call, step.1))
  unchanged : ∀ cause, step.1 = .error cause → step.2.2 = l

/-- A call that is refused keeps to what its answer says. -/
theorem Refuses.keeps (refused : p.Refuses l step) (recalled : p.Recalls past id) :
    Keeps past id call l step := by
  obtain ⟨answer, after, log⟩ := step
  obtain ⟨cause, answered, same, untouched⟩ := refused
  dsimp only at answered same untouched
  subst answered untouched
  refine ⟨recalled.silent silent_error same, fun ds => shows_nothing deposits_error,
    fun _ _ => rfl⟩

/-- To begin a transaction keeps to what its answer says. -/
theorem begin_keeps (recalled : p.Recalls past id) : Keeps past id (.begin id) l (p.begin l) := by
  rcases p.begin_cases l with refused | ⟨log, begun, same⟩
  · exact refused.keeps recalled
  · rw [begun]
    exact ⟨.of_opens rfl (decide_eq_true rfl),
      fun ds shows_ => shows_nothing rfl (shows_.of_agrees same), nofun⟩

/-- To produce a message keeps to what its answer says. -/
theorem produce_keeps (recalled : p.Recalls past id) (m : Message) :
    Keeps past id (.produce id m) l (p.produce l m) := by
  rcases p.produce_cases l m with refused | ⟨t, held, produced⟩
  · exact refused.keeps recalled
  · rw [produced]
    refine ⟨recalled.snoc rfl rfl ?_, fun ds => shows_nothing rfl, nofun⟩
    have made : produced? id (.produce id m, .ok ()) = some m := if_pos rfl
    rw [held, made, Option.map_some, BrokerCall.added, List.append_nil]
    · rfl
    · nofun

/-- To send offsets keeps to what its answer says. -/
theorem sendOffsets_keeps (recalled : p.Recalls past id) (offsets : List OffsetCommit) :
    Keeps past id (.sendOffsets id offsets) l (p.sendOffsets l offsets) := by
  rcases p.sendOffsets_cases l offsets with refused | ⟨t, held, sent⟩
  · exact refused.keeps recalled
  · rw [sent]
    refine ⟨recalled.snoc rfl rfl ?_, fun ds => shows_nothing rfl, nofun⟩
    have made : added id (.sendOffsets id offsets, .ok ()) = offsets := if_pos rfl
    rw [held, made, Option.map_some, BrokerCall.produced?, Option.toList_none, List.append_nil]
    nofun

/-- A commit deposits what its producer has gathered. -/
theorem commit_keeps (recalled : p.Recalls past id) :
    Keeps past id (.commit id) l (p.commit l) := by
  rcases p.commit_cases l with refused | ⟨t, log, held, committed, same⟩
  · exact refused.keeps recalled
  · rw [committed]
    refine ⟨.of_closes rfl (decide_eq_true rfl), fun ds shows_ => ?_, nofun⟩
    have applied := (shows_.applyTransaction t.messages t.offsets).of_agrees same
    rw [recalled.messages t held, recalled.offsets t held] at applied
    exact applied

/-- To abort keeps to what its answer says. -/
theorem abort_keeps (recalled : p.Recalls past id) : Keeps past id (.abort id) l (p.abort l) := by
  rcases p.abort_cases l with refused | ⟨after, log, aborted, closed, same⟩
  · exact refused.keeps recalled
  · rw [aborted]
    exact ⟨.of_closes closed (decide_eq_true rfl),
      fun ds shows_ => shows_nothing rfl (shows_.of_agrees same), nofun⟩

end TransactionalProducer

/-! ## Runs -/

namespace Brokerage

open BrokerCall TransactionalProducer

variable {b : Brokerage} {past : List (BrokerCall × BrokerAnswer)} {call : BrokerCall}
  {ds : List Deposit}

/-- Whether the open transactions hold what their producers have gathered. -/
def Recalls (b : Brokerage) (past : List (BrokerCall × BrokerAnswer)) : Prop :=
  ∀ id, (b.transactional id).Recalls past id

/-- Whether a call does what it and its answer say. -/
structure Keeps (b : Brokerage) (past : List (BrokerCall × BrokerAnswer)) (call : BrokerCall)
    (result : BrokerAnswer × Brokerage) : Prop where
  recalls : result.2.Recalls (past ++ [(call, result.1)])
  visible : ∀ ds, b.log.Shows ds → result.2.log.Shows (ds ++ deposits past (call, result.1))
  unchanged : ∀ cause, result.1 = .error cause → result.2.log = b.log

/-- What one producer keeps to, the brokerage with all its producers keeps to. -/
theorem transact_keeps (recalled : b.Recalls past) (call : BrokerCall) {id : Nat}
    (step : TransactionalProducer → Log → Step) (made : call.maker? = some id)
    (kept : (b.transactional id).Recalls past id →
      TransactionalProducer.Keeps past id call b.log (step (b.transactional id) b.log)) :
    b.Keeps past call (b.transact id step) := by
  obtain ⟨recalls, visible, unchanged⟩ := kept (recalled id)
  refine ⟨fun i => ?_, visible, unchanged⟩
  dsimp only [Brokerage.transact, Brokerage.put]
  split
  · next here =>
    subst here
    exact recalls
  · next elsewhere =>
    exact (recalled i).silent
      (silent_other fun makes => elsewhere (Option.some.inj (makes.symm.trans made))) rfl

/-- A call that succeeds and leaves all transactions as they are. -/
theorem Keeps.apart {after : Brokerage} {answer : BrokerAnswer} (recalled : b.Recalls past)
    (outside : call.maker? = none)
    (same : ∀ id, (after.transactional id).transaction = (b.transactional id).transaction)
    (visible : ∀ ds, b.log.Shows ds → after.log.Shows (ds ++ deposits past (call, answer)))
    (unchanged : ∀ cause, answer = .error cause → after.log = b.log) :
    b.Keeps past call (answer, after) := by
  refine ⟨fun id => ?_, visible, unchanged⟩
  exact (recalled id).silent (silent_other (by rw [outside]; exact nofun)) (same id)

/-- A call that sets a fault or takes over an identifier. -/
theorem Keeps.fault (recalled : b.Recalls past) {id : Nat} {p : TransactionalProducer}
    (outside : call.maker? = none) (same : p.transaction = (b.transactional id).transaction)
    (nothing : deposits past (call, .ok ()) = []) :
    b.Keeps past call (.ok (), b.put id p b.log) := by
  refine .apart recalled outside (fun i => ?_) (fun ds => shows_nothing nothing) fun _ _ => rfl
  dsimp only [Brokerage.put]
  split
  · next here =>
    rw [here]
    exact same
  · rfl

/-- Every call keeps to what its answer says. -/
theorem step_keeps (recalled : b.Recalls past) (call : BrokerCall) :
    b.Keeps past call (b.step call) := by
  cases call with
  | begin id => exact transact_keeps recalled (.begin id) (fun p l => p.begin l) rfl begin_keeps
  | produce id m =>
      exact transact_keeps recalled (.produce id m) (fun p l => p.produce l m) rfl
        fun held => produce_keeps held m
  | sendOffsets id offsets =>
      exact transact_keeps recalled (.sendOffsets id offsets)
        (fun p l => p.sendOffsets l offsets) rfl fun held => sendOffsets_keeps held offsets
  | commit id =>
      exact transact_keeps recalled (.commit id) (fun p l => p.commit l) rfl commit_keeps
  | abort id => exact transact_keeps recalled (.abort id) (fun p l => p.abort l) rfl abort_keeps
  | send id m =>
      dsimp only [Brokerage.step]
      rcases (b.plain id).send_cases b.log m with ⟨cause, refused⟩ | ⟨log, sent, same⟩
      · rw [refused]
        exact .apart recalled rfl (fun _ => rfl) (fun ds => shows_nothing deposits_error)
          fun _ _ => rfl
      · rw [sent]
        exact .apart recalled rfl (fun _ => rfl)
          (fun ds shows_ => (shows_.append m).of_agrees same) nofun
  | publish m partition =>
      exact .apart recalled rfl (fun _ => rfl) (fun ds shows_ => shows_.publish m partition) nofun
  | createTopic name count =>
      exact .apart recalled rfl (fun _ => rfl)
        (fun ds shows_ => shows_.createTopic name count) nofun
  | failBegin id count | failProduce id count | failCommit id count | fence id =>
      exact .fault recalled rfl rfl rfl
  | reach id down =>
      exact .apart recalled rfl (fun _ => rfl) (fun ds => shows_nothing rfl) nofun

/-- What belongs in a transaction succeeds just if there is one, the failures put upon the producer
apart. -/
theorem step_ok_iff (recalled : b.Recalls past) {id : Nat} (inside : call.inside? = some id) :
    (b.step call).1 = .ok () ↔
      Unhindered (b.transactional id) call ∧ InTransaction id past := by
  rw [← (recalled id).isSome_iff]
  cases call with
  | produce i m =>
      cases inside
      exact (b.transactional id).produce_ok_iff b.log m
  | sendOffsets i offsets =>
      cases inside
      exact (b.transactional id).sendOffsets_ok_iff b.log offsets
  | commit i =>
      cases inside
      exact (b.transactional id).commit_ok_iff b.log
  | _ => cases inside

/-- A producer can begin a transaction just if nothing hinders it and the past has it in none. -/
theorem begin_ok_iff (recalled : b.Recalls past) (id : Nat) :
    (b.step (.begin id)).1 = .ok () ↔
      Unhindered (b.transactional id) (.begin id) ∧ ¬ InTransaction id past := by
  rw [← (recalled id).isSome_iff]
  exact (b.transactional id).begin_ok_iff b.log

/-- A run deposits what its calls do, and the producers go on recalling what they gathered. -/
theorem after_keeps (recalled : b.Recalls past) (shows_ : b.log.Shows ds)
    (calls : List BrokerCall) :
    (b.after calls).Recalls (past ++ b.history calls) ∧
      (b.after calls).log.Shows (ds ++ depositsAfter past (b.history calls)) := by
  induction calls generalizing b past ds with
  | nil =>
      rw [Brokerage.history, BrokerCall.depositsAfter, List.append_nil, List.append_nil]
      exact ⟨recalled, shows_⟩
  | cons call rest ih =>
      have kept := step_keeps recalled call
      rw [Brokerage.history, BrokerCall.depositsAfter, List.append_cons, ← List.append_assoc]
      exact ih kept.recalls (kept.visible ds shows_)

/-- Readers see of a log what the calls and their answers say was deposited: the messages of a
transaction and then its offsets, all at once when it is committed, and nothing of it before or
otherwise. A call that fails leaves the log as it is. Failures put upon a producer apart, it can
begin a transaction just if it is in none, and do just then in one what belongs there. The messages
of a topic that have one key lie in one partition, in the order in which they were deposited. -/
theorem shows_deposits (names : Nat → String) (calls : List BrokerCall) :
    let b := (start names).after calls
    let past := (start names).history calls
    let ds := depositsAfter [] past
    b.log.Shows ds ∧
    (∀ call cause, (b.step call).1 = .error cause → (b.step call).2.log = b.log) ∧
    (∀ id, (b.step (.begin id)).1 = .ok () ↔
      Unhindered (b.transactional id) (.begin id) ∧ ¬ InTransaction id past) ∧
    (∀ call id, call.inside? = some id → ((b.step call).1 = .ok () ↔
      Unhindered (b.transactional id) call ∧ InTransaction id past)) ∧
    ∀ topic key, ∃ index : Nat, (ds.filterMap (Deposit.keyed? topic key)).Sublist
      (((b.log.partition? ⟨topic, index⟩).getD []).map Record.message) := by
  have fresh : (start names).Recalls [] := by
    intro id
    refine ⟨iff_of_false nofun ?_, nofun, nofun⟩
    rintro ⟨⟨e, among, _⟩, _⟩
    cases among
  have ⟨recalled, shows_⟩ := after_keeps fresh Log.shows_empty calls
  rw [List.nil_append] at recalled shows_
  refine ⟨shows_, fun call cause failed => ?_, begin_ok_iff recalled, fun call id inside => ?_,
    shows_.keyed⟩
  · exact (step_keeps recalled call).unchanged cause failed
  · exact step_ok_iff recalled inside

end Brokerage

end AlertRelay
