import AlertRelay.Proofs.Broker.Atomic
import Mathlib.Data.Set.Card

/-!
# Producers and members around one log

Producers write to a log and members of consumer groups read from it, any number of them, in any
order (`Hub`, `HubEvent`). Whatever happens, records lie where they say, topics keep their
partitions and partitions what they hold, the last commit is what counts, and the transactions that
were begun are the ones that have ended and the ones that are open (`Hub.log_consistent`).
-/

namespace AlertRelay

/-- What a member of a consumer group does. A poll looks whether the member has left, and if not it
scans the partitions for a record; other things can happen between the two, the leaving among them.
A new assignment has two halves as well. -/
inductive MemberAct where
  | look
  | scan
  | pause (tps : List TopicPartition)
  | resume (tps : List TopicPartition)
  | seek (tp : TopicPartition) (offset : Int)
  | reset
  | bump
  | close

/-- What happens at a broker: a call, or someone joins a group, or a member does something. Members
are numbered. -/
inductive HubEvent where
  | call (c : BrokerCall)
  | join (id : Nat) (group : String) (topics : List String)
  | act (id : Nat) (a : MemberAct)

/-- What is answered; a record is handed out by scans alone. -/
abbrev HubAnswer := Except BrokerError (Option Record)

/-- The answer of a member, with the member and the log after it. -/
def MemberAct.run (s : Subscription) (l : Log) : MemberAct → HubAnswer × Subscription × Log
  | .look => (if s.closed then .error .closed else .ok none, s, l)
  | .scan => (.ok (s.scan l).1, (s.scan l).2, l)
  | .pause tps => (.ok none, s.pause tps, l)
  | .resume tps => (.ok none, s.resume l tps)
  | .seek tp offset => ((s.seek l tp offset).1.map fun _ => none, (s.seek l tp offset).2)
  | .reset => (.ok none, s.resetPositions l, l)
  | .bump => (.ok none, s.bumpGeneration l)
  | .close => (.ok none, s.close l)

/-- How many polls of a member have looked and are yet to scan, after the member does something: a
look that finds it still there is one more, a scan one less. -/
def MemberAct.looked (s : Subscription) (before : Nat) : MemberAct → Nat
  | .look => if s.closed then before else before + 1
  | .scan => before - 1
  | _ => before

/-- A log with its producers, the members of consumer groups that read it, and how many polls of
each member have looked and are yet to scan. -/
structure Hub where
  brokerage : Brokerage
  member? : Nat → Option Subscription
  looked : Nat → Nat

namespace Hub

/-- An empty log, producers that have not begun, and no members. -/
def start (names : Nat → String) : Hub := ⟨.start names, fun _ => none, fun _ => 0⟩

/-- The log. -/
def log (h : Hub) : Log := h.brokerage.log

/-- Puts a member. -/
def put (h : Hub) (id : Nat) (s : Subscription) (looked : Nat) (log : Log) : Hub where
  brokerage := { h.brokerage with log := log }
  member? := fun i => if i = id then some s else h.member? i
  looked := fun i => if i = id then looked else h.looked i

/-- The member that does something. There is none if no one has joined, and none that scans if no
poll has looked. -/
def actor? (h : Hub) (id : Nat) : MemberAct → Option Subscription
  | .scan => if h.looked id = 0 then none else h.member? id
  | _ => h.member? id

/-- One event. Nothing happens if there is no member to do it. -/
def step (h : Hub) : HubEvent → HubAnswer × Hub
  | .call c =>
    let (answer, b) := h.brokerage.step c
    (answer.map fun _ => none, { h with brokerage := b })
  | .join id group topics =>
    let (s, log) := Subscription.join h.log group topics
    (.ok none, h.put id s 0 log)
  | .act id a =>
    match h.actor? id a with
    | some s =>
      let (answer, after, log) := a.run s h.log
      (answer, h.put id after (a.looked s (h.looked id)) log)
    | none => (.ok none, h)

/-- The broker after some events. -/
def after (h : Hub) (events : List HubEvent) : Hub := events.foldl (fun h e => (h.step e).2) h

/-- The events with their answers. -/
def history : Hub → List HubEvent → List (HubEvent × HubAnswer)
  | _, [] => []
  | h, e :: rest => (e, (h.step e).1) :: (h.step e).2.history rest

end Hub

/-! ## Open transactions -/

/-- How many transactions have ended. -/
def TransactionStats.ended (s : TransactionStats) : Nat := s.committed + s.aborted

namespace Log

/-- A message counts no transaction. -/
theorem append_stats (l : Log) (m : Message) : (l.append m).stats = l.stats := rfl

/-- A topic that is created counts no transaction. -/
theorem createTopic_stats (l : Log) (topic : String) (count : Nat) :
    (l.createTopic topic count).stats = l.stats := by
  unfold Log.createTopic
  split <;> rfl

/-- To apply a transaction counts none; that is done by its producer. -/
theorem applyTransaction_stats (l : Log) (messages : List Message) (offsets : List OffsetCommit) :
    (l.applyTransaction messages offsets).stats = l.stats := by
  apply List.foldlRecOn (motive := fun log => log.stats = l.stats) offsets Log.commitOffset
  · apply List.foldlRecOn (motive := fun log => log.stats = l.stats) messages Log.append rfl
    intro log same m _
    exact (log.append_stats m).trans same
  · intro log same c _
    exact same

end Log

namespace TransactionalProducer

variable (p : TransactionalProducer) (l : Log)

/-- How many transactions a producer has open: one or none. -/
def openCount (p : TransactionalProducer) : Nat := if p.transaction.isSome then 1 else 0

/-- Whether a step counts the transactions that it begins and ends. -/
def Counts (p : TransactionalProducer) (l : Log) (step : Step) : Prop :=
  step.2.2.stats.begun + l.stats.ended + p.openCount =
    l.stats.begun + step.2.2.stats.ended + step.2.1.openCount

variable {p l} in
/-- A step that begins no transaction and ends none. -/
theorem Counts.still {step : Step} (transaction : step.2.1.transaction = p.transaction)
    (stats : step.2.2.stats = l.stats) : p.Counts l step := by
  unfold TransactionalProducer.Counts TransactionalProducer.openCount
  rw [transaction, stats]

variable {p l} in
/-- A call that is refused counts no transaction. -/
theorem Refuses.counts {step : Step} (refused : p.Refuses l step) : p.Counts l step := by
  obtain ⟨_, _, transaction, log⟩ := refused
  exact .still transaction (congrArg Log.stats log)

/-- A transaction that is begun is counted as begun, and open. -/
theorem begin_counts : p.Counts l (p.begin l) := by
  unfold TransactionalProducer.begin
  split
  · exact .still rfl rfl
  · split
    · exact .still rfl rfl
    · split
      · exact .still rfl rfl
      · next free =>
        simp only [Counts, TransactionStats.ended, openCount, free, Option.isSome_none,
          Option.isSome_some, ↓reduceIte, Bool.false_eq_true]
        omega

/-- To produce a message counts no transaction. -/
theorem produce_counts (m : Message) : p.Counts l (p.produce l m) := by
  rcases p.produce_cases l m with refused | ⟨t, held, produced⟩
  · exact refused.counts
  · simp only [produced, Counts, openCount, held, Option.isSome_some]

/-- To send offsets counts no transaction. -/
theorem sendOffsets_counts (offsets : List OffsetCommit) :
    p.Counts l (p.sendOffsets l offsets) := by
  rcases p.sendOffsets_cases l offsets with refused | ⟨t, held, sent⟩
  · exact refused.counts
  · simp only [sent, Counts, openCount, held, Option.isSome_some]

/-- A transaction that is committed is counted as committed, and no longer open. -/
theorem commit_counts : p.Counts l (p.commit l) := by
  unfold TransactionalProducer.commit
  split
  · exact .still rfl rfl
  · split
    · exact .still rfl rfl
    · split
      · next t held =>
        simp only [Counts, TransactionStats.ended, Log.ring, openCount, held,
          Log.applyTransaction_stats, Option.isSome_none, Option.isSome_some, ↓reduceIte,
          Bool.false_eq_true]
        omega
      · exact .still rfl rfl

/-- A transaction that is aborted is counted as aborted, and no longer open. -/
theorem abort_counts : p.Counts l (p.abort l) := by
  unfold TransactionalProducer.abort
  split
  · exact .still rfl rfl
  · split
    · next t held =>
      simp only [Counts, TransactionStats.ended, openCount, held, Option.isSome_none,
        Option.isSome_some, ↓reduceIte, Bool.false_eq_true]
      omega
    · exact .still rfl rfl

end TransactionalProducer

namespace Brokerage

variable {b after : Brokerage} {id : Nat}

/-- The producers with an open transaction. -/
def openIds (b : Brokerage) : Set Nat := {id | (b.transactional id).transaction.isSome}

theorem mem_openIds : id ∈ b.openIds ↔ (b.transactional id).transaction.isSome := Iff.rfl

/-- Whether every transaction that was begun has ended or is open. -/
structure Balanced (b : Brokerage) : Prop where
  finite : b.openIds.Finite
  begun : b.log.stats.begun = b.log.stats.ended + b.openIds.ncard

/-- One producer among those with an open transaction. -/
theorem ncard_openIds (finite : b.openIds.Finite) (id : Nat) :
    b.openIds.ncard = (b.openIds \ {id}).ncard + (b.transactional id).openCount := by
  by_cases inside : id ∈ b.openIds
  · rw [TransactionalProducer.openCount, if_pos (mem_openIds.mp inside)]
    exact (Set.ncard_sdiff_singleton_add_one inside finite).symm
  · rw [TransactionalProducer.openCount, if_neg (mt mem_openIds.mpr inside),
      Set.sdiff_singleton_eq_self inside, Nat.add_zero]

/-- A step in which no other producer takes part. -/
theorem Balanced.of_counts (balanced : b.Balanced) (id : Nat)
    (others : ∀ i, i ≠ id → after.transactional i = b.transactional i)
    (counts : (b.transactional id).Counts b.log
      (.ok (), after.transactional id, after.log)) : after.Balanced := by
  have rest : after.openIds \ {id} = b.openIds \ {id} := by
    ext i
    simp only [Set.mem_sdiff, mem_openIds, Set.mem_singleton_iff]
    apply and_congr_left
    intro other
    rw [others i other]
  have finite : after.openIds.Finite := by
    apply Set.Finite.of_sdiff _ (Set.finite_singleton id)
    rw [rest]
    exact balanced.finite.sdiff
  refine ⟨finite, ?_⟩
  have before := ncard_openIds balanced.finite id
  have now := ncard_openIds finite id
  have begun := balanced.begun
  rw [rest] at now
  dsimp only [TransactionalProducer.Counts] at counts
  omega

/-- A step in which no producer begins or ends a transaction. -/
theorem Balanced.still (balanced : b.Balanced)
    (transactions : ∀ i, (after.transactional i).transaction = (b.transactional i).transaction)
    (stats : after.log.stats = b.log.stats) : after.Balanced := by
  have same : after.openIds = b.openIds := by
    ext i
    simp only [mem_openIds, transactions]
  refine ⟨?_, ?_⟩
  · rw [same]
    exact balanced.finite
  · rw [same, stats]
    exact balanced.begun

/-- A call of one producer that counts its transactions keeps all of them in balance. -/
theorem Balanced.transact (balanced : b.Balanced) {id : Nat}
    {step : TransactionalProducer → Log → TransactionalProducer.Step}
    (counts : (b.transactional id).Counts b.log (step (b.transactional id) b.log)) :
    (b.transact id step).2.Balanced := by
  apply balanced.of_counts id
  · intro i other
    exact if_neg other
  · have here : (b.transact id step).2.transactional id = (step (b.transactional id) b.log).2.1 :=
      if_pos rfl
    rw [here]
    exact counts

/-- Setting a fault or taking over an identifier neither begins nor ends a transaction. -/
theorem Balanced.put (balanced : b.Balanced) {p : TransactionalProducer}
    (same : p.transaction = (b.transactional id).transaction) :
    (b.put id p b.log).Balanced := by
  refine balanced.still (fun i => ?_) rfl
  dsimp only [Brokerage.put]
  split
  · next here => rw [here, same]
  · rfl

/-- Every call keeps the transactions in balance. -/
theorem Balanced.step (balanced : b.Balanced) (call : BrokerCall) : (b.step call).2.Balanced := by
  cases call with
  | begin id => exact balanced.transact ((b.transactional id).begin_counts b.log)
  | produce id m => exact balanced.transact ((b.transactional id).produce_counts b.log m)
  | sendOffsets id offsets =>
      exact balanced.transact ((b.transactional id).sendOffsets_counts b.log offsets)
  | commit id => exact balanced.transact ((b.transactional id).commit_counts b.log)
  | abort id => exact balanced.transact ((b.transactional id).abort_counts b.log)
  | send id m =>
      refine balanced.still (fun _ => rfl) ?_
      dsimp only [Brokerage.step, PlainProducer.send]
      split <;> rfl
  | publish m partition => exact balanced.still (fun _ => rfl) rfl
  | createTopic name count =>
      exact balanced.still (fun _ => rfl) (b.log.createTopic_stats name count)
  | failBegin id count | failProduce id count | failCommit id count | fence id =>
      exact balanced.put rfl
  | reach id down => exact balanced.still (fun _ => rfl) rfl

end Brokerage

/-! ## What members do to the log -/

/-- Members leave the log as its readers see it, and count no transactions. -/
theorem MemberAct.run_log (s : Subscription) (l : Log) (a : MemberAct) :
    (a.run s l).2.2.Agrees l ∧ (a.run s l).2.2.stats = l.stats := by
  cases a with
  | seek tp offset =>
      dsimp only [MemberAct.run, Subscription.seek]
      split
      · exact ⟨l.ring_agrees, rfl⟩
      · exact ⟨.refl l, rfl⟩
  | look | scan | pause tps | reset => exact ⟨.refl l, rfl⟩
  | resume tps | bump | close => exact ⟨l.ring_agrees, rfl⟩

namespace Log

variable {l : Log} {ds : List Deposit}

/-- Whoever joins creates the topics that are not there. -/
theorem Shows.join (shows_ : l.Shows ds) (group : String) (topics : List String) :
    (Subscription.join l group topics).2.Shows (ds ++ topics.map fun topic => .topic topic 1) := by
  change (topics.foldl (fun l topic => l.createTopic topic 1) l).Shows _
  induction topics generalizing l ds with
  | nil =>
      rw [List.map_nil, List.append_nil]
      exact shows_
  | cons topic rest ih =>
      rw [List.map_cons, List.append_cons]
      exact ih (shows_.createTopic topic 1)

/-- To join a group counts no transaction. -/
theorem join_stats (l : Log) (group : String) (topics : List String) :
    (Subscription.join l group topics).2.stats = l.stats :=
  List.foldlRecOn (motive := fun log : Log => log.stats = l.stats) topics _ rfl
    fun log same topic _ => (log.createTopic_stats topic 1).trans same

end Log

/-! ## Runs -/

namespace Hub

open Deposit

variable {h : Hub} {ds : List Deposit}

/-- Whether the log shows what was deposited, and the transactions are accounted for. -/
structure Sound (h : Hub) (ds : List Deposit) : Prop where
  recalls : ∃ past, h.brokerage.Recalls past
  shows_ : h.log.Shows ds
  balanced : h.brokerage.Balanced

/-- To begin with, nothing is deposited and no transaction is open. -/
theorem sound_start (names : Nat → String) : (start names).Sound [] := by
  have none : (Brokerage.start names).openIds = ∅ := by
    ext id
    simp only [Brokerage.mem_openIds, Brokerage.start, TransactionalProducer.new,
      Option.isSome_none, Bool.false_eq_true, Set.mem_empty_iff_false]
  refine ⟨⟨[], fun id => ?_⟩, Log.shows_empty, ⟨?_, ?_⟩⟩
  · refine ⟨iff_of_false nofun ?_, nofun, nofun⟩
    rintro ⟨⟨e, among, _⟩, _⟩
    cases among
  · change (Brokerage.start names).openIds.Finite
    rw [none]
    exact Set.finite_empty
  · change 0 = 0 + (Brokerage.start names).openIds.ncard
    rw [none, Set.ncard_empty]

/-- Producers do not notice what members do. -/
theorem Sound.put (sound : h.Sound ds) (id : Nat) (s : Subscription) (looked : Nat) {log : Log}
    {more : List Deposit} (shows_ : log.Shows more) (stats : log.stats = h.log.stats) :
    (h.put id s looked log).Sound more := by
  obtain ⟨past, recalled⟩ := sound.recalls
  exact ⟨⟨past, recalled⟩, shows_, sound.balanced.still (fun _ => rfl) stats⟩

/-- Every event makes its deposits behind the earlier ones. -/
theorem Sound.step (sound : h.Sound ds) (e : HubEvent) :
    ∃ more, (h.step e).2.Sound (ds ++ more) := by
  cases e with
  | call c =>
      obtain ⟨past, recalled⟩ := sound.recalls
      have kept := Brokerage.step_keeps recalled c
      exact ⟨_, ⟨_, kept.recalls⟩, kept.visible ds sound.shows_, sound.balanced.step c⟩
  | join id group topics =>
      exact ⟨_, sound.put id _ 0 (sound.shows_.join group topics)
        (Log.join_stats _ group topics)⟩
  | act id a =>
      refine ⟨[], ?_⟩
      rw [List.append_nil, Hub.step]
      split
      · next s _ =>
        obtain ⟨same, stats⟩ := a.run_log s h.log
        exact sound.put id _ _ (sound.shows_.of_agrees same) stats
      · exact sound

/-- Any events make their deposits behind the earlier ones. -/
theorem Sound.after (sound : h.Sound ds) (events : List HubEvent) :
    ∃ more, (h.after events).Sound (ds ++ more) := by
  induction events generalizing h ds with
  | nil =>
      refine ⟨[], ?_⟩
      rw [List.append_nil]
      exact sound
  | cons e rest ih =>
      obtain ⟨now, stepped⟩ := sound.step e
      obtain ⟨later, ran⟩ := ih stepped
      refine ⟨now ++ later, ?_⟩
      rw [← List.append_assoc]
      exact ran

/-- After any events every topic has a partition, and every record lies in the topic, the partition
and at the offset that it says. Later events leave the topics and their partitions as they are and
only add to what the partitions hold. What a group has committed in a partition is the last commit
for it, if there is any. The transactions that were begun have been committed or aborted, or their
producers have them open. -/
theorem log_consistent (names : Nat → String) (events more : List HubEvent) :
    let h := (start names).after events
    let later := h.after more
    (∀ topic logs, h.log.topics.get? topic = some logs → 0 < logs.length ∧
      (∀ (index : Nat) log, logs[index]? = some log → ∀ (offset : Nat) r, log[offset]? = some r →
        r.topic = topic ∧ r.partition = index ∧ r.offset = offset) ∧
      ∃ grown, later.log.topics.get? topic = some grown ∧ grown.length = logs.length ∧
        ∀ (index : Nat) log, logs[index]? = some log →
          ∃ added, grown[index]? = some (log ++ added)) ∧
    (∀ group tp, h.log.committed? group tp = OffsetCommit.latest? group tp h.log.commitLog ∧
      (h.log.committed? group tp = none ↔
        ∀ c ∈ h.log.commitLog, ¬ (c.consumerGroup = group ∧ c.topicPartition = tp))) ∧
    {id | (h.brokerage.transactional id).transaction.isSome}.Finite ∧
    h.log.stats.begun = h.log.stats.committed + h.log.stats.aborted +
      {id | (h.brokerage.transactional id).transaction.isSome}.ncard := by
  intro h later
  obtain ⟨ds, sound⟩ := (sound_start names).after events
  obtain ⟨added, ran⟩ := sound.after more
  have placed := sound.shows_.wellFormed
  have grows := sound.shows_.grown ran.shows_
  refine ⟨?_, ?_, sound.balanced.finite, sound.balanced.begun⟩
  · intro topic logs found
    refine ⟨List.length_pos_iff.mpr (placed.inhabited topic logs found), ?_,
      grows.partitions found⟩
    intro index log present offset r entry
    obtain ⟨here, there⟩ := placed.placed topic logs found index log present offset r entry
    exact ⟨congrArg TopicPartition.topic here, congrArg TopicPartition.partition here, there⟩
  · intro group tp
    have last := sound.shows_.committed_eq group tp
    refine ⟨last, ?_⟩
    rw [last]
    exact OffsetCommit.latest?_eq_none

end Hub

end AlertRelay
