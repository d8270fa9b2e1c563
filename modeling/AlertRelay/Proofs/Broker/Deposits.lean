import AlertRelay.Proofs.Broker.Growth
import Mathlib.Data.List.Forall2
import Mathlib.Data.List.Induction

/-!
# Deposits

An atomic log is no more than the list of all that was deposited in it, in order: messages that go
to the partition of their key, messages put into a partition directly, topics that were created, and
offsets. What readers see of it is computed from that list (`Deposit.partitions?`,
`Deposit.commits`, `Deposit.committed?`).

A log shows some deposits if its readers see just that (`Log.Shows`). Every operation of the log
makes it show one deposit more, and a transaction makes it show all that the transaction holds.
-/

namespace AlertRelay

/-- What comes into a log in one piece. -/
inductive Deposit where
  /-- A message, for the partition of its key. -/
  | message (m : Message)
  /-- A message, for a partition that is named with it. -/
  | record (m : Message) (partition : Int)
  | topic (name : String) (count : Nat)
  | offset (c : OffsetCommit)

/-- What a record holds. -/
def Record.message (r : Record) : Message := ⟨r.topic, r.key, r.value, r.headers⟩

/-- A message is put into one of the partitions that there are. -/
theorem Message.partition_lt (m : Message) {count : Nat} (positive : 0 < count) :
    m.partition count < count := by
  unfold Message.partition
  split
  · exact Nat.mod_lt _ positive
  · exact positive

namespace Deposit

/-- The topic of a deposit, with the partitions that it gets if the deposit is its first one. -/
def opens? : Deposit → Option (String × Nat)
  | message m | record m _ => some (m.topic, 1)
  | topic name count => some (name, max count 1)
  | offset _ => none

/-- How many partitions a topic has. Its first deposit settles this. -/
def partitionCount? (ds : List Deposit) (name : String) : Option Nat :=
  (ds.filterMap opens?).lookup name

/-- The message that a deposit puts into a partition of a topic with so many of them. -/
def arrives? (name : String) (count index : Nat) : Deposit → Option Message
  | message m => if m.topic = name ∧ m.partition count = index then some m else none
  | record m partition =>
    if m.topic = name ∧ min partition.toNat (count - 1) = index then some m else none
  | _ => none

/-- The records of a partition of a topic with so many of them. -/
def partition (ds : List Deposit) (name : String) (count index : Nat) : List Record :=
  (ds.filterMap (arrives? name count index)).mapIdx fun offset m => Log.place m index offset

/-- The partitions of a topic, if it is there. -/
def partitions? (ds : List Deposit) (name : String) : Option (List (List Record)) :=
  (partitionCount? ds name).map fun count => (List.range count).map (partition ds name count)

def commit? : Deposit → Option OffsetCommit
  | offset c => some c
  | _ => none

/-- All offset commits. -/
def commits (ds : List Deposit) : List OffsetCommit := ds.filterMap commit?

/-- The last offset that a group has committed in a partition. -/
def committed? (ds : List Deposit) (group : String) (tp : TopicPartition) : Option Int :=
  (((commits ds).filter fun c => c.consumerGroup = group ∧ c.topicPartition = tp).map
    OffsetCommit.offset).getLast?

variable {ds : List Deposit} {d : Deposit} {name : String} {count index : Nat}

/-- A topic keeps the number of partitions that it was given first. -/
theorem partitionCount?_snoc : partitionCount? (ds ++ [d]) name =
    (partitionCount? ds name).or (partitionCount? [d] name) := by
  unfold Deposit.partitionCount?
  rw [List.filterMap_append, List.lookup_append]

/-- A topic has a partition. -/
theorem partitionCount?_pos (there : partitionCount? ds name = some count) : 0 < count := by
  unfold Deposit.partitionCount? at there
  induction ds with
  | nil => cases there
  | cons d rest ih =>
      cases opened : opens? d with
      | none =>
          rw [List.filterMap_cons_none opened] at there
          exact ih there
      | some pair =>
          rw [List.filterMap_cons_some opened, List.lookup_cons] at there
          split at there
          · cases there
            cases d with
            | message m | record m partition =>
                cases opened
                exact Nat.one_pos
            | topic other count =>
                cases opened
                exact Nat.lt_of_lt_of_le Nat.one_pos (Nat.le_max_right count 1)
            | offset c => cases opened
          · exact ih there

/-- A deposit in another topic puts nothing into a partition. -/
theorem arrives?_none (apart : partitionCount? [d] name = none) :
    arrives? name count index d = none := by
  have other : ∀ {m : Message} {n : Nat}, [(m.topic, n)].lookup name = none → m.topic ≠ name := by
    rintro m n absent rfl
    rw [List.lookup_cons_self] at absent
    cases absent
  cases d with
  | message m => exact if_neg fun here => other apart here.1
  | record m partition => exact if_neg fun here => other apart here.1
  | topic _ _ | offset _ => rfl

/-- A deposit adds its record at the end of the partition that it arrives in, and nothing elsewhere.
-/
theorem partition_snoc : partition (ds ++ [d]) name count index = partition ds name count index ++
    ((arrives? name count index d).map fun m =>
      Log.place m index (partition ds name count index).length).toList := by
  unfold Deposit.partition
  rw [List.filterMap_append, List.length_mapIdx]
  cases arrived : arrives? name count index d with
  | none => rw [List.filterMap_cons_none arrived, List.filterMap_nil, List.append_nil,
      Option.map_none, Option.toList_none, List.append_nil]
  | some m => rw [List.filterMap_cons_some arrived, List.filterMap_nil, List.mapIdx_concat,
      Option.map_some, Option.toList_some]

/-- A message arrives in the partitions of its topic. -/
theorem topic_of_arrives? {m : Message} (arrived : arrives? name count index d = some m) :
    m.topic = name := by
  cases d with
  | message sent | record sent _ =>
      rw [arrives?, Option.ite_none_right_eq_some] at arrived
      obtain ⟨⟨here, _⟩, same⟩ := arrived
      cases same
      exact here
  | topic _ _ | offset _ => cases arrived

/-- Deposits leave what was there before them where it is. -/
theorem partition_append (more : List Deposit) :
    partition ds name count index <+: partition (ds ++ more) name count index := by
  unfold Deposit.partition
  rw [List.filterMap_append, List.mapIdx_append]
  exact List.prefix_append _ _

/-- A partition holds the messages that have arrived in it, in this order. -/
theorem partition_messages :
    (partition ds name count index).map Record.message =
      ds.filterMap (arrives? name count index) := by
  unfold Deposit.partition
  refine List.ext_getElem? fun i => ?_
  rw [List.getElem?_map, List.getElem?_mapIdx, Option.map_map]
  exact Option.map_id_apply

/-- The partitions of a topic that is not there have no records. -/
theorem partition_absent (absent : partitionCount? ds name = none) :
    partition ds name count index = [] := by
  induction ds using List.reverseRecOn with
  | nil => rfl
  | append_singleton ds d ih =>
      rw [partitionCount?_snoc, Option.or_eq_none_iff] at absent
      rw [partition_snoc, ih absent.1, arrives?_none absent.2]
      rfl

/-- A deposit leaves the partitions of other topics as they are. -/
theorem partitions?_other (apart : partitionCount? [d] name = none) :
    partitions? (ds ++ [d]) name = partitions? ds name := by
  unfold Deposit.partitions?
  rw [partitionCount?_snoc, apart, Option.or_none]
  congr 1
  funext count
  congr 1
  funext index
  rw [partition_snoc, arrives?_none apart, Option.map_none, Option.toList_none, List.append_nil]

/-- The message under a key that a deposit sends to a topic. -/
def keyed? (topic : String) (key : Option Bytes) : Deposit → Option Message
  | message m => if m.topic = topic ∧ m.key = key then some m else none
  | _ => none

/-- All messages under one key arrive in one partition. -/
theorem keyed?_arrives {key : Option Bytes} {m : Message} (sent : keyed? name key d = some m) :
    arrives? name count ((Message.mk name key [] []).partition count) d = some m := by
  cases d with
  | message sent_ =>
      rw [keyed?, Option.ite_none_right_eq_some] at sent
      obtain ⟨⟨here, under⟩, same⟩ := sent
      subst under
      exact (if_pos ⟨here, rfl⟩).trans same
  | _ => cases sent

/-- A deposit that is a message under the key arrives where all of them do; the order stays. -/
theorem keyed?_sublist (key : Option Bytes) : (ds.filterMap (keyed? name key)).Sublist
    (ds.filterMap (arrives? name count ((Message.mk name key [] []).partition count))) := by
  induction ds with
  | nil => exact .slnil
  | cons d rest ih =>
      cases sent : keyed? name key d with
      | some m =>
          rw [List.filterMap_cons_some sent, List.filterMap_cons_some (keyed?_arrives sent)]
          exact ih.cons_cons m
      | none =>
          rw [List.filterMap_cons_none sent]
          exact ih.trans ((List.sublist_cons_self d rest).filterMap _)

/-- Commits are gathered deposit by deposit. -/
theorem commits_append (first second : List Deposit) :
    commits (first ++ second) = commits first ++ commits second := List.filterMap_append

theorem commits_plain (ds : List Deposit) (plain : d.commit? = none) :
    commits (ds ++ [d]) = commits ds := by
  have nothing : commits [d] = [] := List.filterMap_cons_none plain
  rw [commits_append, nothing, List.append_nil]

end Deposit

namespace Log

open Deposit

/-- Whether the readers of a log see just what was deposited. -/
structure Shows (l : Log) (ds : List Deposit) : Prop where
  topics : ∀ name, l.topics.get? name = partitions? ds name
  committed : ∀ group tp, l.committed? group tp = Deposit.committed? ds group tp
  commitLog : l.commitLog = commits ds

variable {l : Log} {ds : List Deposit}

/-- The empty log shows that nothing was deposited. -/
theorem shows_empty : Log.empty.Shows [] := ⟨fun _ => rfl, fun _ _ => rfl, rfl⟩

/-- Logs that agree show the same deposits. -/
theorem Shows.of_agrees {a : Log} (shows_ : l.Shows ds) (same : a.Agrees l) : a.Shows ds := by
  refine ⟨fun name => ?_, fun group tp => ?_, same.commitLog.trans shows_.commitLog⟩
  · rw [same.topics]
    exact shows_.topics name
  · unfold Log.committed?
    rw [same.committed]
    exact shows_.committed group tp

/-- What a topic would be for the next message. -/
theorem Shows.partitions (shows_ : l.Shows ds) (name : String) :
    l.partitions name =
      (List.range ((partitionCount? ds name).getD 1)).map
        (partition ds name ((partitionCount? ds name).getD 1)) := by
  unfold Log.partitions
  rw [shows_.topics, Deposit.partitions?]
  cases absent : partitionCount? ds name with
  | none =>
      rw [Option.map_none, Option.getD_none, Option.getD_none, List.range_one, List.map_singleton,
        partition_absent absent]
  | some count => rw [Option.map_some, Option.getD_some, Option.getD_some]

/-- A deposit that arrives in one partition adds its message there. -/
theorem partitions_modify {name : String} {count index : Nat} {d : Deposit} {m : Message}
    (arrives : ∀ i, arrives? name count i d = if index = i then some m else none) :
    (((List.range count).map (partition ds name count)).modify index fun log => log ++
        [place m index (((List.range count).map (partition ds name count)).getD index []).length]) =
      (List.range count).map (partition (ds ++ [d]) name count) := by
  refine List.ext_getElem? fun i => ?_
  rw [List.getElem?_modify, List.getElem?_map, List.getElem?_map]
  by_cases inside : i < count
  · rw [List.getElem?_range inside, Option.map_some, Option.map_some, Option.map_eq_map,
      Option.map_some, partition_snoc, arrives]
    by_cases here : index = i
    · subst here
      rw [if_pos rfl, if_pos rfl, List.getD_eq_getElem?_getD, List.getElem?_map,
        List.getElem?_range inside]
      rfl
    · rw [if_neg here, if_neg here, Option.map_none, Option.toList_none, List.append_nil]
  · rw [List.getElem?_eq_none (by rw [List.length_range]; exact Nat.le_of_not_lt inside)]
    rfl

/-- A deposit that puts a message into one partition of its topic. -/
theorem Shows.appendTo (shows_ : l.Shows ds) {d : Deposit} {m : Message} {partition : Int}
    (opened : partitionCount? [d] m.topic = some 1)
    (apart : ∀ name, m.topic ≠ name → partitionCount? [d] name = none)
    (arrives : ∀ index, arrives? m.topic ((partitionCount? ds m.topic).getD 1) index d =
      if min partition.toNat ((partitionCount? ds m.topic).getD 1 - 1) = index
        then some m else none)
    (plain : d.commit? = none) : (l.appendTo m partition).2.Shows (ds ++ [d]) := by
  have commits := commits_plain ds plain
  refine ⟨fun name => ?_, fun group tp => ?_, shows_.commitLog.trans commits.symm⟩
  · simp only [Log.appendTo, Table.get?_put]
    split
    · next here =>
      subst here
      rw [shows_.partitions, List.length_map, List.length_range, Deposit.partitions?,
        partitionCount?_snoc, opened]
      have total : ∀ known : Option Nat, known.or (some 1) = some (known.getD 1) := by
        intro known
        cases known <;> rfl
      rw [total, Option.map_some, Option.some.injEq]
      exact partitions_modify arrives
    · next elsewhere =>
      rw [partitions?_other (apart name elsewhere)]
      exact shows_.topics name
  · unfold Deposit.committed?
    rw [commits]
    exact shows_.committed group tp

/-- The messages under one key are in one partition, in the order in which they came. -/
theorem Shows.keyed (shows_ : l.Shows ds) (topic : String) (key : Option Bytes) :
    ∃ index : Nat, (ds.filterMap (keyed? topic key)).Sublist
      (((l.partition? ⟨topic, index⟩).getD []).map Record.message) := by
  let index := fun count => (Message.mk topic key [] []).partition count
  have arrives : ∀ count, (ds.filterMap (keyed? topic key)).Sublist
      ((partition ds topic count (index count)).map Record.message) := by
    intro count
    rw [partition_messages]
    exact keyed?_sublist key
  cases known : partitionCount? ds topic with
  | none =>
      have nothing := arrives 0
      rw [partition_absent known] at nothing
      exact ⟨0, (List.sublist_nil.mp nothing) ▸ List.nil_sublist _⟩
  | some count =>
      have inside : index count < count := Message.partition_lt _ (partitionCount?_pos known)
      refine ⟨index count, ?_⟩
      have there : l.partition? ⟨topic, index count⟩ =
          some (partition ds topic count (index count)) := by
        unfold Log.partition?
        rw [shows_.topics topic, Deposit.partitions?, known, Option.map_some]
        dsimp only
        rw [if_neg (Int.not_lt.mpr (Int.natCast_nonneg _)), Int.toNat_natCast,
          List.getElem?_map, List.getElem?_range inside, Option.map_some]
      rw [there]
      exact arrives count

/-- Whether one log has the topics of another, with as many partitions, and each partition begins
with what it held. -/
def Grown (after before : Log) : Prop :=
  ∀ topic logs, before.topics.get? topic = some logs →
    ∃ more, after.topics.get? topic = some more ∧ List.Forall₂ (· <+: ·) logs more

/-- What a partition held is where what it holds begins. -/
theorem Grown.partitions {after : Log} (grown : after.Grown l) {topic : String}
    {logs : List (List Record)} (known : l.topics.get? topic = some logs) :
    ∃ more, after.topics.get? topic = some more ∧ more.length = logs.length ∧
      ∀ (index : Nat) log, logs[index]? = some log →
        ∃ added, more[index]? = some (log ++ added) := by
  obtain ⟨more, still, prefixes⟩ := grown topic logs known
  refine ⟨more, still, prefixes.length_eq.symm, fun index log present => ?_⟩
  obtain ⟨inside, same⟩ := List.getElem?_eq_some_iff.mp present
  have there : index < more.length := prefixes.length_eq ▸ inside
  obtain ⟨added, whole⟩ := prefixes.get inside there
  refine ⟨added, ?_⟩
  rw [List.getElem?_eq_getElem there, ← same]
  exact congrArg some whole.symm

/-- A log that has grown still has every record in its place. -/
theorem Grown.extends {after : Log} (grown : after.Grown l) : after.Extends l := by
  intro tp offset r found
  obtain ⟨natural, later, logs, log, known, present, entry⟩ := record?_eq_some.mp found
  obtain ⟨more, still, _, begins⟩ := grown.partitions known
  obtain ⟨added, there⟩ := begins _ log present
  apply record?_eq_some.mpr
  refine ⟨natural, later, more, log ++ added, still, there, ?_⟩
  rw [List.getElem?_append_left (List.getElem?_eq_some_iff.mp entry).1]
  exact entry

/-- In a log that shows its deposits, records lie where they say. -/
theorem Shows.wellFormed (shows_ : l.Shows ds) : l.WellFormed := by
  constructor
  · intro topic logs found empty
    rw [shows_.topics, Deposit.partitions?, Option.map_eq_some_iff] at found
    obtain ⟨count, there, same⟩ := found
    rw [empty, List.map_eq_nil_iff, List.range_eq_nil] at same
    exact absurd (partitionCount?_pos there) (same ▸ Nat.lt_irrefl 0)
  · intro topic logs found index log present offset r entry
    rw [shows_.topics, Deposit.partitions?, Option.map_eq_some_iff] at found
    obtain ⟨count, _, rfl⟩ := found
    rw [List.getElem?_map, Option.map_eq_some_iff] at present
    obtain ⟨other, named, rfl⟩ := present
    obtain ⟨inside, same⟩ := List.getElem?_eq_some_iff.mp named
    rw [List.getElem_range] at same
    subst same
    rw [Deposit.partition, List.getElem?_mapIdx, Option.map_eq_some_iff] at entry
    obtain ⟨m, arrived, rfl⟩ := entry
    obtain ⟨d, _, arrives⟩ := List.mem_filterMap.mp (List.mem_of_getElem? arrived)
    exact ⟨congrArg (TopicPartition.mk · _) (topic_of_arrives? arrives), rfl⟩

/-- What is deposited later leaves the topics, their partitions and all records as they are. -/
theorem Shows.grown {after : Log} {more : List Deposit} (shows_ : l.Shows ds)
    (later : after.Shows (ds ++ more)) : after.Grown l := by
  intro topic logs found
  rw [shows_.topics, Deposit.partitions?, Option.map_eq_some_iff] at found
  obtain ⟨count, there, rfl⟩ := found
  refine ⟨(List.range count).map (partition (ds ++ more) topic count), ?_, ?_⟩
  · have still : partitionCount? (ds ++ more) topic = some count := by
      unfold Deposit.partitionCount? at there ⊢
      rw [List.filterMap_append, List.lookup_append, there, Option.some_or]
    rw [later.topics, Deposit.partitions?, still, Option.map_some]
  · rw [List.forall₂_map_left_iff, List.forall₂_map_right_iff, List.forall₂_same]
    intro index _
    exact partition_append more

/-- The last commit for a group and a partition is what the group has committed there. -/
theorem Shows.committed_eq (shows_ : l.Shows ds) (group : String) (tp : TopicPartition) :
    l.committed? group tp = OffsetCommit.latest? group tp l.commitLog := by
  rw [shows_.committed, shows_.commitLog]
  rfl

/-- A message opens its own topic with one partition, and no other topic. -/
theorem opened_message {m : Message} (d : Deposit) (opens : d.opens? = some (m.topic, 1)) :
    partitionCount? [d] m.topic = some 1 ∧
      ∀ name, m.topic ≠ name → partitionCount? [d] name = none := by
  unfold Deposit.partitionCount?
  rw [List.filterMap_cons_some opens, List.filterMap_nil]
  refine ⟨List.lookup_cons_self, fun name other => ?_⟩
  rw [List.lookup_cons, beq_false_of_ne other.symm, List.lookup_nil]

/-- A message is deposited in the partition of its key. -/
theorem Shows.append (shows_ : l.Shows ds) (m : Message) :
    (l.append m).Shows (ds ++ [.message m]) := by
  obtain ⟨opened, apart⟩ := opened_message (.message m) rfl
  refine shows_.appendTo opened apart (fun index => ?_) rfl
  have count : (l.partitions m.topic).length = (partitionCount? ds m.topic).getD 1 := by
    rw [shows_.partitions, List.length_map, List.length_range]
  have positive : 0 < (partitionCount? ds m.topic).getD 1 := by
    cases known : partitionCount? ds m.topic with
    | none => exact Nat.one_pos
    | some count => exact partitionCount?_pos known
  have inside := m.partition_lt positive
  rw [count, Int.toNat_natCast, Nat.min_eq_left (Nat.le_sub_one_of_lt inside)]
  simp only [Deposit.arrives?, true_and]

/-- A record is deposited in the partition that is named with it. -/
theorem Shows.publish (shows_ : l.Shows ds) (m : Message) (partition : Int) :
    (l.publish m partition).2.Shows (ds ++ [.record m partition]) := by
  obtain ⟨opened, apart⟩ := opened_message (.record m partition) rfl
  refine Shows.of_agrees (shows_.appendTo opened apart (fun index => ?_) rfl) (ring_agrees _)
  simp only [Deposit.arrives?, true_and]

/-- A topic that is created is one more deposit. -/
theorem Shows.createTopic (shows_ : l.Shows ds) (name : String) (count : Nat) :
    (l.createTopic name count).Shows (ds ++ [.topic name count]) := by
  have commits : commits (ds ++ [.topic name count]) = commits ds := commits_plain ds rfl
  refine ⟨fun other => ?_, fun group tp => ?_, ?_⟩
  · have opened : partitionCount? [.topic name count] name = some (max count 1) :=
      List.lookup_cons_self
    by_cases here : name = other
    · subst here
      unfold Log.createTopic Table.contains
      rw [shows_.topics name, Deposit.partitions?, Deposit.partitions?, partitionCount?_snoc,
        opened]
      have still : ∀ size, (List.range size).map
          (Deposit.partition (ds ++ [.topic name count]) name size) =
            (List.range size).map (Deposit.partition ds name size) := by
        intro size
        refine List.map_congr_left fun index _ => ?_
        rw [partition_snoc]
        exact List.append_nil _
      cases known : partitionCount? ds name with
      | some size =>
          rw [Option.map_some, Option.isSome_some, if_pos rfl, Option.some_or, Option.map_some,
            still, shows_.topics name, Deposit.partitions?, known, Option.map_some]
      | none =>
          rw [Option.map_none, Option.isSome_none, if_neg (by decide), Option.none_or,
            Option.map_some, still]
          refine (Table.get?_put ..).trans ((if_pos rfl).trans (congrArg some ?_))
          symm
          refine List.eq_replicate_iff.mpr ⟨?_, fun log among => ?_⟩
          · rw [List.length_map, List.length_range]
          · obtain ⟨index, _, rfl⟩ := List.mem_map.mp among
            exact partition_absent known
    · have apart : partitionCount? [.topic name count] other = none := by
        change [(name, max count 1)].lookup other = none
        rw [List.lookup_cons, beq_false_of_ne (Ne.symm here), List.lookup_nil]
      rw [partitions?_other apart, ← shows_.topics other]
      unfold Log.createTopic
      split
      · rfl
      · exact (Table.get?_put ..).trans (if_neg here)
  · unfold Deposit.committed? Log.committed?
    rw [commits, createTopic_committed]
    exact shows_.committed group tp
  · rw [commits, createTopic_commitLog]
    exact shows_.commitLog

/-- An offset that is committed is one more deposit. -/
theorem Shows.commitOffset (shows_ : l.Shows ds) (c : OffsetCommit) :
    (l.commitOffset c).Shows (ds ++ [.offset c]) := by
  have commits : commits (ds ++ [.offset c]) = commits ds ++ [c] := commits_append ds [.offset c]
  refine ⟨fun name => ?_, fun group tp => ?_, ?_⟩
  · rw [partitions?_other rfl]
    exact shows_.topics name
  · unfold Deposit.committed?
    rw [commits, List.filter_append, List.map_append]
    unfold Log.committed? Log.commitOffset
    simp only [Table.get?_put, Prod.mk.injEq]
    by_cases here : c.consumerGroup = group ∧ c.topicPartition = tp
    · simp only [List.filter_cons, here, and_self, decide_true, ↓reduceIte, List.filter_nil,
        List.map_cons, List.map_nil, List.getLast?_concat]
    · rw [if_neg here, List.filter_cons_of_neg (by simpa using here), List.filter_nil,
        List.map_nil, List.append_nil]
      exact shows_.committed group tp
  · rw [commits, ← shows_.commitLog]
    rfl

/-- A transaction deposits its messages and then its offsets. -/
theorem Shows.applyTransaction (shows_ : l.Shows ds) (messages : List Message)
    (offsets : List OffsetCommit) :
    (l.applyTransaction messages offsets).Shows
      (ds ++ (messages.map .message ++ offsets.map .offset)) := by
  have appended : (messages.foldl Log.append l).Shows (ds ++ messages.map .message) := by
    induction messages generalizing l ds with
    | nil =>
        rw [List.map_nil, List.append_nil]
        exact shows_
    | cons m rest ih =>
        rw [List.map_cons, List.append_cons]
        exact ih (shows_.append m)
  unfold Log.applyTransaction
  rw [← List.append_assoc]
  generalize messages.foldl Log.append l = log at appended
  generalize ds ++ messages.map .message = known at appended
  induction offsets generalizing log known with
  | nil =>
      rw [List.map_nil, List.append_nil]
      exact appended
  | cons c rest ih =>
      rw [List.map_cons, List.append_cons]
      exact ih _ _ (appended.commitOffset c)

end Log

end AlertRelay
