import AlertRelay.Broker.Subscription

/-!
# How a log grows

The records of a log stay where they are, and each says where it lies (`Log.WellFormed`,
`Log.Extends`). Appending a message adds one record to one partition of its topic and nothing else
(`Log.mem_records_append`). What readers see of a log is its topics, its committed offsets and its
commits (`Log.Agrees`).
-/

namespace AlertRelay

namespace OffsetCommit

/-- The offset of the last of several commits for a group and a partition. -/
def latest? (group : String) (tp : TopicPartition) (commits : List OffsetCommit) : Option Int :=
  ((commits.filter fun c => c.consumerGroup = group ∧ c.topicPartition = tp).map
    OffsetCommit.offset).getLast?

/-- The first of some commits counts only if none of the others is for the same group and partition.
-/
theorem latest?_cons (group : String) (tp : TopicPartition) (c : OffsetCommit)
    (rest : List OffsetCommit) :
    latest? group tp (c :: rest) =
      if c.consumerGroup = group ∧ c.topicPartition = tp then
        (latest? group tp rest).or (some c.offset)
      else latest? group tp rest := by
  unfold OffsetCommit.latest?
  by_cases here : c.consumerGroup = group ∧ c.topicPartition = tp
  · rw [List.filter_cons_of_pos (by simpa using here), List.map_cons, List.getLast?_cons,
      if_pos here]
    cases ((rest.filter fun c => c.consumerGroup = group ∧ c.topicPartition = tp).map
      OffsetCommit.offset).getLast? <;> rfl
  · rw [List.filter_cons_of_neg (by simpa using here), if_neg here]

/-- Later commits count before earlier ones. -/
theorem latest?_append (group : String) (tp : TopicPartition) (first rest : List OffsetCommit) :
    latest? group tp (first ++ rest) = (latest? group tp rest).or (latest? group tp first) := by
  unfold OffsetCommit.latest?
  rw [List.filter_append, List.map_append, List.getLast?_append]

/-- There is no last commit just if there is none. -/
theorem latest?_eq_none {group : String} {tp : TopicPartition} {commits : List OffsetCommit} :
    latest? group tp commits = none ↔
      ∀ c ∈ commits, ¬ (c.consumerGroup = group ∧ c.topicPartition = tp) := by
  unfold OffsetCommit.latest?
  simp only [List.getLast?_eq_none_iff, List.map_eq_nil_iff, List.filter_eq_nil_iff,
    decide_eq_true_eq]

end OffsetCommit

namespace Log

/-- Two logs that show their readers the same; transactions and rings may have been counted
differently. -/
structure Agrees (a b : Log) : Prop where
  topics : a.topics = b.topics
  committed : a.committed = b.committed
  commitLog : a.commitLog = b.commitLog

/-- Every topic has a partition, and every record lies where it says. -/
structure WellFormed (l : Log) : Prop where
  inhabited : ∀ topic logs, l.topics.get? topic = some logs → logs ≠ []
  placed : ∀ topic logs, l.topics.get? topic = some logs → ∀ (index : Nat) log,
    logs[index]? = some log → ∀ (offset : Nat) r, log[offset]? = some r →
      r.topicPartition = ⟨topic, index⟩ ∧ r.offset = offset

/-- Every record of one log lies in the same place of another. -/
def Extends (after before : Log) : Prop :=
  ∀ tp offset r, before.record? tp offset = some r → after.record? tp offset = some r

/-- The offsets committed by a group for a partition, in the order of the commits. -/
def offsetsOf (l : Log) (group : String) (tp : TopicPartition) : List Int :=
  (l.commitLog.filter fun c => c.consumerGroup = group ∧ c.topicPartition = tp).map
    OffsetCommit.offset

namespace Agrees

variable {a b c : Log}

theorem refl (l : Log) : l.Agrees l := ⟨rfl, rfl, rfl⟩

theorem trans (first : a.Agrees b) (second : b.Agrees c) : a.Agrees c :=
  ⟨first.topics.trans second.topics, first.committed.trans second.committed,
    first.commitLog.trans second.commitLog⟩

/-- Logs that agree have the same partitions. -/
theorem partition? (same : a.Agrees b) (tp : TopicPartition) :
    a.partition? tp = b.partition? tp := by
  unfold Log.partition?
  rw [same.topics]

/-- Logs that agree have the same records at the same places. -/
theorem record? (same : a.Agrees b) (tp : TopicPartition) (offset : Int) :
    a.record? tp offset = b.record? tp offset := by
  unfold Log.record?
  rw [same.partition? tp]

/-- In logs that agree, a group starts from the same offset. -/
theorem startOffset (same : a.Agrees b) (group : String) (tp : TopicPartition) :
    Subscription.startOffset a group tp = Subscription.startOffset b group tp := by
  unfold Subscription.startOffset Log.committed?
  rw [same.committed]

/-- In logs that agree, a group has committed the same offsets. -/
theorem offsetsOf (same : a.Agrees b) (group : String) (tp : TopicPartition) :
    a.offsetsOf group tp = b.offsetsOf group tp := by
  unfold Log.offsetsOf
  rw [same.commitLog]

/-- Logs that agree have the same records in a topic. -/
theorem records (same : a.Agrees b) (topic : String) : a.records topic = b.records topic := by
  unfold Log.records
  rw [same.topics]

/-- What agrees with a log in which records lie where they say is such a log too. -/
theorem wellFormed (same : a.Agrees b) (sound : b.WellFormed) : a.WellFormed := by
  constructor
  · intro topic logs found
    exact sound.inhabited topic logs (same.topics ▸ found)
  · intro topic logs found
    exact sound.placed topic logs (same.topics ▸ found)

theorem append (same : a.Agrees b) (m : Message) : (a.append m).Agrees (b.append m) := by
  unfold Log.append Log.appendTo Log.partitions
  rw [same.topics]
  exact ⟨rfl, same.committed, same.commitLog⟩

theorem publish (same : a.Agrees b) (m : Message) (partition : Int) :
    (a.publish m partition).2.Agrees (b.publish m partition).2 := by
  unfold Log.publish Log.appendTo Log.partitions
  simp only [same.topics]
  exact ⟨rfl, same.committed, same.commitLog⟩

theorem createTopic (same : a.Agrees b) (topic : String) (count : Nat) :
    (a.createTopic topic count).Agrees (b.createTopic topic count) := by
  unfold Log.createTopic
  rw [same.topics]
  split
  · exact same
  · exact ⟨rfl, same.committed, same.commitLog⟩

theorem commitOffset (same : a.Agrees b) (c : OffsetCommit) :
    (a.commitOffset c).Agrees (b.commitOffset c) := by
  unfold Log.commitOffset
  rw [same.committed, same.commitLog]
  exact ⟨same.topics, rfl, rfl⟩

theorem applyTransaction (same : a.Agrees b) (messages : List Message)
    (offsets : List OffsetCommit) :
    (a.applyTransaction messages offsets).Agrees (b.applyTransaction messages offsets) :=
  List.foldl_rel (List.foldl_rel same fun m _ _ _ appended => Agrees.append appended m)
    fun c _ _ _ committed => Agrees.commitOffset committed c

end Agrees

/-- To ring the bell changes nothing that readers of the log see. -/
theorem ring_agrees (l : Log) : l.ring.Agrees l := ⟨rfl, rfl, rfl⟩

/-! ## Where records lie -/

theorem wellFormed_empty : Log.empty.WellFormed where
  inhabited _ _ found := by simp only [Log.empty, Table.get?_empty, reduceCtorEq] at found
  placed _ _ found := by simp only [Log.empty, Table.get?_empty, reduceCtorEq] at found

/-- Records are found through the partitions of their topic. -/
theorem record?_eq_some {l : Log} {tp : TopicPartition} {offset : Int} {r : Record} :
    l.record? tp offset = some r ↔ 0 ≤ tp.partition ∧ (0 ≤ offset ∧ offset < Record.lastOffset) ∧
      ∃ logs log, l.topics.get? tp.topic = some logs ∧ logs[tp.partition.toNat]? = some log ∧
        log[offset.toNat]? = some r := by
  constructor
  · intro found
    unfold Log.record? Log.partition? at found
    split at found
    · next log present =>
      split at present
      · next logs topic =>
        split at present
        · cases present
        · next natural =>
          split at found
          · next inside =>
            exact ⟨Int.not_lt.mp natural, inside, logs, log, topic, present, found⟩
          · cases found
      · cases present
    · cases found
  · rintro ⟨natural, inside, logs, log, topic, present, found⟩
    unfold Log.record? Log.partition?
    simp only [topic, Int.not_lt.mpr natural, ↓reduceIte, present, inside, and_self, found]

/-- The records of a topic are found through the partitions of that topic alone. -/
theorem record?_eq_of_topic {a b : Log} {tp : TopicPartition}
    (same : a.topics.get? tp.topic = b.topics.get? tp.topic) (offset : Int) :
    a.record? tp offset = b.record? tp offset := by
  unfold Log.record? Log.partition?
  rw [same]

/-- A record that is found lies in the partition and at the offset where it was looked for. -/
theorem WellFormed.record?_place {l : Log} (sound : l.WellFormed) {tp : TopicPartition}
    {offset : Int} {r : Record} (found : l.record? tp offset = some r) :
    r.topicPartition = tp ∧ r.offset = offset := by
  obtain ⟨natural, ⟨later, _⟩, logs, log, topic, present, entry⟩ := record?_eq_some.mp found
  have place := sound.placed _ logs topic _ log present _ r entry
  rw [Int.toNat_of_nonneg natural, Int.toNat_of_nonneg later] at place
  exact place

/-- A message always finds a partition to go to. -/
theorem WellFormed.partitions {l : Log} (sound : l.WellFormed) (topic : String) :
    l.partitions topic ≠ [] := by
  unfold Log.partitions
  cases found : l.topics.get? topic with
  | none => simp only [Option.getD_none, ne_eq, List.cons_ne_self, not_false_eq_true]
  | some logs => exact sound.inhabited topic logs found

/-- The place in the list of partitions that a message is appended to. -/
private theorem index_lt {l : Log} (sound : l.WellFormed) (m : Message) (partition : Int) :
    min partition.toNat ((l.partitions m.topic).length - 1) < (l.partitions m.topic).length := by
  have := List.length_pos_iff.mpr (sound.partitions m.topic)
  omega

/-- A record that is appended lies where it says. -/
theorem WellFormed.appendTo {l : Log} (sound : l.WellFormed) (m : Message) (partition : Int) :
    (l.appendTo m partition).2.WellFormed := by
  constructor
  · intro topic logs found
    simp only [Log.appendTo, Table.get?_put] at found
    split at found
    · cases found
      intro empty
      have := congrArg List.length empty
      simp only [List.length_modify, List.length_nil] at this
      exact sound.partitions m.topic (List.eq_nil_of_length_eq_zero this)
    · exact sound.inhabited topic logs found
  · intro topic logs found index log present offset r entry
    simp only [Log.appendTo, Table.get?_put] at found
    split at found
    · next same =>
      subst same
      cases found
      have old : ∀ before, (l.partitions m.topic)[index]? = some before → before[offset]? = some r →
          r.topicPartition = ⟨m.topic, index⟩ ∧ r.offset = offset := by
        intro before there member
        unfold Log.partitions at there
        cases known : l.topics.get? m.topic with
        | none =>
            rw [known, Option.getD_none] at there
            cases index with
            | zero => cases there; simp only [List.getElem?_nil, reduceCtorEq] at member
            | succ index => simp only [List.getElem?_cons_succ, List.getElem?_nil,
                reduceCtorEq] at there
        | some logs =>
            rw [known] at there
            exact sound.placed m.topic logs known index before there offset r member
      rw [List.getElem?_modify] at present
      split at present
      · next here =>
        obtain ⟨before, there, rfl⟩ := Option.map_eq_some_iff.mp present
        rw [List.getElem?_append] at entry
        split at entry
        · exact old before there entry
        · next beyond =>
          have last : offset = before.length := by
            have := List.getElem?_eq_some_iff.mp entry
            obtain ⟨inside, _⟩ := this
            simp only [List.length_cons, List.length_nil] at inside
            omega
          rw [last, Nat.sub_self] at entry
          cases entry
          rw [here, List.getD_eq_getElem?_getD, there, Option.getD_some, last]
          exact ⟨rfl, rfl⟩
      · obtain ⟨before, there, rfl⟩ := Option.map_eq_some_iff.mp present
        exact old before there entry
    · exact sound.placed topic logs found index log present offset r entry

theorem WellFormed.append {l : Log} (sound : l.WellFormed) (m : Message) :
    (l.append m).WellFormed :=
  sound.appendTo m _

theorem WellFormed.publish {l : Log} (sound : l.WellFormed) (m : Message) (partition : Int) :
    (l.publish m partition).2.WellFormed :=
  (l.appendTo m partition).2.ring_agrees.wellFormed (sound.appendTo m partition)

theorem WellFormed.createTopic {l : Log} (sound : l.WellFormed) (topic : String) (count : Nat) :
    (l.createTopic topic count).WellFormed := by
  unfold Log.createTopic
  split
  · exact sound
  · constructor
    · intro name logs found
      simp only [Table.get?_put] at found
      split at found
      · cases found
        intro empty
        have := congrArg List.length empty
        simp only [List.length_replicate, List.length_nil] at this
        omega
      · exact sound.inhabited name logs found
    · intro name logs found index log present offset r entry
      simp only [Table.get?_put] at found
      split at found
      · cases found
        have blank := List.eq_of_mem_replicate (List.mem_of_getElem? present)
        rw [blank, List.getElem?_nil] at entry
        cases entry
      · exact sound.placed name logs found index log present offset r entry

theorem WellFormed.commitOffset {l : Log} (sound : l.WellFormed) (c : OffsetCommit) :
    (l.commitOffset c).WellFormed :=
  ⟨sound.inhabited, sound.placed⟩

theorem WellFormed.applyTransaction {l : Log} (sound : l.WellFormed) (messages : List Message)
    (offsets : List OffsetCommit) : (l.applyTransaction messages offsets).WellFormed :=
  List.foldlRecOn offsets Log.commitOffset
    (List.foldlRecOn messages Log.append sound fun _ appended m _ => appended.append m)
    fun _ committed c _ => committed.commitOffset c

/-! ## What stays -/

namespace Extends

variable {a b c : Log}

theorem refl (l : Log) : l.Extends l := fun _ _ _ found => found

theorem trans (later : a.Extends b) (earlier : b.Extends c) : a.Extends c :=
  fun tp offset r found => later tp offset r (earlier tp offset r found)

theorem of_agrees (same : a.Agrees b) : a.Extends b :=
  fun tp offset _ found => (same.record? tp offset).trans found

end Extends

/-- To append a record leaves all others in their places. -/
theorem extends_appendTo (l : Log) (m : Message) (partition : Int) :
    (l.appendTo m partition).2.Extends l := by
  intro tp offset _ found
  obtain ⟨natural, later, logs, log, topic, present, entry⟩ := record?_eq_some.mp found
  apply record?_eq_some.mpr
  refine ⟨natural, later, ?_⟩
  simp only [Log.appendTo, Table.get?_put]
  by_cases same : m.topic = tp.topic
  · have known : l.partitions m.topic = logs := by
      unfold Log.partitions
      rw [same, topic, Option.getD_some]
    rw [if_pos same, known]
    refine ⟨_, _, rfl, (List.getElem?_modify ..).trans (congrArg _ present), ?_⟩
    split
    · rw [List.getElem?_append_left (List.getElem?_eq_some_iff.mp entry).1]
      exact entry
    · exact entry
  · rw [if_neg same]
    exact ⟨logs, log, topic, present, entry⟩

theorem extends_append (l : Log) (m : Message) : (l.append m).Extends l :=
  l.extends_appendTo m _

theorem extends_publish (l : Log) (m : Message) (partition : Int) :
    (l.publish m partition).2.Extends l :=
  (Extends.of_agrees (ring_agrees _)).trans (l.extends_appendTo m partition)

/-- To create a topic leaves all records in their places. -/
theorem extends_createTopic (l : Log) (topic : String) (count : Nat) :
    (l.createTopic topic count).Extends l := by
  unfold Log.createTopic
  split
  · exact .refl l
  · next absent =>
    intro tp offset _ found
    obtain ⟨natural, later, logs, log, known, present, entry⟩ := record?_eq_some.mp found
    apply record?_eq_some.mpr
    refine ⟨natural, later, logs, log, ?_, present, entry⟩
    simp only [Table.get?_put]
    rw [if_neg]
    · exact known
    · rintro rfl
      exact absent (by rw [Table.contains, known, Option.isSome_some])

/-- To apply a transaction leaves all records in their places. -/
theorem extends_applyTransaction (l : Log) (messages : List Message)
    (offsets : List OffsetCommit) : (l.applyTransaction messages offsets).Extends l :=
  List.foldlRecOn offsets Log.commitOffset
    (List.foldlRecOn messages Log.append (.refl l)
      fun log extended m _ => (log.extends_append m).trans extended)
    fun _ extended _ _ => extended

/-! ## Commits -/

/-- To commit an offset changes no topic. -/
theorem commitOffset_topics (l : Log) (c : OffsetCommit) : (l.commitOffset c).topics = l.topics :=
  rfl

/-- The topics after a transaction are those after its messages. -/
theorem applyTransaction_topics (l : Log) (messages : List Message)
    (offsets : List OffsetCommit) :
    (l.applyTransaction messages offsets).topics = (messages.foldl Log.append l).topics :=
  List.foldlRecOn (motive := fun log => log.topics = (messages.foldl Log.append l).topics)
    offsets Log.commitOffset rfl fun log same c _ => (log.commitOffset_topics c).trans same

/-- A message changes no topic but its own. -/
theorem append_topics_other (l : Log) {m : Message} {topic : String} (apart : m.topic ≠ topic) :
    (l.append m).topics.get? topic = l.topics.get? topic := by
  unfold Log.append Log.appendTo
  rw [Table.get?_put, if_neg apart]

/-- A message changes no record of another topic. -/
theorem record?_append_other (l : Log) {m : Message} {tp : TopicPartition}
    (apart : m.topic ≠ tp.topic) (offset : Int) :
    (l.append m).record? tp offset = l.record? tp offset :=
  record?_eq_of_topic (l.append_topics_other apart) offset

/-- Messages for other topics leave the records of a topic as they are. -/
theorem record?_applyTransaction_other (l : Log) {messages : List Message}
    (offsets : List OffsetCommit) {tp : TopicPartition}
    (apart : ∀ m ∈ messages, m.topic ≠ tp.topic) (offset : Int) :
    (l.applyTransaction messages offsets).record? tp offset = l.record? tp offset := by
  refine record?_eq_of_topic ?_ offset
  rw [applyTransaction_topics]
  exact List.foldlRecOn
    (motive := fun log : Log => log.topics.get? tp.topic = l.topics.get? tp.topic)
    messages Log.append rfl fun log same m among =>
      (log.append_topics_other (apart m among)).trans same

/-- A message commits no offset. -/
theorem append_committed (l : Log) (m : Message) : (l.append m).committed = l.committed := rfl

/-- A message adds nothing to the log of commits. -/
theorem append_commitLog (l : Log) (m : Message) : (l.append m).commitLog = l.commitLog := rfl

@[simp] theorem createTopic_committed (l : Log) (topic : String) (count : Nat) :
    (l.createTopic topic count).committed = l.committed := by
  unfold Log.createTopic
  split <;> rfl

@[simp] theorem createTopic_commitLog (l : Log) (topic : String) (count : Nat) :
    (l.createTopic topic count).commitLog = l.commitLog := by
  unfold Log.createTopic
  split <;> rfl

/-- A topic that is created has no records yet. -/
theorem createTopic_records (l : Log) (topic : String) (count : Nat) (other : String) :
    (l.createTopic topic count).records other = l.records other := by
  unfold Log.createTopic Log.records
  split
  · rfl
  · next absent =>
    rw [Table.get?_put]
    split
    · next same =>
      subst same
      unfold Table.contains at absent
      rw [Option.not_isSome_iff_eq_none.mp absent]
      simp only [Option.getD_some, Option.getD_none, List.flatten_replicate_nil, List.flatten_nil]
    · rfl

/-- Messages leave the committed offsets as they are. -/
theorem foldl_append_committed (l : Log) (messages : List Message) :
    (messages.foldl Log.append l).committed = l.committed :=
  List.foldlRecOn (motive := fun log => log.committed = l.committed) messages Log.append rfl
    fun log same m _ => (log.append_committed m).trans same

theorem foldl_append_commitLog (l : Log) (messages : List Message) :
    (messages.foldl Log.append l).commitLog = l.commitLog :=
  List.foldlRecOn (motive := fun log => log.commitLog = l.commitLog) messages Log.append rfl
    fun log same m _ => (log.append_commitLog m).trans same

/-- A transaction adds its offsets to the log of commits. -/
theorem applyTransaction_commitLog (l : Log) (messages : List Message)
    (offsets : List OffsetCommit) :
    (l.applyTransaction messages offsets).commitLog = l.commitLog ++ offsets := by
  unfold Log.applyTransaction
  rw [← foldl_append_commitLog l messages]
  generalize messages.foldl Log.append l = log
  induction offsets generalizing log with
  | nil => exact (List.append_nil _).symm
  | cons c rest ih => rw [List.foldl_cons, ih, Log.commitOffset, List.append_assoc,
      List.singleton_append]

/-- A transaction without offsets leaves what is committed as it was. -/
theorem applyTransaction_nil_committed (l : Log) (messages : List Message) :
    (l.applyTransaction messages []).committed = l.committed :=
  foldl_append_committed l messages

/-- A transaction with one offset moves the group's place in that partition and no other. -/
theorem startOffset_applyTransaction (l : Log) (messages : List Message) (c : OffsetCommit)
    (group : String) (tp : TopicPartition) :
    Subscription.startOffset (l.applyTransaction messages [c]) group tp =
      if c.consumerGroup = group ∧ c.topicPartition = tp then c.offset
      else Subscription.startOffset l group tp := by
  unfold Subscription.startOffset Log.committed? Log.applyTransaction
  simp only [List.foldl_cons, List.foldl_nil, Log.commitOffset, Table.get?_put, Prod.mk.injEq,
    foldl_append_committed]
  split
  · rfl
  · rfl

/-- Of several commits, the last one for a group and a partition is what it has committed. -/
theorem committed?_foldl_commitOffset (l : Log) (offsets : List OffsetCommit) (group : String)
    (tp : TopicPartition) :
    (offsets.foldl Log.commitOffset l).committed? group tp =
      (OffsetCommit.latest? group tp offsets).or (l.committed? group tp) := by
  induction offsets generalizing l with
  | nil => rfl
  | cons c rest ih =>
      have now : (l.commitOffset c).committed? group tp =
          if c.consumerGroup = group ∧ c.topicPartition = tp then some c.offset
          else l.committed? group tp := by
        unfold Log.committed? Log.commitOffset
        rw [Table.get?_put]
        simp only [Prod.mk.injEq]
      rw [List.foldl_cons, ih, now, OffsetCommit.latest?_cons]
      split
      · rw [Option.or_assoc]
        rfl
      · rfl

/-- After a transaction, what is committed for a partition is its last offset for it, if it has one.
-/
theorem committed?_applyTransaction (l : Log) (messages : List Message)
    (offsets : List OffsetCommit) (group : String) (tp : TopicPartition) :
    (l.applyTransaction messages offsets).committed? group tp =
      (OffsetCommit.latest? group tp offsets).or (l.committed? group tp) := by
  unfold Log.applyTransaction
  rw [committed?_foldl_commitOffset]
  unfold Log.committed?
  rw [foldl_append_committed]

/-! ## Keys of a topic -/

/-- Whether a topic holds a message under a key. -/
def HasKey (l : Log) (topic : String) (key : Option Bytes) : Prop :=
  ∃ r ∈ l.records topic, r.key = key

/-- Logs that agree have records with the same keys. -/
theorem Agrees.hasKey {a b : Log} (same : a.Agrees b) (topic : String) (key : Option Bytes) :
    a.HasKey topic key ↔ b.HasKey topic key := by
  unfold Log.HasKey
  rw [same.records]

/-- A message that is appended is found under its key in its topic; all else is found as before. -/
theorem WellFormed.hasKey_append {l : Log} (sound : l.WellFormed) (m : Message) (topic : String)
    (key : Option Bytes) :
    (l.append m).HasKey topic key ↔ l.HasKey topic key ∨ m.topic = topic ∧ m.key = key := by
  unfold Log.HasKey Log.records Log.append Log.appendTo
  simp only [Table.get?_put]
  by_cases here : m.topic = topic
  · subst here
    have before : ((l.topics.get? m.topic).getD []).flatten = (l.partitions m.topic).flatten := by
      unfold Log.partitions
      cases l.topics.get? m.topic with
      | none => rfl
      | some logs => rfl
    have inside := index_lt sound m (m.partition (l.partitions m.topic).length)
    rw [before, if_pos rfl, Option.getD_some]
    generalize min (Int.toNat _) _ = index at inside ⊢
    rw [List.getD_eq_getElem?_getD, List.getElem?_eq_getElem inside, Option.getD_some,
      List.modify_eq_take_cons_drop inside]
    have split : (l.partitions m.topic).flatten = ((l.partitions m.topic).take index).flatten ++
        ((l.partitions m.topic)[index] ++ ((l.partitions m.topic).drop (index + 1)).flatten) := by
      conv => lhs; rw [← List.take_append_drop index (l.partitions m.topic),
        List.drop_eq_getElem_cons inside]
      rw [List.flatten_append, List.flatten_cons]
    rw [split]
    simp only [List.flatten_append, List.flatten_cons, List.mem_append, List.mem_singleton,
      true_and]
    constructor
    · rintro ⟨r, early | (old | rfl) | late, same⟩
      · exact .inl ⟨r, .inl early, same⟩
      · exact .inl ⟨r, .inr (.inl old), same⟩
      · exact .inr same
      · exact .inl ⟨r, .inr (.inr late), same⟩
    · rintro (⟨r, early | old | late, same⟩ | same)
      · exact ⟨r, .inl early, same⟩
      · exact ⟨r, .inr (.inl (.inl old)), same⟩
      · exact ⟨r, .inr (.inr late), same⟩
      · exact ⟨_, .inr (.inl (.inr rfl)), same⟩
  · simp only [here, ↓reduceIte, false_and, or_false]

/-- The messages of a transaction are found under their keys; all else is found as before. -/
theorem WellFormed.hasKey_applyTransaction {l : Log} (sound : l.WellFormed)
    (messages : List Message) (offsets : List OffsetCommit) (topic : String)
    (key : Option Bytes) :
    (l.applyTransaction messages offsets).HasKey topic key ↔
      l.HasKey topic key ∨ ∃ m ∈ messages, m.topic = topic ∧ m.key = key := by
  have same : (l.applyTransaction messages offsets).HasKey topic key ↔
      (messages.foldl Log.append l).HasKey topic key := by
    unfold Log.HasKey Log.records
    rw [applyTransaction_topics]
  rw [same]
  clear same
  induction messages generalizing l with
  | nil => simp only [List.foldl_nil, List.not_mem_nil, false_and, exists_false, or_false]
  | cons m rest ih =>
      rw [List.foldl_cons]
      refine (ih (sound.append m)).trans ?_
      rw [sound.hasKey_append m]
      simp only [List.mem_cons, exists_eq_or_imp, or_assoc]

/-! ## How many records a topic has -/

/-- To append to one of several lists makes them longer by one at most. -/
private theorem length_flatten_modify {α : Type} (logs : List (List α)) (index : Nat) (a : α) :
    (logs.modify index fun log => log ++ [a]).flatten.length ≤ logs.flatten.length + 1 := by
  induction logs generalizing index with
  | nil =>
      rw [List.modify_nil]
      exact Nat.le_succ _
  | cons log rest ih =>
      cases index with
      | zero =>
          simp only [List.modify_zero_cons, List.flatten_cons, List.length_append,
            List.length_singleton]
          omega
      | succ index =>
          have below := ih index
          simp only [List.modify_succ_cons, List.flatten_cons, List.length_append]
          omega

/-- A message that is appended is one more record of its topic at most. -/
theorem length_records_append (l : Log) (m : Message) (topic : String) :
    ((l.append m).records topic).length ≤
      (l.records topic).length + if m.topic = topic then 1 else 0 := by
  unfold Log.records Log.append Log.appendTo
  simp only [Table.get?_put]
  by_cases here : m.topic = topic
  · subst here
    have before : ((l.topics.get? m.topic).getD []).flatten = (l.partitions m.topic).flatten := by
      unfold Log.partitions
      cases l.topics.get? m.topic with
      | none => rfl
      | some logs => rfl
    rw [before, if_pos rfl, if_pos rfl, Option.getD_some]
    exact length_flatten_modify ..
  · simp only [here, ↓reduceIte, Nat.add_zero, Nat.le_refl]

/-- A transaction adds to a topic no more records than it has messages for it. -/
theorem length_records_applyTransaction (l : Log) (messages : List Message)
    (offsets : List OffsetCommit) (topic : String) :
    ((l.applyTransaction messages offsets).records topic).length ≤
      (l.records topic).length + messages.countP fun m => m.topic = topic := by
  unfold Log.records
  rw [applyTransaction_topics]
  change ((messages.foldl Log.append l).records topic).length ≤ (l.records topic).length + _
  induction messages generalizing l with
  | nil => exact Nat.le_refl _
  | cons m rest ih =>
      have first := l.length_records_append m topic
      have others := ih (l.append m)
      rw [List.foldl_cons, List.countP_cons]
      simp only [decide_eq_true_eq] at others ⊢
      omega

end Log

end AlertRelay
