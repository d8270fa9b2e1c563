import AlertRelay.Delivery.Run
import AlertRelay.Proofs.Broker.Positions
import AlertRelay.Proofs.Relay.Disturbance
import AlertRelay.Proofs.Relay.Unit
import AlertRelay.Relay.Site

/-!
# Deployments

A consumer at work among all that may happen around it (`Deployment`, `Happening`): its loop and its
workers move in any order, records are published, partitions are assigned anew, calls fail,
producers lose their identifiers, and the consumer is started again on the same log, with other
settings and clients if need be.

Beside the consumer, a deployment keeps what nobody in it reads: what each worker has seen of the
unit of work it is in, and a chronicle of all that has come into the log.
-/

namespace AlertRelay

/-- What has come into a log at once. -/
inductive Entry where
  /-- A worker has made something visible while it worked on a record. -/
  | posted (worker : Nat) (settings : RelaySettings) (record : Record)
      (transcript : List (Exchange Interface.relay)) (posting : Posting)
  /-- Somebody has published a record. -/
  | published (message : Message) (partition : Int)
  /-- A topic was created, unless it was there. -/
  | created (topic : String) (count : Nat)

namespace Entry

/-- The log once something has come into it. -/
def apply : Entry → Log → Log
  | posted _ _ _ _ p, l => p.post l
  | published m partition, l => (l.publish m partition).2
  | created topic count, l => l.createTopic topic count

/-- The log once several things have come into it, one after the other. -/
def replay (entries : List Entry) (l : Log) : Log := entries.foldl (fun l e => e.apply l) l

/-- The offsets that became committed. -/
def offsets : Entry → List OffsetCommit
  | posted _ _ _ _ p => p.offsets
  | _ => []

/-- The same entry leaves logs that agree in agreement. -/
theorem apply_agrees (e : Entry) {a b : Log} (same : a.Agrees b) :
    (e.apply a).Agrees (e.apply b) := by
  cases e with
  | posted worker s r transcript p => exact p.post_agrees same
  | published m partition => exact same.publish m partition
  | created topic count => exact same.createTopic topic count

/-- Whatever comes into a log, records lie where they say. -/
theorem apply_wellFormed (e : Entry) {l : Log} (sound : l.WellFormed) : (e.apply l).WellFormed := by
  cases e with
  | posted worker s r transcript p => exact p.post_wellFormed sound
  | published m partition => exact sound.publish m partition
  | created topic count => exact sound.createTopic topic count

/-- Whatever comes into a log, the records in it stay in their places. -/
theorem apply_extends (e : Entry) (l : Log) : (e.apply l).Extends l := by
  cases e with
  | posted worker s r transcript p => exact p.post_extends l
  | published m partition => exact l.extends_publish m partition
  | created topic count => exact l.extends_createTopic topic count

/-- An entry adds its offsets to the log of commits. -/
theorem apply_commitLog (e : Entry) (l : Log) :
    (e.apply l).commitLog = l.commitLog ++ e.offsets := by
  cases e with
  | posted worker s r transcript p => exact p.post_commitLog l
  | published m partition => exact (List.append_nil _).symm
  | created topic count =>
      exact (l.createTopic_commitLog topic count).trans (List.append_nil _).symm

/-- Entries in two portions come to the same as all of them at once. -/
theorem replay_append (first second : List Entry) (l : Log) :
    replay (first ++ second) l = replay second (replay first l) := List.foldl_append

/-- The same entries leave logs that agree in agreement. -/
theorem replay_agrees (entries : List Entry) {a b : Log} (same : a.Agrees b) :
    (replay entries a).Agrees (replay entries b) :=
  List.foldl_rel same fun e _ _ _ applied => e.apply_agrees applied

/-- However much comes into a log, records lie where they say. -/
theorem replay_wellFormed (entries : List Entry) {l : Log} (sound : l.WellFormed) :
    (replay entries l).WellFormed :=
  List.foldlRecOn entries _ sound fun _ applied e _ => e.apply_wellFormed applied

/-- However much comes into a log, the records in it stay in their places. -/
theorem replay_extends (entries : List Entry) (l : Log) : (replay entries l).Extends l :=
  List.foldlRecOn (motive := fun later => Log.Extends later l) entries _ (.refl l)
    fun _ extended e _ => (e.apply_extends _).trans extended

/-- Entries add their offsets to the log of commits, in their order. -/
theorem replay_commitLog (entries : List Entry) (l : Log) :
    (replay entries l).commitLog = l.commitLog ++ entries.flatMap offsets := by
  unfold Entry.replay
  induction entries generalizing l with
  | nil => exact (List.append_nil _).symm
  | cons e rest ih =>
      rw [List.foldl_cons, ih, e.apply_commitLog, List.flatMap_cons, List.append_assoc]

end Entry

/-- What happens to a deployment. -/
inductive Happening where
  /-- The consumer makes a move, or somebody begins its shutdown. -/
  | move (move : Move)
  | disturb (disturbance : Disturbance)
  | publish (message : Message) (partition : Int)
  | createTopic (topic : String) (count : Nat)
  /-- All partitions are taken away and assigned anew. -/
  | rebalance
  /-- The first half of a new assignment. -/
  | resetPositions
  /-- The second half of a new assignment. -/
  | bumpGeneration
  /-- The consumer is started again. It finds the log as it is; its ledger is blank. -/
  | restart (config : ConsumerConfig) (workers : Nat) (world : World)

/-- A consumer at work. -/
structure Deployment where
  config : ConsumerConfig
  run : ConsumerRun Interface.relay Site
  /-- How many new assignments have begun that do not count yet. -/
  halfway : Nat
  /-- What each worker has seen of the unit of work that it is in. -/
  units : Nat → UnitView
  /-- What has come into the log. -/
  chronicle : List Entry

namespace WorkerStage

/-- The call that a worker is about to make, and the record it works on. -/
def asks? : WorkerStage Interface.relay → Option (Record × RelayCall)
  | handling d (.call request _) => some (d.record, request)
  | settingAside d _ (.call request _) => some (d.record, request)
  | _ => none

/-- What a worker has seen of its unit once it has made a step, given what it had seen before. A
unit that it enters by the step begins with what its producers hold. -/
def viewAfter (id : Nat) (w : World) (v : UnitView) : WorkerStage Interface.relay → UnitView
  | handling _ (.call request _) | settingAside _ _ (.call request _) =>
    v.note request (World.reply id request w).1
  | handling _ (.pause _ _) | settingAside _ _ (.pause _ _) => v
  | _ => .enter (w.transaction? id .results) (w.transaction? id .alerts) true

/-- What becomes visible by the step of a worker. -/
def entries (id : Nat) (s : RelaySettings) (w : World) (v : UnitView)
    (stage : WorkerStage Interface.relay) : List Entry :=
  match stage.asks? with
  | some (r, request) =>
    ((request.posting? (w.transaction? id) (World.reply id request w).1).map
      (Entry.posted id s r v.transcript)).toList
  | none => []

end WorkerStage

/-- Whether the loop is between a poll and the question which assignment its record belongs to. -/
def LoopStage.isTagging : LoopStage → Bool
  | tagging _ => true
  | _ => false

namespace Deployment

/-- The site of the consumer. -/
def site (d : Deployment) : Site := d.run.shared.outside

/-- The log that the consumer reads and its workers write. -/
def log (d : Deployment) : Log := d.site.world.log

/-- The settings of relay work. -/
def settings (d : Deployment) : RelaySettings := .ofConsumer d.config

/-- The consumer that is at work. -/
def consumer (d : Deployment) : Consumer Interface.relay Site :=
  Site.consumer d.config d.run.workers.length

/-- A consumer that begins, with a number of workers. It finds the log of a world as it is. -/
def start (config : ConsumerConfig) (workers : Nat) (w : World) (chronicle : List Entry) :
    Deployment where
  config := config
  run := (Site.consumer config workers).start (Site.start config { w with ledger := .empty })
  halfway := 0
  units := fun _ => .enter none none true
  chronicle := chronicle ++ config.topics.map fun topic => .created topic 1

/-- Changes the site of a deployment. -/
def atSite (d : Deployment) (site : Site) : Deployment :=
  { d with run := { d.run with shared := { d.run.shared with outside := site } } }

/-- Lets something come into the log. -/
def enter (d : Deployment) (e : Entry) : Deployment :=
  { d.atSite { d.site with world := { d.site.world with log := e.apply d.log } } with
    chronicle := d.chronicle ++ [e] }

/-- A worker makes a step, unless it has to wait. -/
def stepWorker (d : Deployment) (id : Nat) : Deployment :=
  match d.run.workers[id]?, d.run.workerStep? d.consumer id with
  | some k, some run =>
    { d with
      run := run
      units := fun i =>
        if i = id then k.stage.viewAfter id d.site.world (d.units id) else d.units i
      chronicle := d.chronicle ++ k.stage.entries id d.settings d.site.world (d.units id) }
  | _, _ => d

/-- The consumer makes a move, if it is possible. -/
def move (d : Deployment) : Move → Deployment
  | .worker id => d.stepWorker id
  | m =>
    match d.run.step? d.consumer m with
    | some run => { d with run := run }
    | none => d

/-- What becomes of a deployment when something happens. -/
def step (d : Deployment) : Happening → Deployment
  | .move m => d.move m
  | .disturb x => d.atSite { d.site with world := x.apply d.site.world }
  | .publish m partition => d.enter (.published m partition)
  | .createTopic topic count => d.enter (.created topic count)
  | .rebalance =>
    let (subscription, log) := d.site.subscription.rebalance d.log
    d.atSite (d.site.put subscription log)
  | .resetPositions =>
    { d.atSite { d.site with subscription := d.site.subscription.resetPositions d.log } with
      halfway := d.halfway + 1 }
  | .bumpGeneration =>
    let (subscription, log) := d.site.subscription.bumpGeneration d.log
    { d.atSite (d.site.put subscription log) with halfway := d.halfway - 1 }
  | .restart config workers w => start config workers { w with log := d.log } d.chronicle

/-- What becomes of a deployment when several things happen, one after the other. -/
def after (d : Deployment) (happenings : List Happening) : Deployment :=
  happenings.foldl step d

/-- Whether something that happens keeps the order of assignments: a poll and the question which
assignment its record belongs to are one step, and this step does not fall into the middle of a new
assignment. -/
def keepsOrder (d : Deployment) : Happening → Bool
  | .move .loop => d.halfway == 0 || !d.run.loop.isPolling
  | .rebalance => !d.run.loop.isTagging
  | .bumpGeneration => decide (0 < d.halfway) && !d.run.loop.isTagging
  | _ => true

/-- Whether everything that happens, one after the other, keeps the order of assignments. -/
def Orderly : Deployment → List Happening → Prop
  | _, [] => True
  | d, happening :: rest => d.keepsOrder happening = true ∧ (d.step happening).Orderly rest

end Deployment

end AlertRelay
