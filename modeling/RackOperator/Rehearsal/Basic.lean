import RackOperator.Fixture
import RackOperator.Poll
import RackOperator.Reconcile
import RackOperator.WorkQueue.Schedule

/-!
# Rehearsing the controllers

What a rehearsal does to a `World` between reconciliations: it seeds racks, lets
StatefulSets roll out, sets node statuses, and reconciles resources through a
work queue, several at once if so asked.
-/

namespace RackOperator.Rehearsal

open WorkQueue (Job Schedule)

/-- Something to reconcile. -/
inductive Target where
  | dataCenter (dc : DataCenter)
  | task (t : CassandraTask)

/-- The work of reconciling a target. -/
def Target.job (config : Config) : Target → Program (Job Action)
  | dataCenter dc => Reconcile.dataCenter config dc
  | task t => Reconcile.task config t

/-- Reconcile targets in order on one work queue, and wait for all of it. -/
def reconcile (config : Config) (targets : List Target) (w : World) :
    List (Option (Except OperatorError Action)) × World :=
  let start : Schedule Action := { world := w, queue := .new config.workerPoolSize }
  let (results, s) := start.runJobs (targets.map (Target.job config))
  (results, s.world)

/-- How long status changes are waited for, in milliseconds. -/
def forwardSpan : Nat := 3600000

/-- The DataCenters that keys name, as far as the store gives them. -/
def load (w : World) : List ClusterKey → List DataCenter × World
  | [] => ([], w)
  | k :: rest =>
    let (answer, w) := w.askStore (.getDataCenter k.ns k.name)
    let (others, w) := load w rest
    match answer with
    | .ok (some dc) => (dc :: others, w)
    | _ => (others, w)

/-- Reconcile the DataCenters of keys that were told about status changes. -/
def forward (config : Config) (keys : List ClusterKey) (w : World) : World :=
  let (dcs, loaded) := load w keys
  let (_, after) := reconcile config (dcs.map .dataCenter) loaded
  { after with elapsed := max after.elapsed (w.elapsed + forwardSpan) }

/-- Note a member's status in the cache. -/
def observe (key : MemberKey) (s : NodeStatus) (w : World) : World :=
  { w with cache := w.cache.insert key s }

/-- Have a pod's sidecar report a status. -/
def report (pod : String) (s : NodeStatus) (w : World) : World :=
  { w with sidecars := { w.sidecars with statuses := w.sidecars.statuses.insert pod s } }

/-- What a rack is seeded with. -/
structure Seed where
  rack : Rack
  replicas : Int32
  /-- Replicas that are ready, if not all of them. -/
  ready : Option Int32 := none
  /-- The generation on record, if not the DataCenter's. -/
  recorded : Option Int := none
  /-- The status of its members, unless they were never observed. -/
  members : Option NodeStatus := some .normal

/-- The StatefulSet of a seeded rack. -/
def Seed.statefulSet (s : Seed) (dc : DataCenter) : StatefulSet :=
  let built := match s.ready with
    | none => Fixture.readyStatefulSet dc s.rack s.replicas
    | some ready => Fixture.convergingStatefulSet dc s.rack s.replicas ready
  match s.recorded with
  | none => built
  | some g => Fixture.atGeneration built g

/-- Seed a rack of a stored DataCenter. Gives the name of its last pod. -/
def seedRack (key : ClusterKey) (s : Seed) (w : World) : Option (String × World) :=
  (w.store.dataCenters.find? key).map fun dc =>
    let w := { w with store := w.store.seedStatefulSet (s.statefulSet dc) }
    let members := dc.naming.members s.rack s.replicas.toInt
    let w := match s.members with
      | none => w
      | some status => members.foldl (fun w m => report m.name status (observe m.key status w)) w
    (dc.naming.podName s.rack (s.replicas.toInt - 1), w)

/-- Give a stored StatefulSet a status. -/
def setStatus (key : NamespacedName) (status : Option StatefulSetStatus) (w : World) :
    Option World :=
  (w.store.statefulSets.find? key).map fun sts =>
    let store := { w.store with
      statefulSets := w.store.statefulSets.insert key { sts with status } }
    { w with store }

/-- Let a rack roll out; members never observed become NORMAL. Gives the replica count. -/
def rollOut (key : ClusterKey) (r : Rack) (w : World) : Option (Int32 × World) := do
  let dc ← w.store.dataCenters.find? key
  let name : NamespacedName := ⟨key.ns, dc.naming.statefulSetName r⟩
  let sts ← w.store.statefulSets.find? name
  let w ← setStatus name (some (Fixture.rolledOut sts.replicas32)) w
  let fresh := (dc.naming.members r sts.replicas).filter fun m => !w.cache.contains m.key
  return (sts.replicas32,
    fresh.foldl (fun w m => report m.name .normal (observe m.key .normal w)) w)

end RackOperator.Rehearsal
