import RackOperator.Json.Writer
import RackOperator.Rehearsal.Basic
import RackOperator.Rehearsal.Input
import RackOperator.Report

/-!
# Rehearsal scripts

A script is a list of steps in JSON; the field `do` names a step. `Step.ofJson?`
reads one, `Step.run?` carries it out, and `reportOf` says what it came to: its
result, and the changes, calls, audit events and time it left behind.
-/

namespace RackOperator.Rehearsal

open Json

/-- The object a reconciliation is about: a stored one, or one that is given. -/
inductive Subject where
  | storedDataCenter (key : ClusterKey)
  | storedTask (key : NamespacedName)
  | given (t : Target)
  | unreadable

/-- One step of a script. -/
inductive Step where
  | seedDataCenter (dc : DataCenter)
  | seedStatefulSet (sts : StatefulSet)
  | seedTask (t : CassandraTask)
  | fixtureDataCenter (name : String) (replicas racks : Int32)
  | fixtureTask (name datacenter : String) (spec : TaskSpec)
  | seedRack (key : ClusterKey) (seed : Seed)
  | rollOut (key : ClusterKey) (rack : Rack)
  | setStatus (key : NamespacedName) (status : Option StatefulSetStatus)
  | status (key : MemberKey) (status : NodeStatus) (inCache inSidecar : Bool)
  | fail (f : Sidecar.Failure)
  | backupStatus (pod status : String)
  | completeDecommission
  | latency (ms : Nat)
  | breakClient (pod : String)
  | mendClient (pod : String)
  | refuseStatusWrites (count : Nat)
  | planStore (call : String) (plan : StorePlan)
  | reconcile (s : Subject)
  | reconcileAll (ss : List Subject)
  | poll (p : Poll.Poller)
  | pollFor (p : Poll.Poller) (span : Nat)
  | forward (keys : List ClusterKey)
  | register (key : ClusterKey) (members : List Member)
  | unregister (key : ClusterKey)
  | registered (key : ClusterKey)
  | ask (call : StoreCall)
  | dataCenter (key : ClusterKey)
  | statefulSet (key : NamespacedName)
  | task (key : NamespacedName)
  | tasks
  | cached (key : MemberKey)
  | cacheSize
  | podsCalled (operation : String)
  | mostUnderWay
  | activeKeys
  | wait (ms : Nat)
  /-- A step whose object cannot be read. -/
  | unreadable

/-- What a reconciling step is about. -/
def Subject.ofJson (j : Json) : Subject :=
  let ns := j.strOr "namespace" "default"
  match j.strOf "do", j.field? "object" with
  | "reconcile", some o =>
    match DataCenter.decode? o with
    | some dc => .given (.dataCenter dc)
    | none => .unreadable
  | "reconcile", none => .storedDataCenter ⟨ns, j.strOr "dc" "dc1"⟩
  | _, some o =>
    match CassandraTask.decode? o with
    | some t => .given (.task t)
    | none => .unreadable
  | _, none => .storedTask ⟨ns, j.strOr "task" "t1"⟩

namespace Step

/-- What a rack is seeded with. -/
def seedOfJson? (j : Json) : Option Seed :=
  (Rack.ofJson? (j.get "rack")).map fun rack =>
    { rack, replicas := Int32.ofInt (j.intOf "replicas")
      ready := (j.intOf? "ready").map Int32.ofInt
      recorded := j.intOf? "recorded"
      members := match j.strOr "members" "NORMAL" with
        | "unobserved" => none
        | s => some (.named s) }

/-- A step that needs an object which can be read. -/
def readable {α : Type} (a : Option α) (step : α → Step) : Option Step :=
  some ((a.map step).getD .unreadable)

/-- The channel a poller is given: none, one whose receiver is gone, or one that is listened to. -/
def channelOf : String → Option Poll.Channel
  | "yes" => some {}
  | "dropped" => some { hasReceiver := false }
  | _ => none

/-- A step. There is none where a rack's number does not fit, or of an unknown name. -/
def ofJson? (j : Json) : Option Step :=
  let ns := j.strOr "namespace" "default"
  let dc : ClusterKey := ⟨ns, j.strOr "dc" "dc1"⟩
  let entry : ClusterKey := ⟨ns, j.strOr "name" "dc1"⟩
  let pod := j.strOf "pod"
  match j.strOf "do" with
  | "put_dc" => readable (DataCenter.decode? (j.get "object")) seedDataCenter
  | "put_sts" => readable (StatefulSet.decode? (j.get "object")) seedStatefulSet
  | "put_task" => readable (CassandraTask.decode? (j.get "object")) seedTask
  | "fixture_dc" => some (fixtureDataCenter dc.name (Int32.ofInt (j.intOf "replicas"))
      (Int32.ofInt (j.intOf "racks")))
  | "fixture_task" =>
    readable (TaskSpec.decode? (j.get "spec")) (fixtureTask (j.strOr "task" "t1") dc.name)
  | "seed_rack" => (seedOfJson? j).map (seedRack dc)
  | "roll_out" => (Rack.ofJson? (j.get "rack")).map (rollOut dc)
  | "set_sts_status" =>
    readable (nullable StatefulSetStatus.decode? (j.get "status")) (setStatus ⟨ns, j.strOf "name"⟩)
  | "status" =>
    let target := j.strOr "target" "both"
    some (status ⟨ns, pod⟩ (.named (j.strOf "status")) (target ≠ "sidecar") (target ≠ "cache"))
  | "fail" => some (fail ⟨pod, j.strOf "operation", (j.intOf? "times").map Int.toNat⟩)
  | "backup_status" => some (backupStatus pod (j.strOf "status"))
  | "complete_decommission" => some completeDecommission
  | "latency" => some (latency (j.natOr "ms" 0))
  | "break_client" => some (breakClient pod)
  | "mend_client" => some (mendClient pod)
  | "fail_status_writes" => some (refuseStatusWrites (j.natOr "count" 0))
  | "fail_store" => some (planStore (j.strOf "call") ⟨j.natOr "skip" 0, j.natOr "times" 1⟩)
  | "reconcile" => some (reconcile (.ofJson j))
  | "advance" => some (reconcile (.ofJson j))
  | "concurrent" => some (reconcileAll ((j.listOf "runs").map .ofJson))
  | "poll" => some (poll {
      timeout := j.natOr "timeout_ms" 30000
      changes := channelOf (j.strOr "notify" "yes") })
  | "poll_run" => some (pollFor {
      interval := j.natOr "interval_ms" 10000
      timeout := j.natOr "timeout_ms" 30000
      changes := some {} } (j.natOr "for_ms" 0))
  | "forward" => some (forward ((j.listOf "keys").map .ofJson))
  | "register" => (Member.listOfJson? j).map (register entry)
  | "unregister" => some (unregister entry)
  | "registered" => some (registered entry)
  | "store" => readable (StoreCall.ofJson? j) ask
  | "get_dc" => some (dataCenter dc)
  | "get_sts" => some (statefulSet ⟨ns, j.strOf "name"⟩)
  | "get_task" => some (task ⟨ns, j.strOr "task" "t1"⟩)
  | "tasks" => some tasks
  | "cached" => some (cached ⟨ns, pod⟩)
  | "cache_len" => some cacheSize
  | "pods_called" => some (podsCalled (j.strOf "operation"))
  | "max_in_flight" => some mostUnderWay
  | "active_keys" => some activeKeys
  | "wait" => some (wait (j.natOr "ms" 0))
  | _ => none

end Step

/-- What a subject is, or an error report if it is nothing. -/
def Subject.target (w : World) : Subject → Except Json Target
  | storedDataCenter key =>
    match w.store.dataCenters.find? key with
    | some dc => .ok (.dataCenter dc)
    | none => .error Report.notStored
  | storedTask key =>
    match w.store.tasks.find? key with
    | some t => .ok (.task t)
    | none => .error Report.notStored
  | given t => .ok t
  | unreadable => .error Report.undecodable

/-- How a reconciliation ended; an error with the time of the next attempt. -/
def reportRun : Option (Except OperatorError Action) → Json
  | none => Report.panic
  | some (.ok a) => a.report
  | some (.error e) => .obj (e.fields ++ [("policy", Reconcile.errorPolicy.report)])

/-- Put reports where the targets are. -/
def fillIn : List (Except Json Target) → List Json → List Json
  | [], _ => []
  | .error e :: rest, reports => e :: fillIn rest reports
  | .ok _ :: rest, r :: reports => r :: fillIn rest reports
  | .ok _ :: rest, [] => Report.panic :: fillIn rest []

/-- Reconcile subjects, all looked up first. -/
def reconcileSubjects (c : Config) (ss : List Subject) (w : World) : List Json × World :=
  let targets := ss.map fun s => s.target w
  let (results, w) := Rehearsal.reconcile c (targets.filterMap fun t => t.toOption) w
  (fillIn targets (results.map reportRun), w)

/-- Change the sidecars. -/
def withSidecars (w : World) (f : Sidecar.Script → Sidecar.Script) : World :=
  { w with sidecars := f w.sidecars }

/-- Change the store. -/
def withStore (w : World) (f : MemoryStore → MemoryStore) : World := { w with store := f w.store }

/-- Keys whose members changed. -/
def reportKeys (keys : List ClusterKey) : Json := Report.texts (keys.map (·.text))

/-- The keys a poller has sent. -/
def sentBy (p : Poll.Poller) : List ClusterKey := (p.changes.map (·.sent)).getD []

namespace Step

/-- Carry out a step: its result, and the world after it. Polling without an interval crashes. -/
def run? (c : Config) (w : World) : Step → Option (Json × World)
  | seedDataCenter dc => some (.null, withStore w (·.seedDataCenter dc))
  | seedStatefulSet sts => some (.null, withStore w (·.seedStatefulSet sts))
  | seedTask t => some (.null, withStore w (·.seedTask t))
  | fixtureDataCenter name replicas racks =>
    some (Report.rackNames (Rack.all racks.toInt.toNat),
      withStore w (·.seedDataCenter (Fixture.dataCenter name replicas racks)))
  | fixtureTask name datacenter spec =>
    some (.null, withStore w (·.seedTask (Fixture.task name datacenter spec)))
  | seedRack key seed =>
    match Rehearsal.seedRack key seed w with
    | some (name, w) => some (.str name, w)
    | none => some (Report.notStored, w)
  | rollOut key rack =>
    match Rehearsal.rollOut key rack w with
    | some (n, w) => some (ofInt32 n, w)
    | none => some (Report.notStored, w)
  | setStatus key s =>
    match Rehearsal.setStatus key s w with
    | some w => some (.null, w)
    | none => some (Report.notStored, w)
  | status key s inCache inSidecar =>
    let previous := if inCache then Report.optional NodeStatus.report (w.cache.find? key) else .null
    let w := if inCache then observe key s w else w
    some (previous, if inSidecar then Rehearsal.report key.name s w else w)
  | fail f => some (.null, withSidecars w (·.fail f))
  | backupStatus pod s => some (.null, withSidecars w fun script =>
      { script with backupStatuses := script.backupStatuses.insert pod s })
  | completeDecommission => some (.null, withSidecars w fun script =>
      { script with decommissionCompletes := true })
  | latency ms => some (.null, withSidecars w fun script => { script with latency := ms })
  | breakClient pod =>
    if w.sidecars.unreachable.contains pod then some (.bool false, w)
    else some (.bool true, withSidecars w fun script =>
      { script with unreachable := pod :: script.unreachable })
  | mendClient pod =>
    some (.bool (w.sidecars.unreachable.contains pod), withSidecars w fun script =>
      { script with unreachable := script.unreachable.filter (· ≠ pod) })
  | refuseStatusWrites count => some (.null, withStore w fun store =>
      { store with refusedStatusWrites := count })
  | planStore call plan =>
    some (.null, { w with storePlans := w.storePlans.insert call plan })
  | reconcile s =>
    let (reports, w) := reconcileSubjects c [s] w
    some (reports.headD .null, w)
  | reconcileAll ss =>
    let (reports, w) := reconcileSubjects c ss w
    some (.arr reports, w)
  | poll p =>
    let r := Poll.once p w
    some (.obj [("changed", reportKeys r.changed), ("notified", reportKeys (sentBy r.poller))],
      r.world)
  | pollFor p span =>
    if p.interval = 0 then none
    else
      let (p, w) := Poll.runFor p span w
      some (.obj [("stopped", .bool true), ("notified", reportKeys (sentBy p))], w)
  | forward keys => some (.null, Rehearsal.forward c keys w)
  | register key members => some (.null, { w with registry := w.registry.insert key members })
  | unregister key => some (.null, { w with registry := w.registry.erase key })
  | registered key => some (Report.texts ((Registry.membersOf w.registry key).map (·.name)), w)
  | ask call =>
    let (answer, w) := w.askStore call
    some (Report.result call.reportValue answer, w)
  | dataCenter key =>
    some (Report.optional DataCenter.encode (w.store.dataCenters.find? key), w)
  | statefulSet key =>
    some (Report.optional StatefulSet.encode (w.store.statefulSets.find? key), w)
  | task key => some (Report.optional CassandraTask.encode (w.store.tasks.find? key), w)
  | tasks => some (.arr (w.store.tasks.values.map CassandraTask.encode), w)
  | cached key => some (Report.optional NodeStatus.report (w.cache.find? key), w)
  | cacheSize => some (nat w.cache.size, w)
  | podsCalled operation =>
    let calls := w.sidecars.calls.filter fun call => call.operation = operation
    some (Report.texts (calls.map (·.pod)), w)
  | mostUnderWay => some (nat w.sidecars.mostUnderWay, w)
  | activeKeys => some (nat (WorkQueue.State.new c.workerPoolSize).activeKeys, w)
  | wait ms => some (.null, { w with elapsed := w.elapsed + ms })
  | unreadable => some (Report.undecodable, w)

/-- Whether the step's calls come in no order of their own. -/
def polls : Step → Bool
  | poll .. => true
  | pollFor .. => true
  | _ => false

end Step

/-- Values in the order of their texts. -/
def byText (l : List Json) : List Json :=
  l.mergeSort fun a b => decide (asciiOnly a.sorted.compact ≤ asciiOnly b.sorted.compact)

/-- A list that is left out when it is empty. -/
def unlessEmpty (name : String) (l : List Json) : List (String × Json) :=
  if l.isEmpty then [] else [(name, .arr l)]

/-- A step's result and what it left behind. What comes in no order is sorted by its text: the calls
of a poll, and everything in a step marked `unordered`. -/
def reportOf (step : Step) (unordered : Bool) (before after : World) (result : Json) : Json :=
  let order (sorted : Bool) (l : List Json) := if sorted then byText l else l
  let journal := after.store.journal.drop before.store.journal.length
  let calls := after.sidecars.calls.drop before.sidecars.calls.length
  let invalidated := after.sidecars.invalidated.drop before.sidecars.invalidated.length
  let trail := after.trail.drop before.trail.length
  let elapsed := after.elapsed - before.elapsed
  .obj ([("result", result)]
    ++ unlessEmpty "mutations" (order unordered (journal.map Mutation.report))
    ++ (if journal.isEmpty then []
      else [("statefulset_writes", nat (journal.filter (·.isStatefulSetWrite)).length)])
    ++ unlessEmpty "calls" (order (step.polls || unordered) (calls.map Sidecar.Call.report))
    ++ unlessEmpty "invalidated" (order step.polls (invalidated.map .str))
    ++ unlessEmpty "audit" (order unordered (trail.map AuditEvent.report))
    ++ if elapsed = 0 then [] else [("elapsed_ms", nat elapsed)])

/-- Carry out a script and report each step. There is no report if the whole script crashes. -/
def runScript? (c : Config) (w : World) : List Json → Option (List Json)
  | [] => some []
  | j :: rest => do
    let step ← Step.ofJson? j
    let (result, after) ← step.run? c w
    let others ← runScript? c after rest
    return reportOf step (j.flagOf "unordered") w after result :: others

end RackOperator.Rehearsal
