import RackOperator.Config
import RackOperator.Program
import RackOperator.StatusRecord

/-!
# A pass over a DataCenter

A pass reads the DataCenter, sees to its Service, creates missing StatefulSets
and ends there if any were missing. Otherwise it plans the racks' counts,
registers the members, decides on one step, applies it, and stores the status
last. A pass that fails stores no status.
-/

namespace RackOperator.Pass

open Work

/-- The racks that have a StatefulSet, each with it, and those that have none. -/
structure Census where
  existing : List (Rack × StatefulSet) := []
  missing : List Rack := []

/-- Look for the StatefulSet of each rack. -/
def census (key : ClusterKey) (naming : Naming) : List Rack → Work Census
  | [] => return {}
  | r :: rest => do
    let found : Option StatefulSet ← store (.getStatefulSet key.ns (naming.statefulSetName r))
    let c ← census key naming rest
    match found with
    | some sts => return { c with existing := (r, sts) :: c.existing }
    | none => return { c with missing := r :: c.missing }

/-- Create the StatefulSets of racks that have none. -/
def createMissing (key : ClusterKey) (dc : DataCenter) (counts : List Int) :
    List Rack → Work Unit
  | [] => return ()
  | r :: rest => do
    let replicas := counts.getD r.index 0
    let _ ← store (.createStatefulSet key.ns (dc.statefulSet r (Int32.ofInt replicas)))
    createMissing key dc counts rest

/-- The groups of the racks, each wanted at its planned count. -/
def groups (dc : DataCenter) (existing : List (Rack × StatefulSet)) (planned : Layout.Counts) :
    List RackGroup :=
  existing.map fun p =>
    { rack := p.1, existing := p.2
      desired := dc.statefulSet p.1 (Int32.ofInt ((planned.find? p.1).getD 0)) }

/-- The members of all groups. -/
def members (naming : Naming) (gs : List RackGroup) : List Member :=
  gs.flatMap fun g => naming.members g.rack g.existingReplicas

/-- The group of a rack that was decided on. -/
def groupOf (key : ClusterKey) (o : Observation) (r : Rack) : Work RackGroup :=
  match o.group? r with
  | some g => return g
  | none =>
    throw (.inconsistentState key.name ("rack " ++ r.name ++ " missing from observed state"))

/-- Bring a rack to a replica count at the present spec. -/
def scale (key : ClusterKey) (o : Observation) (r : Rack) (replicas : Int) : Work Unit := do
  let g ← groupOf key o r
  let _ ← store (.replaceStatefulSet key.ns (g.desired.setReplicas (Int32.ofInt replicas)))
  audit key (.rackScaled r.name g.existingReplicas replicas)

/-- Ask a member to leave the ring, as often as the configuration allows. -/
def decommission (config : Config) (m : Member) : Program (Except OperatorError Unit) := do
  match ← Program.effect (.connect m) with
  | .error e => return .error e
  | .ok _ =>
    config.decommissionRetry.run (fun ms => Work.sleep ms)
      (Program.effect (.request m .decommission))

/-- Apply a decision, and say so in the status. -/
def apply (config : Config) (key : ClusterKey) (dc : DataCenter) (o : Observation)
    (status : DataCenterStatus) : Decision → Work DataCenterStatus
  | .inconsistent reason => do
    audit key (.inconsistent reason)
    return { status with lastErrorMessage := some reason }
  | .waitForRacks _ => return status
  | .waitForMembers _ => return status
  | .updateRack r => do
    let g ← groupOf key o r
    let _ ← store (.replaceStatefulSet key.ns g.desired)
    audit key (.rackUpdated r.name (dc.metadata.generation.map Int64.toInt))
    return status
  | .scaleUp r replicas => do
    scale key o r replicas
    return status
  | .decommission _ m => do
    match ← ofProgram (decommission config m) with
    | .ok _ =>
      audit key (.decommission m.name)
      return status
    | .error e =>
      audit key (.decommissionFailed m.name e.message)
      return { status with
        lastErrorMessage := some ("decommission of " ++ m.name ++ " failed: " ++ e.message) }
  | .scaleDown r replicas _ => do
    scale key o r replicas
    return status
  | .waitForDecommission .. => return status
  | .converged cleanup => do
    if cleanup then
      let task : CassandraTask ← store (.createTask key.ns dc.cleanupTask)
      audit key (.cleanupTriggered task.metadata.anyName)
    return { status with lastErrorMessage := none }

/-- When to look again after a decision. -/
def next (config : Config) : Decision → Action
  | .converged _ => .after config.requeueInterval
  | .inconsistent _ => .medium
  | _ => .short

/-- Plan, decide and apply when every rack has its StatefulSet. -/
def converge (config : Config) (key : ClusterKey) (dc : DataCenter)
    (existing : List (Rack × StatefulSet)) : Work Action := do
  let counts := SortedMap.ofList (existing.map fun p => (p.1, p.2.replicas))
  let planned ← orCrash (Layout.planned? counts dc.spec.replicas.toInt)
  let gs := groups dc existing planned
  let ms := members dc.naming gs
  register key ms
  let statuses ← snapshot ms
  let o := Observation.ofGroups dc.naming (dc.metadata.generation.map Int64.toInt) gs statuses
  let previous := dc.previousPhase
  let decision := Decision.decide o previous dc.spec.replicas.toInt
  let status ← orCrash ((dc.status.getD {}).observed? o dc.metadata.generation)
  let status ← apply config key dc o status decision
  let status := { status with phase := decision.phase previous }
  store (.replaceDataCenterStatus key.ns key.name status)
  return next config decision

/-- The pass over the DataCenter of a key. -/
def run (config : Config) (key : ClusterKey) : Work Action := do
  let found : Option DataCenter ← store (.getDataCenter key.ns key.name)
  match found with
  | none => return .done
  | some dc =>
    store (.ensureService key.ns dc.service)
    let racks := Rack.all dc.spec.racks.toInt.toNat
    let c ← census key dc.naming racks
    if c.missing.isEmpty then converge config key dc c.existing
    else
      let counts := Layout.initialDistribution dc.spec.replicas.toInt racks.length
      createMissing key dc counts c.missing
      return .short

end RackOperator.Pass
