import RackOperator.Config
import RackOperator.Decision
import RackOperator.Json.Record
import RackOperator.Program
import RackOperator.Sidecar.Script
import RackOperator.Store.Memory

/-!
# Reports

How names, errors, decisions, observations, changes and calls are reported in
JSON. A missing value is reported as `null`.
-/

namespace RackOperator

open Json

namespace Report

/-- A list of texts. -/
def texts (l : List String) : Json := .arr (l.map .str)

/-- The names of racks. -/
def rackNames (l : List Rack) : Json := texts (l.map (·.name))

/-- A value that may be missing. -/
def optional {α : Type} (report : α → Json) (o : Option α) : Json := orNull (o.map report)

/-- Lists by a key, in the order of the keys. -/
def lists {κ α : Type} [LT κ] (key : κ → Json) (list : List α → Json) (m : SortedMap κ (List α)) :
    Json := .arr (m.entries.map fun p => .arr [key p.1, list p.2])

/-- A success. -/
def ok (j : Json) : Json := .obj [("ok", j)]

/-- An error that has no more to it than a name. -/
def failure (name : String) : Json := .texts [("error", name)]

/-- A crash. -/
def panic : Json := failure "panic"

/-- An input that cannot be read. -/
def undecodable : Json := failure "SerializationError"

/-- Something asked for that is not in the store. -/
def notStored : Json := failure "not_stored"

/-- A text that says what is wrong. -/
def rejected (message : String) : Json := .texts [("error", "rejected"), ("message", message)]

/-- What is wrong, if anything. -/
def fault (f : Option String) : Json :=
  match f with
  | none => ok .null
  | some message => rejected message

end Report

/-- A rack's index and name. -/
def Rack.report (r : Rack) : Json := .obj [("index", Json.nat r.index), ("name", .str r.name)]

/-- Everything about a member. -/
def Member.report (m : Member) : Json :=
  .obj [("rack", m.rack.report), ("ordinal", .int m.ordinal), ("name", .str m.name),
    ("namespace", .str m.ns), ("host", .str m.host), ("sidecar_port", .int m.sidecarPort)]

namespace OperatorError

/-- The kind of an error. -/
def kind : OperatorError → String
  | api _ => "KubeError"
  | transport _ => "KubeError"
  | notFound .. => "NotFound"
  | alreadyExists .. => "AlreadyExists"
  | invalidConfig _ => "InvalidConfig"
  | invalidTask .. => "InvalidTask"
  | inconsistentState .. => "InconsistentState"
  | sidecar .. => "Sidecar"
  | serialization _ => "SerializationError"
  | unit .. => "Unit"

/-- An error's kind and what is known about it. -/
def fields (e : OperatorError) : List (String × Json) :=
  ("error", .str e.kind) :: match e with
    | api a => [("code", nat a.code), ("reason", .str a.reason), ("message", .str a.message)]
    | transport _ => []
    | serialization _ => []
    | _ => [("message", .str e.message)]

/-- An error as an object. -/
def report (e : OperatorError) : Json := .obj e.fields

end OperatorError

/-- A success or an error. -/
def Report.result {α : Type} (report : α → Json) : Except OperatorError α → Json
  | .ok a => ok (report a)
  | .error e => e.report

/-- When to look again: whole seconds rounded up, or not at all. -/
def Action.report : Action → Json
  | .requeue nanos => .obj [("requeue", nat ((nanos + 999999999) / 1000000000))]
  | .done => .str "done"

/-- Every setting. -/
def Config.report (c : Config) : Json :=
  let retry := c.decommissionRetry
  .obj [("namespace", ofText? c.watched), ("node_status_poll_interval", nat c.pollInterval),
    ("sidecar_timeout", nat c.sidecarTimeout),
    ("decommission_max_attempts", nat c.decommissionMaxAttempts),
    ("decommission_retry_delay", nat c.decommissionRetryDelay),
    ("cleanup_pacing", nat c.cleanupPacing), ("worker_pool_size", nat c.workerPoolSize),
    ("task_retention", nat c.taskRetention), ("requeue_interval", nat c.requeueInterval),
    ("retry", .obj [("max_attempts", nat retry.maxAttempts), ("delay", nat (retry.delay / 1000))])]

/-- A decision's kind and parts. -/
def Decision.report : Decision → Json
  | .inconsistent reason => .texts [("kind", "Inconsistent"), ("reason", reason)]
  | .waitForRacks rs => .obj [("kind", .str "WaitForRacks"), ("racks", Report.rackNames rs)]
  | .waitForMembers ms => .obj [("kind", .str "WaitForMembers"), ("members", Report.texts ms)]
  | .updateRack r => .texts [("kind", "UpdateRack"), ("rack", r.name)]
  | .scaleUp r n => .obj [("kind", .str "ScaleUp"), ("rack", .str r.name), ("replicas", .int n)]
  | .decommission r m => .texts [("kind", "Decommission"), ("rack", r.name), ("member", m.name)]
  | .scaleDown r n m => .obj [("kind", .str "ScaleDown"), ("rack", .str r.name),
      ("replicas", .int n), ("member", .str m.name)]
  | .waitForDecommission r m s => .texts [("kind", "WaitForDecommission"), ("rack", r.name),
      ("member", m.name), ("status", s.name)]
  | .converged c => .obj [("kind", .str "Converged"), ("trigger_cleanup", .bool c)]

/-- A mode's name. -/
def RackMode.report (m : RackMode) : Json := .str m.name

/-- A status's name. -/
def NodeStatus.report (s : NodeStatus) : Json := .str s.name

namespace Observation

/-- One group, with what the observation says of its rack. -/
def groupReport (o : Observation) (g : RackGroup) : Json :=
  .obj [("rack", .str g.rack.name), ("existing", .int g.existingReplicas),
    ("desired", .int g.desiredReplicas), ("status_replicas", .int g.statusReplicas),
    ("ready_replicas", .int g.readyReplicas),
    ("mode", Report.optional RackMode.report (o.modeOf? g.rack)),
    ("ready", .bool (o.isReady g.rack)), ("in_group", .bool (o.group? g.rack).isSome),
    ("members", .arr ((o.membersOf g.rack).map fun m => .int m.ordinal))]

/-- Every view of an observation. -/
def report (o : Observation) : Json :=
  .obj [
    ("groups", .arr (o.groups.map o.groupReport)),
    ("by_mode", Report.lists RackMode.report Report.rackNames o.racksByMode),
    ("in_mode", .arr (RackMode.all.map fun m => Report.rackNames (o.racksIn m))),
    ("by_ready", Report.lists .bool Report.rackNames o.readinessByRack),
    ("by_status", Report.lists NodeStatus.report Report.texts o.membersByStatus),
    ("members", .arr (o.members.map fun m => .arr [.str m.name, (o.statusOf m).report])),
    ("moving", Report.texts (o.movingMembers.map (·.name)))]

end Observation

/-- A change's type and parts. -/
def Mutation.report : Mutation → Json
  | .createStatefulSet name n => .obj [("type", .str "CreateStatefulSet"), ("name", .str name),
      ("replicas", .int n), ("writes", .str "StatefulSet")]
  | .replaceStatefulSet name n => .obj [("type", .str "ReplaceStatefulSet"), ("name", .str name),
      ("replicas", .int n), ("writes", .str "StatefulSet")]
  | .createService name => .texts [("type", "CreateService"), ("name", name)]
  | .dataCenterStatus name s => .obj [("type", .str "DataCenterStatus"), ("name", .str name),
      ("status", s.encode)]
  | .createTask name => .texts [("type", "CreateTask"), ("name", name)]
  | .deleteTask name => .texts [("type", "DeleteTask"), ("name", name)]
  | .taskStatus name s => .obj [("type", .str "TaskStatus"), ("name", .str name),
      ("status", s.encode)]

/-- A call's pod, operation and argument. -/
def Sidecar.Call.report (c : Sidecar.Call) : Json :=
  .arr [.str c.pod, .str c.operation, ofText? c.argument]

/-- An event as it is logged: the event itself, and beside it what a log is searched by. -/
def AuditEvent.report (e : AuditEvent) : Json :=
  .obj [("level", .str e.severity.level), ("event_type", .str e.eventType.label),
    ("resource", .str e.resource), ("outcome", .str e.outcome), ("event", e.encode)]

/-- A request's argument, absent keyspaces as `null`. -/
def SidecarRequest.argumentReport : SidecarRequest → Json
  | .status => .null
  | .decommission => .null
  | .cleanup k => .obj [("keyspace", ofText? k)]
  | .flush k => .obj [("keyspace", ofText? k)]
  | .repair k => .obj [("keyspace", ofText? k)]
  | .backup a => a.encode
  | .rebuild s k => .obj [("sourceDc", .str s), ("keyspace", ofText? k)]

/-- What a store operation answered. -/
def StoreCall.reportValue : (c : StoreCall) → c.Value → Json
  | .getStatefulSet .., v => Report.optional StatefulSet.encode v
  | .createStatefulSet .., v => StatefulSet.encode v
  | .replaceStatefulSet .., v => StatefulSet.encode v
  | .ensureService .., _ => .null
  | .getDataCenter .., v => Report.optional DataCenter.encode v
  | .replaceDataCenterStatus .., _ => .null
  | .getTask .., v => Report.optional CassandraTask.encode v
  | .createTask .., v => CassandraTask.encode v
  | .deleteTask .., _ => .null
  | .replaceTaskStatus .., _ => .null

end RackOperator
