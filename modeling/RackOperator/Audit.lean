import RackOperator.Naming
import RackOperator.Resource.DataCenter
import RackOperator.Text.Rfc3339

/-!
# The audit trail

Changes that cannot be undone or that affect availability leave an `AuditEvent`.
`AuditEntry` is what happened, `AuditEntry.event` the record of it at a given
time, written under the operator's own identity.
-/

namespace RackOperator

open Json

/-- Kinds of audit events. -/
inductive AuditKind where
  | decommissionRequested
  | decommissionFailed
  | rackScaledUp
  | rackScaledDown
  | rackUpdated
  | cleanupTriggered
  | taskStarted
  | taskFinished
  | inconsistentTopology
deriving DecidableEq, Repr, Inhabited

namespace AuditKind

/-- Every kind in declaration order. -/
def all : List AuditKind :=
  [decommissionRequested, decommissionFailed, rackScaledUp, rackScaledDown, rackUpdated,
    cleanupTriggered, taskStarted, taskFinished, inconsistentTopology]

/-- The kind in an event. -/
def name : AuditKind → String
  | decommissionRequested => "decommission_requested"
  | decommissionFailed => "decommission_failed"
  | rackScaledUp => "rack_scaled_up"
  | rackScaledDown => "rack_scaled_down"
  | rackUpdated => "rack_updated"
  | cleanupTriggered => "cleanup_triggered"
  | taskStarted => "task_started"
  | taskFinished => "task_finished"
  | inconsistentTopology => "inconsistent_topology"

/-- The kind beside an event in the log. -/
def label : AuditKind → String
  | decommissionRequested => "DecommissionRequested"
  | decommissionFailed => "DecommissionFailed"
  | rackScaledUp => "RackScaledUp"
  | rackScaledDown => "RackScaledDown"
  | rackUpdated => "RackUpdated"
  | cleanupTriggered => "CleanupTriggered"
  | taskStarted => "TaskStarted"
  | taskFinished => "TaskFinished"
  | inconsistentTopology => "InconsistentTopology"

instance : Tagged AuditKind := ⟨all.map fun k => (k.name, k), name⟩

end AuditKind

/-- How much attention an event needs. -/
inductive AuditSeverity where
  | info
  | warning
  | critical
deriving DecidableEq, Repr, Inhabited

namespace AuditSeverity

/-- Every severity in declaration order. -/
def all : List AuditSeverity := [info, warning, critical]

/-- The severity in an event. -/
def name : AuditSeverity → String
  | info => "info"
  | warning => "warning"
  | critical => "critical"

/-- The level an event is logged at. -/
def level : AuditSeverity → String
  | info => "INFO"
  | warning => "WARN"
  | critical => "ERROR"

instance : Tagged AuditSeverity := ⟨all.map fun s => (s.name, s), name⟩

end AuditSeverity

/-- One record of the audit trail. -/
structure AuditEvent where
  timestamp : String
  eventType : AuditKind
  severity : AuditSeverity
  subject : Option String := none
  resource : String
  ns : String
  target : Option String := none
  outcome : String
  message : Option String := none
  metadata : Option Json := none

namespace AuditEvent

/-- The fields in declaration order. -/
def fieldNames : List String :=
  ["timestamp", "event_type", "severity", "subject", "resource", "namespace", "target", "outcome",
    "message", "metadata"]

/-- An event out of a record. -/
def decode? (j : Json) : Option AuditEvent := do
  let [timestamp, eventType, severity, subject, resource, ns, target, outcome, message,
    metadata] ← slots? fieldNames j | none
  return {
    timestamp := ← required text? timestamp
    eventType := ← required Tagged.decode? eventType
    severity := ← required Tagged.decode? severity
    subject := ← optional text? subject
    resource := ← required text? resource
    ns := ← required text? ns
    target := ← optional text? target
    outcome := ← required text? outcome
    message := ← optional text? message
    metadata := ← optional (fun j => if j.wellFormed then some j.distinct else none) metadata }

/-- An event as an object. -/
def encode (e : AuditEvent) : Json :=
  .obj ([("timestamp", .str e.timestamp), ("event_type", Tagged.encode e.eventType),
      ("severity", Tagged.encode e.severity)]
    ++ omitNone "subject" (e.subject.map .str)
    ++ [("resource", .str e.resource), ("namespace", .str e.ns)]
    ++ omitNone "target" (e.target.map .str)
    ++ [("outcome", .str e.outcome)]
    ++ omitNone "message" (e.message.map .str)
    ++ omitNone "metadata" e.metadata)

end AuditEvent

/-- Something that happened and is put on record. -/
inductive AuditEntry where
  | decommission (pod : String)
  | decommissionFailed (pod error : String)
  | rackScaled (rack : String) (before after : Int)
  | rackUpdated (rack : String) (generation : Option Int)
  | inconsistent (reason : String)
  | cleanupTriggered (task : String)
  | taskStarted (kind : String) (members : Nat)
  | taskFinished (kind phase : String) (message : Option String)
deriving DecidableEq, Repr

/-- The identity the operator acts as. -/
def serviceAccount : String := "system:serviceaccount:cassandra-system:cassandra-operator"

namespace AuditEntry

/-- The kind of event an entry makes. -/
def kind : AuditEntry → AuditKind
  | decommission _ => .decommissionRequested
  | decommissionFailed .. => .decommissionFailed
  | rackScaled _ before after => if before < after then .rackScaledUp else .rackScaledDown
  | rackUpdated .. => .rackUpdated
  | inconsistent _ => .inconsistentTopology
  | cleanupTriggered _ => .cleanupTriggered
  | taskStarted .. => .taskStarted
  | taskFinished .. => .taskFinished

/-- How much attention an entry needs. -/
def severity : AuditEntry → AuditSeverity
  | decommissionFailed .. => .warning
  | inconsistent _ => .critical
  | taskFinished _ phase _ => if phase = "SUCCEED" then .info else .warning
  | _ => .info

/-- The outcome an entry states. -/
def outcome : AuditEntry → String
  | decommissionFailed .. => "error"
  | inconsistent _ => "rejected"
  | taskStarted .. => "started"
  | taskFinished _ phase _ => phase
  | _ => "success"

/-- What an entry was done to. -/
def target : AuditEntry → Option String
  | decommission pod => some pod
  | decommissionFailed pod _ => some pod
  | rackScaled rack .. => some rack
  | rackUpdated rack _ => some rack
  | cleanupTriggered task => some task
  | _ => none

/-- What an entry says in words. -/
def message : AuditEntry → Option String
  | decommission pod => some ("Requested decommission of " ++ pod)
  | decommissionFailed _ error => some error
  | inconsistent reason => some reason
  | taskFinished _ _ message => message
  | _ => none

/-- What an entry says in fields. -/
def metadata : AuditEntry → Option Json
  | rackScaled _ before after => some (.obj [("from", .int before), ("to", .int after)])
  | rackUpdated _ generation => some (.obj [("generation", Json.orNull (generation.map .int))])
  | taskStarted kind members => some (.obj [("kind", .str kind), ("members", Json.nat members)])
  | taskFinished kind _ _ => some (.texts [("kind", kind)])
  | _ => none

/-- The record of an entry about an object, made at a given time. -/
def event (a : AuditEntry) (timestamp : String) (about : NamespacedName) : AuditEvent :=
  { timestamp, eventType := a.kind, severity := a.severity, subject := some serviceAccount,
    resource := about.name, ns := about.ns, target := a.target, outcome := a.outcome,
    message := a.message, metadata := a.metadata }

end AuditEntry

end RackOperator
