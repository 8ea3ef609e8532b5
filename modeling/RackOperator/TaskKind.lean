import RackOperator.Config
import RackOperator.Error
import RackOperator.Resource.Task
import RackOperator.Sidecar.Request
import RackOperator.StatusCache
import RackOperator.Text.Blank

/-!
# The kinds of tasks

A task spec has to fill exactly one slot; `TaskKind.ofSpec` says which. A kind
decides how members are walked, which members take part, what each sidecar is
asked and whether its reply counts as success.
-/

namespace RackOperator

/-- The one operation a task carries. -/
inductive TaskKind where
  | cleanup (spec : CleanupSpec)
  | backup (spec : BackupSpec)
  | replication (spec : ReplicationSpec)
  | repair (spec : RepairSpec)
  | rebuild (spec : RebuildSpec)
deriving DecidableEq

/-- How the members of a task are walked. -/
inductive Execution where
  /-- One at a time with a pause (in milliseconds) between two, up to the first failure if so
  asked. -/
  | sequential (pacing : Nat) (failFast : Bool)
  /-- All at once. -/
  | parallel
deriving DecidableEq, Repr

namespace TaskKind

/-- The kind's name. -/
def name : TaskKind → String
  | cleanup _ => "cleanup"
  | backup _ => "backup"
  | replication _ => "replication"
  | repair _ => "repair"
  | rebuild _ => "rebuild"

/-- The slots a spec fills. -/
def filled (s : TaskSpec) : List TaskKind :=
  (s.cleanup.map cleanup).toList ++ (s.backup.map backup).toList
    ++ (s.replication.map replication).toList ++ (s.repair.map repair).toList
    ++ (s.rebuild.map rebuild).toList

/-- The kind of a task whose spec fills exactly one slot, or what is wrong with the spec. -/
def ofSpec (s : TaskSpec) : Except String TaskKind :=
  match filled s with
  | [] => .error "task sets no variant"
  | [k] => .ok k
  | ks => .error ("task sets more than one variant: " ++ String.intercalate ", " (ks.map name))

/-- How members are walked. -/
def execution (c : Config) : TaskKind → Execution
  | cleanup _ => .sequential (c.cleanupPacing * 1000) false
  | backup _ => .sequential 0 true
  | replication _ => .parallel
  | repair _ => .sequential 0 true
  | rebuild _ => .sequential 0 false

/-- What is wrong with the parameters, if anything. -/
def fault? : TaskKind → Option String
  | replication s =>
    if Text.isAllBlank s.dcName then some "replication task needs a dcName" else none
  | rebuild s => if Text.isAllBlank s.sourceDc then some "rebuild task needs a sourceDc" else none
  | _ => none

/-- The members a task begins with; a flush needs nodes that were observed, and removing a
datacenter from replication needs none. -/
def select (members : List Member) (statuses : StatusSnapshot) : TaskKind → List Member
  | replication s =>
    match s.action with
    | .add => members.filter fun m => statuses.statusOf m.name ≠ .unknown
    | .remove => []
  | _ => members

/-- What a member's sidecar is asked. -/
def request (task datacenter : String) (m : Member) : TaskKind → SidecarRequest
  | cleanup s => .cleanup s.keyspace
  | backup s =>
    .backup { snapshotTag := task, provider := s.provider, bucket := s.bucket,
              clusterId := datacenter, backupId := m.name }
  | replication _ => .flush none
  | repair s => .repair s.keyspace
  | rebuild s => .rebuild s.sourceDc s.keyspace

end TaskKind

/-- Whether a member's reply counts as success: a backup has to say so. -/
def SidecarRequest.verdict (pod : String) : (r : SidecarRequest) → r.Reply →
    Except OperatorError Unit
  | .backup _, (reply : BackupResponse) =>
    if reply.isSuccess then .ok ()
    else .error (.sidecar pod "backup" (match reply.message with
      | some message => "status " ++ reply.status ++ ": " ++ message
      | none => "status " ++ reply.status))
  | _, _ => .ok ()

end RackOperator
