import RackOperator.Resource.DataCenter

/-!
# Tasks

A `CassandraTask` runs one administrative operation on every member of a
DataCenter. Its spec has a slot for each kind of operation, of which exactly one
should be filled; its status keeps a phase per member.
-/

namespace RackOperator

open Json

/-- Phase of a task, and of each member within it. -/
inductive TaskPhase where
  | waiting
  | running
  | succeed
  | failed
deriving DecidableEq, Repr, Inhabited

namespace TaskPhase

/-- Every phase in declaration order. -/
def all : List TaskPhase := [waiting, running, succeed, failed]

/-- The phase in capitals. -/
def name : TaskPhase → String
  | waiting => "WAITING"
  | running => "RUNNING"
  | succeed => "SUCCEED"
  | failed => "FAILED"

instance : Tagged TaskPhase := ⟨all.map fun s => (s.name, s), name⟩

/-- Whether nothing further happens in this phase. -/
def isTerminal : TaskPhase → Bool
  | succeed => true
  | failed => true
  | _ => false

end TaskPhase

/-- Direction of a replication change. -/
inductive ReplicationAction where
  | add
  | remove
deriving DecidableEq, Repr, Inhabited

namespace ReplicationAction

/-- Every direction in declaration order. -/
def all : List ReplicationAction := [add, remove]

/-- The direction in capitals. -/
def name : ReplicationAction → String
  | add => "ADD"
  | remove => "REMOVE"

instance : Tagged ReplicationAction := ⟨all.map fun s => (s.name, s), name⟩

end ReplicationAction

/-- Parameters of a cleanup. -/
structure CleanupSpec where
  keyspace : Option String := none
deriving DecidableEq, Repr, Inhabited

/-- Cleanup parameters out of a record. -/
def CleanupSpec.decode? (j : Json) : Option CleanupSpec := do
  let [keyspace] ← slots? ["keyspace"] j | none
  return { keyspace := ← optional text? keyspace }

/-- Cleanup parameters as an object. -/
def CleanupSpec.encode (s : CleanupSpec) : Json := .obj (omitNone "keyspace" (s.keyspace.map .str))

/-- Parameters of a backup. -/
structure BackupSpec where
  provider : String
  bucket : String
deriving DecidableEq, Repr, Inhabited

/-- Backup parameters out of a record. -/
def BackupSpec.decode? (j : Json) : Option BackupSpec := do
  let [provider, bucket] ← slots? ["provider", "bucket"] j | none
  return { provider := ← required text? provider, bucket := ← required text? bucket }

/-- Backup parameters as an object. -/
def BackupSpec.encode (s : BackupSpec) : Json :=
  .obj [("provider", .str s.provider), ("bucket", .str s.bucket)]

/-- Parameters of a replication change. -/
structure ReplicationSpec where
  action : ReplicationAction
  dcName : String := ""
  dcSize : Int32 := 0
  replicationMap : SortedMap String Int32 := {}
deriving DecidableEq, Inhabited

/-- Replication parameters out of a record. -/
def ReplicationSpec.decode? (j : Json) : Option ReplicationSpec := do
  let [action, dcName, dcSize, replicationMap] ←
    slots? ["action", "dcName", "dcSize", "replicationMap"] j | none
  return {
    action := ← required Tagged.decode? action
    dcName := ← withDefault "" text? dcName
    dcSize := ← withDefault 0 int32? dcSize
    replicationMap :=
      ← withDefault {} (fun j => (pairs? int32? j).map SortedMap.ofList) replicationMap }

/-- A map with text keys as an object, nothing when it is empty. -/
def encodeMap {α : Type} (encode : α → Json) (m : SortedMap String α) : Option Json :=
  if m.isEmpty then none else some (.obj (m.entries.map fun p => (p.1, encode p.2)))

/-- Replication parameters as an object. -/
def ReplicationSpec.encode (s : ReplicationSpec) : Json :=
  .obj ([("action", Tagged.encode s.action), ("dcName", .str s.dcName),
      ("dcSize", ofInt32 s.dcSize)]
    ++ omitNone "replicationMap" (encodeMap ofInt32 s.replicationMap))

/-- Parameters of a repair. -/
structure RepairSpec where
  keyspace : Option String := none
deriving DecidableEq, Repr, Inhabited

/-- Repair parameters out of a record. -/
def RepairSpec.decode? (j : Json) : Option RepairSpec := do
  let [keyspace] ← slots? ["keyspace"] j | none
  return { keyspace := ← optional text? keyspace }

/-- Repair parameters as an object. -/
def RepairSpec.encode (s : RepairSpec) : Json := .obj (omitNone "keyspace" (s.keyspace.map .str))

/-- Parameters of a rebuild. -/
structure RebuildSpec where
  sourceDc : String
  keyspace : Option String := none
deriving DecidableEq, Repr, Inhabited

/-- Rebuild parameters out of a record. -/
def RebuildSpec.decode? (j : Json) : Option RebuildSpec := do
  let [sourceDc, keyspace] ← slots? ["sourceDc", "keyspace"] j | none
  return { sourceDc := ← required text? sourceDc, keyspace := ← optional text? keyspace }

/-- Rebuild parameters as an object. -/
def RebuildSpec.encode (s : RebuildSpec) : Json :=
  .obj ([("sourceDc", .str s.sourceDc)] ++ omitNone "keyspace" (s.keyspace.map .str))

/-- The target of a task and its operation. -/
structure TaskSpec where
  datacenter : String := ""
  cleanup : Option CleanupSpec := none
  backup : Option BackupSpec := none
  replication : Option ReplicationSpec := none
  repair : Option RepairSpec := none
  rebuild : Option RebuildSpec := none
deriving DecidableEq, Inhabited

namespace TaskSpec

/-- The fields in declaration order. -/
def fieldNames : List String :=
  ["datacenter", "cleanup", "backup", "replication", "repair", "rebuild"]

/-- A spec out of a record. -/
def decode? (j : Json) : Option TaskSpec := do
  let [datacenter, cleanup, backup, replication, repair, rebuild] ← slots? fieldNames j | none
  return {
    datacenter := ← required text? datacenter
    cleanup := ← optionalTail CleanupSpec.decode? cleanup
    backup := ← optionalTail BackupSpec.decode? backup
    replication := ← optionalTail ReplicationSpec.decode? replication
    repair := ← optionalTail RepairSpec.decode? repair
    rebuild := ← optionalTail RebuildSpec.decode? rebuild }

/-- A spec as an object. -/
def encode (s : TaskSpec) : Json :=
  .obj ([("datacenter", .str s.datacenter)]
    ++ omitNone "cleanup" (s.cleanup.map CleanupSpec.encode)
    ++ omitNone "backup" (s.backup.map BackupSpec.encode)
    ++ omitNone "replication" (s.replication.map ReplicationSpec.encode)
    ++ omitNone "repair" (s.repair.map RepairSpec.encode)
    ++ omitNone "rebuild" (s.rebuild.map RebuildSpec.encode))

end TaskSpec

/-- The phase each member has reached, by pod name. -/
abbrev Progress := SortedMap String TaskPhase

/-- Observed state of a task. -/
structure TaskStatus where
  phase : TaskPhase := .waiting
  pods : Progress := {}
  lastMessage : Option String := none
  startTime : Option String := none
  finishTime : Option String := none
deriving DecidableEq, Inhabited

namespace TaskStatus

/-- The fields in declaration order. -/
def fieldNames : List String := ["phase", "pods", "lastMessage", "startTime", "finishTime"]

/-- A status out of a record. -/
def decode? (j : Json) : Option TaskStatus := do
  let [phase, pods, lastMessage, startTime, finishTime] ← slots? fieldNames j | none
  return {
    phase := ← withDefault .waiting Tagged.decode? phase
    pods := ← withDefault {} (fun j => (pairs? Tagged.decode? j).map SortedMap.ofList) pods
    lastMessage := ← optional text? lastMessage
    startTime := ← optional text? startTime
    finishTime := ← optional text? finishTime }

/-- A status as an object. -/
def encode (s : TaskStatus) : Json :=
  .obj ([("phase", Tagged.encode s.phase)]
    ++ omitNone "pods" (encodeMap Tagged.encode s.pods)
    ++ omitNone "lastMessage" (s.lastMessage.map .str)
    ++ omitNone "startTime" (s.startTime.map .str)
    ++ omitNone "finishTime" (s.finishTime.map .str))

end TaskStatus

/-- An administrative operation on every member of a DataCenter. -/
structure CassandraTask where
  metadata : ObjectMeta
  spec : TaskSpec
  status : Option TaskStatus := none
deriving Inhabited

namespace CassandraTask

/-- A task out of a record of metadata, spec and status; its kind is not looked at. -/
def decode? (j : Json) : Option CassandraTask := do
  let [metadata, spec, status] ← slots? ["metadata", "spec", "status"] j | none
  return {
    metadata := ← required ObjectMeta.decode? metadata
    spec := ← required TaskSpec.decode? spec
    status := ← optional TaskStatus.decode? status }

/-- A task as an object. -/
def encode (t : CassandraTask) : Json :=
  .obj ([("apiVersion", .str resourceApiVersion), ("kind", .str "CassandraTask"),
      ("metadata", t.metadata.encode), ("spec", t.spec.encode)]
    ++ omitNone "status" (t.status.map TaskStatus.encode))

/-- The phase last stored, WAITING when there is none. -/
def phase (t : CassandraTask) : TaskPhase := (t.status.map (·.phase)).getD .waiting

end CassandraTask

end RackOperator
