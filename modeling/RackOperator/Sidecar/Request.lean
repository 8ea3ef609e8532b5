import RackOperator.Resource.DataCenter

/-!
# What a sidecar is asked

Each pod runs a sidecar that reports the node's status and carries out
administrative operations. A `SidecarRequest` is one operation with its
arguments; `SidecarRequest.Reply` is what a successful one answers.
-/

namespace RackOperator

open Json

/-- Arguments of a backup. -/
structure BackupArgs where
  snapshotTag : String
  provider : String
  bucket : String
  clusterId : String
  backupId : String
deriving DecidableEq, Repr

namespace BackupArgs

/-- The fields in declaration order. -/
def fieldNames : List String := ["snapshotTag", "provider", "bucket", "clusterId", "backupId"]

/-- Arguments out of a record. -/
def decode? (j : Json) : Option BackupArgs := do
  let [snapshotTag, provider, bucket, clusterId, backupId] ← slots? fieldNames j | none
  return {
    snapshotTag := ← required text? snapshotTag
    provider := ← required text? provider
    bucket := ← required text? bucket
    clusterId := ← required text? clusterId
    backupId := ← required text? backupId }

/-- Arguments as an object. -/
def encode (a : BackupArgs) : Json :=
  .obj [("snapshotTag", .str a.snapshotTag), ("provider", .str a.provider),
    ("bucket", .str a.bucket), ("clusterId", .str a.clusterId), ("backupId", .str a.backupId)]

end BackupArgs

/-- What a sidecar says about a backup. -/
structure BackupResponse where
  status : String
  message : Option String := none
deriving DecidableEq, Repr

namespace BackupResponse

/-- A response out of a record. -/
def decode? (j : Json) : Option BackupResponse := do
  let [status, message] ← slots? ["status", "message"] j | none
  return { status := ← required text? status, message := ← optionalTail text? message }

/-- A response as an object. -/
def encode (r : BackupResponse) : Json :=
  .obj ([("status", .str r.status)] ++ omitNone "message" (r.message.map .str))

/-- Whether the backup succeeded: the status is `success`, ASCII case aside. -/
def isSuccess (r : BackupResponse) : Bool :=
  r.status.toList.map Char.toLower == "success".toList

end BackupResponse

/-- One operation of a sidecar. -/
inductive SidecarRequest where
  | status
  | decommission
  | cleanup (keyspace : Option String)
  | flush (keyspace : Option String)
  | backup (args : BackupArgs)
  | repair (keyspace : Option String)
  | rebuild (sourceDc : String) (keyspace : Option String)
deriving DecidableEq, Repr

namespace SidecarRequest

/-- What a successful request answers. -/
def Reply : SidecarRequest → Type
  | status => NodeStatus
  | backup _ => BackupResponse
  | _ => Unit

/-- The operation's name. -/
def operation : SidecarRequest → String
  | status => "status"
  | decommission => "decommission"
  | cleanup _ => "cleanup"
  | flush _ => "flush"
  | backup _ => "backup"
  | repair _ => "repair"
  | rebuild .. => "rebuild"

end SidecarRequest

end RackOperator
