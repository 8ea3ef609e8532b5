import RackOperator.Resource.DataCenter
import RackOperator.Resource.Task

/-!
# Resource definitions

The cluster learns the two kinds of resources from their definitions: how they are
named, which columns a listing shows, and the schema of their fields. A `Schema`
says what a value may be; `Schema.write` gives it in the cluster's own terms.
-/

namespace RackOperator

/-- What a value may be. -/
inductive Schema where
  | text
  | truth
  | integer (bits : Nat)
  | oneOf (names : List String)
  | list (items : Schema)
  | map (values : Schema)
  /-- An object: its fields, each with whether it has to be given. -/
  | record (fields : List (String × Bool × Schema))
  /-- A value with a description. -/
  | described (words : String) (s : Schema)
  /-- A value that may also be `null`. -/
  | nullable (s : Schema)
  /-- A value that is taken when none is given. -/
  | defaulting (otherwise : Json) (s : Schema)

namespace Schema

/-- The names of the fields that have to be given, in order. -/
def requiredNames (fields : List (String × Bool × Schema)) : List String :=
  ((fields.filter fun f => f.2.1).map (·.1)).mergeSort fun a b => decide (a ≤ b)

mutual

/-- What is written of a schema. -/
def keywords : Schema → List (String × Json)
  | text => [("type", .str "string")]
  | truth => [("type", .str "boolean")]
  | integer bits =>
    [("format", .str ("int" ++ Text.Decimal.natText bits)), ("type", .str "integer")]
  | oneOf names => [("enum", .arr (names.map .str)), ("type", .str "string")]
  | list items => [("items", .obj (keywords items)), ("type", .str "array")]
  | map values => [("additionalProperties", .obj (keywords values)), ("type", .str "object")]
  | record fields =>
    let required := requiredNames fields
    [("properties", .obj (properties fields)), ("type", .str "object")]
      ++ if required.isEmpty then [] else [("required", .arr (required.map .str))]
  | described words s => ("description", .str words) :: keywords s
  | nullable s => ("nullable", .bool true) :: keywords s
  | defaulting otherwise s => ("default", otherwise) :: keywords s

/-- What is written of an object's fields. -/
def properties : List (String × Bool × Schema) → List (String × Json)
  | [] => []
  | (name, _, s) :: rest => (name, .obj (keywords s)) :: properties rest

end

/-- A schema in the cluster's terms. -/
def write (s : Schema) : Json := .obj (keywords s)

/-- A field that has to be given. -/
def must (name words : String) (s : Schema) : String × Bool × Schema :=
  (name, true, described words s)

/-- A field that may be left out. -/
def may (name words : String) (s : Schema) : String × Bool × Schema :=
  (name, false, described words s)

/-- A field that may be left out or `null`. -/
def option (name words : String) (s : Schema) : String × Bool × Schema :=
  (name, false, described words (nullable s))

/-- A field that takes a default when it is left out. -/
def preset (name words : String) (otherwise : Json) (s : Schema) : String × Bool × Schema :=
  (name, false, described words (defaulting otherwise s))

/-- One of the tags of a kind. -/
def tag (α : Type) [Tagged α] : Schema := oneOf ((Tagged.table (α := α)).map (·.1))

/-- A 32-bit integer. -/
def int32 : Schema := integer 32

/-- Bounds of what a container uses. -/
def quantities : Schema :=
  record [option "cpu" "CPU quantity (e.g., \"2\")." text,
    option "memory" "Memory quantity (e.g., \"8Gi\")." text]

/-- The spec of a DataCenter. -/
def dataCenterSpec : Schema :=
  let presets : DataCenterSpec := { clusterName := "", datacenterName := "" }
  let port (name words : String) (number : Int32) := preset name words (Json.ofInt32 number) int32
  described "DataCenter is the Schema for the datacenters API." <| record [
    must "clusterName" "Cassandra cluster name." text,
    must "datacenterName" "Cassandra datacenter name." text,
    preset "replicas" "Total number of nodes in the datacenter."
      (Json.ofInt32 presets.replicas) int32,
    preset "racks" "Number of racks the nodes are spread over."
      (Json.ofInt32 presets.racks) int32,
    preset "image" "Cassandra node image." (.str presets.image) text,
    preset "sidecarImage" "Sidecar (management endpoint) image." (.str presets.sidecarImage) text,
    preset "imagePullPolicy" "Image pull policy." (.str presets.imagePullPolicy) text,
    port "nativePort" "CQL native transport port." presets.nativePort,
    port "storagePort" "Inter-node storage port." presets.storagePort,
    port "jmxPort" "JMX port." presets.jmxPort,
    port "sidecarPort" "Port of the sidecar management endpoint." presets.sidecarPort,
    preset "storage" "Persistent storage for each node." presets.storage.encode <| record [
      option "class" "Storage class name." text,
      preset "size" "Storage size (e.g., \"50Gi\")." (.str presets.storage.size) text],
    preset "resources" "Resource requirements for the Cassandra container."
      presets.resources.encode <| record [
        option "requests" "Resource requests." quantities,
        option "limits" "Resource limits." quantities]]

/-- The status of a DataCenter. -/
def dataCenterStatus : Schema :=
  let presets : DataCenterStatus := {}
  described "Observed state of a DataCenter." <| record [
    preset "phase" "Current phase." (Tagged.encode presets.phase) (tag DataCenterPhase),
    preset "replicas" "Sum of the replicas reported by every rack StatefulSet."
      (Json.ofInt32 presets.replicas) int32,
    preset "readyReplicas" "Sum of the ready replicas reported by every rack StatefulSet."
      (Json.ofInt32 presets.readyReplicas) int32,
    preset "joinedReplicas" "Number of members whose node status is NORMAL."
      (Json.ofInt32 presets.joinedReplicas) int32,
    may "rackStatuses" "Per-rack status, ordered by rack." <| list <|
      described "Status of one rack." <| record [
        must "name" "Rack name." text,
        must "ready" "Whether the rack StatefulSet has fully converged." truth,
        must "mode" "Mode the rack was classified in." (tag RackMode),
        must "replicas" "Replica count of the existing StatefulSet." int32],
    may "podStatuses" "Per-member status, ordered by rack then ordinal." <| list <|
      described "Status of one member." <| record [
        must "podName" "Pod name." text,
        must "mode" "Last known operational status." (tag NodeStatus)],
    option "lastErrorMessage" "Last error met while driving the topology." text,
    option "observedGeneration" "Generation of the spec this status was computed from."
      (integer 64)]

/-- The spec of a task. -/
def taskSpec : Schema :=
  let keyspace (words : String) := option "keyspace" words text
  described "CassandraTask is the Schema for the cassandratasks API." <| record [
    must "datacenter" "Name of the target DataCenter resource in the same namespace." text,
    option "cleanup" "Run `nodetool cleanup` on every member." <| record [
      keyspace "Restrict cleanup to one keyspace (all keyspaces when absent)."],
    option "backup" "Back up every member to object storage." <| record [
      must "provider" "Storage provider (e.g., \"s3\", \"gcp\", \"azure\")." text,
      must "bucket" "Destination bucket." text],
    option "replication" "Add or remove a datacenter from keyspace replication." <| record [
      must "action" "Whether the datacenter is being added or removed." (tag ReplicationAction),
      preset "dcName" "Datacenter whose replication changes." (.str "") text,
      preset "dcSize" "Replication factor for the datacenter." (.int 0) int32,
      may "replicationMap" "Keyspace to replication factor overrides." (map int32)],
    option "repair" "Run an anti-entropy repair on every member." <| record [
      keyspace "Restrict repair to one keyspace."],
    option "rebuild" "Rebuild every member from another datacenter." <| record [
      must "sourceDc" "Datacenter to stream data from." text,
      keyspace "Restrict rebuild to one keyspace."]]

/-- The status of a task. -/
def taskStatus : Schema :=
  let presets : TaskStatus := {}
  described "Observed state of a CassandraTask." <| record [
    preset "phase" "Overall phase." (Tagged.encode presets.phase) (tag TaskPhase),
    may "pods" "Per-member progress, keyed by pod name." <| map <|
      described "Task phase, used both for the task and for each member." (tag TaskPhase),
    option "lastMessage" "Last error or diagnostic message." text,
    option "startTime" "When processing started (RFC 3339)." text,
    option "finishTime" "When the task reached a terminal phase (RFC 3339)." text]

end Schema

/-- A column of a listing. -/
structure PrinterColumn where
  name : String
  type : String
  path : String

/-- A kind of resource as the cluster learns it. -/
structure ResourceDefinition where
  kind : String
  plural : String
  singular : String
  shortName : String
  columns : List PrinterColumn
  /-- What the schema as a whole is described by. -/
  words : String
  spec : Schema
  status : Schema

namespace ResourceDefinition

/-- The API group of both kinds. -/
def group : String := "cassandra.operator.io"

/-- The DataCenter. -/
def dataCenter : ResourceDefinition :=
  { kind := "DataCenter", plural := "datacenters", singular := "datacenter", shortName := "cdc"
    columns := [⟨"Replicas", "integer", ".spec.replicas"⟩,
      ⟨"Ready", "integer", ".status.readyReplicas"⟩,
      ⟨"Joined", "integer", ".status.joinedReplicas"⟩, ⟨"Phase", "string", ".status.phase"⟩,
      ⟨"Age", "date", ".metadata.creationTimestamp"⟩]
    words := "Auto-generated derived type for DataCenterSpec via `CustomResource`"
    spec := Schema.dataCenterSpec
    status := Schema.dataCenterStatus }

/-- The task. -/
def task : ResourceDefinition :=
  { kind := "CassandraTask", plural := "cassandratasks", singular := "cassandratask"
    shortName := "ctask"
    columns := [⟨"DataCenter", "string", ".spec.datacenter"⟩,
      ⟨"Phase", "string", ".status.phase"⟩, ⟨"Age", "date", ".metadata.creationTimestamp"⟩]
    words := "Auto-generated derived type for CassandraTaskSpec via `CustomResource`"
    spec := Schema.taskSpec
    status := Schema.taskStatus }

/-- Both kinds. -/
def all : List ResourceDefinition := [dataCenter, task]

/-- The definition of a kind, if there is one of its name. -/
def ofKind? (kind : String) : Option ResourceDefinition := all.find? fun d => d.kind = kind

/-- The schema of a whole resource. -/
def schemaFields (d : ResourceDefinition) : List (String × Bool × Schema) :=
  [("spec", true, d.spec), ("status", false, .nullable d.status)]

/-- A column in the cluster's terms. -/
def column (c : PrinterColumn) : Json :=
  .texts [("jsonPath", c.path), ("name", c.name), ("type", c.type)]

/-- The one version of a kind. -/
def version (d : ResourceDefinition) : Json :=
  .obj [("additionalPrinterColumns", .arr (d.columns.map column)), ("name", .str "v1"),
    ("schema", .obj [("openAPIV3Schema",
      .obj (("title", .str d.kind)
        :: (Schema.described d.words (.record d.schemaFields)).keywords))]),
    ("served", .bool true), ("storage", .bool true),
    ("subresources", .obj [("status", .obj [])])]

/-- A definition in the cluster's terms. -/
def write (d : ResourceDefinition) : Json :=
  .obj [("apiVersion", .str "apiextensions.k8s.io/v1"), ("kind", .str "CustomResourceDefinition"),
    ("metadata", .texts [("name", d.plural ++ "." ++ group)]),
    ("spec", .obj [("group", .str group),
      ("names", .obj [("categories", .arr []), ("kind", .str d.kind), ("plural", .str d.plural),
        ("shortNames", .arr [.str d.shortName]), ("singular", .str d.singular)]),
      ("scope", .str "Namespaced"), ("versions", .arr [d.version])])]

end ResourceDefinition

end RackOperator
