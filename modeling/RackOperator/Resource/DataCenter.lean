import RackOperator.Resource.Metadata

/-!
# DataCenters

A `DataCenter` asks for a number of Cassandra nodes spread over racks; its status
says how far the racks have come. Each type here has a writer `encode` and a
reader `decode?`. A missing field of the spec takes its default; a status leaves
out what is empty.
-/

namespace RackOperator

open Json

/-- What a tag is called in JSON, in declaration order. -/
class Tagged (α : Type) where
  /-- Every value with its name. -/
  table : List (String × α)
  /-- The name of a value. -/
  name : α → String

/-- A tag read from its name. -/
def Tagged.decode? {α : Type} [Tagged α] (j : Json) : Option α := tag? (Tagged.table (α := α)) j

/-- A tag written as its name. -/
def Tagged.encode {α : Type} [Tagged α] (a : α) : Json := .str (Tagged.name a)

/-- Operational status of a node as its sidecar reports it. -/
inductive NodeStatus where
  | starting
  | joining
  | normal
  | leaving
  | decommissioned
  | draining
  | moving
  | unknown
deriving DecidableEq, Repr, Inhabited

namespace NodeStatus

/-- Every status in declaration order. -/
def all : List NodeStatus :=
  [starting, joining, normal, leaving, decommissioned, draining, moving, unknown]

/-- The status in capitals. -/
def name : NodeStatus → String
  | starting => "STARTING"
  | joining => "JOINING"
  | normal => "NORMAL"
  | leaving => "LEAVING"
  | decommissioned => "DECOMMISSIONED"
  | draining => "DRAINING"
  | moving => "MOVING"
  | unknown => "UNKNOWN"

instance : Tagged NodeStatus := ⟨all.map fun s => (s.name, s), name⟩

-- in declaration order
instance : LT NodeStatus := ⟨fun a b => a.ctorIdx < b.ctorIdx⟩

instance : DecidableLT NodeStatus := fun a b =>
  inferInstanceAs (Decidable (a.ctorIdx < b.ctorIdx))

theorem eq_of_ctorIdx {a b : NodeStatus} (h : a.ctorIdx = b.ctorIdx) : a = b := by
  rw [← ofNat_ctorIdx a, h, ofNat_ctorIdx]

instance : Std.Irrefl (α := NodeStatus) (· < ·) := ⟨fun a => Nat.lt_irrefl a.ctorIdx⟩

instance : Trans (α := NodeStatus) (β := NodeStatus) (γ := NodeStatus) (· < ·) (· < ·) (· < ·) :=
  ⟨Nat.lt_trans⟩

instance : Std.Trichotomous (α := NodeStatus) (· < ·) :=
  ⟨fun _ _ h h' => eq_of_ctorIdx (Nat.le_antisymm (Nat.not_lt.mp h') (Nat.not_lt.mp h))⟩

/-- Whether a member in this status blocks changes of the topology: all but NORMAL and
DECOMMISSIONED do. -/
def isMoving : NodeStatus → Bool
  | normal => false
  | decommissioned => false
  | _ => true

end NodeStatus

/-- What a rack needs to converge. -/
inductive RackMode where
  | normal
  | behind
  | scaleUp
  | scaleDown
  | unknown
deriving DecidableEq, Repr, Inhabited

namespace RackMode

/-- Every mode in declaration order. -/
def all : List RackMode := [normal, behind, scaleUp, scaleDown, unknown]

/-- The mode in capitals. -/
def name : RackMode → String
  | normal => "NORMAL"
  | behind => "BEHIND"
  | scaleUp => "SCALE_UP"
  | scaleDown => "SCALE_DOWN"
  | unknown => "UNKNOWN"

instance : Tagged RackMode := ⟨all.map fun s => (s.name, s), name⟩

-- in declaration order
instance : LT RackMode := ⟨fun a b => a.ctorIdx < b.ctorIdx⟩

instance : DecidableLT RackMode := fun a b =>
  inferInstanceAs (Decidable (a.ctorIdx < b.ctorIdx))

theorem eq_of_ctorIdx {a b : RackMode} (h : a.ctorIdx = b.ctorIdx) : a = b := by
  rw [← ofNat_ctorIdx a, h, ofNat_ctorIdx]

instance : Std.Irrefl (α := RackMode) (· < ·) := ⟨fun a => Nat.lt_irrefl a.ctorIdx⟩

instance : Trans (α := RackMode) (β := RackMode) (γ := RackMode) (· < ·) (· < ·) (· < ·) :=
  ⟨Nat.lt_trans⟩

instance : Std.Trichotomous (α := RackMode) (· < ·) :=
  ⟨fun _ _ h h' => eq_of_ctorIdx (Nat.le_antisymm (Nat.not_lt.mp h') (Nat.not_lt.mp h))⟩

end RackMode

/-- Phase of a DataCenter. -/
inductive DataCenterPhase where
  | running
  | scalingUp
  | scalingDown
  | updating
  | error
deriving DecidableEq, Repr, Inhabited

namespace DataCenterPhase

/-- Every phase in declaration order. -/
def all : List DataCenterPhase := [running, scalingUp, scalingDown, updating, error]

/-- The phase in capitals. -/
def name : DataCenterPhase → String
  | running => "RUNNING"
  | scalingUp => "SCALING_UP"
  | scalingDown => "SCALING_DOWN"
  | updating => "UPDATING"
  | error => "ERROR"

instance : Tagged DataCenterPhase := ⟨all.map fun s => (s.name, s), name⟩

end DataCenterPhase

/-- Persistent storage of each node. -/
structure StorageSpec where
  storageClass : Option String := none
  size : String := "10Gi"
deriving DecidableEq, Repr, Inhabited

namespace StorageSpec

/-- Storage out of a record. -/
def decode? (j : Json) : Option StorageSpec := do
  let [storageClass, size] ← slots? ["class", "size"] j | none
  return {
    storageClass := ← optional text? storageClass
    size := ← withDefault "10Gi" text? size }

/-- Storage as an object. -/
def encode (s : StorageSpec) : Json :=
  .obj (omitNone "class" (s.storageClass.map .str) ++ [("size", .str s.size)])

end StorageSpec

/-- CPU and memory quantities. -/
structure Quantities where
  cpu : Option String := none
  memory : Option String := none
deriving DecidableEq, Repr, Inhabited

namespace Quantities

/-- Quantities out of a record. -/
def decode? (j : Json) : Option Quantities := do
  let [cpu, memory] ← slots? ["cpu", "memory"] j | none
  return { cpu := ← optional text? cpu, memory := ← optional text? memory }

/-- Quantities as an object. -/
def encode (q : Quantities) : Json :=
  .obj (omitNone "cpu" (q.cpu.map .str) ++ omitNone "memory" (q.memory.map .str))

end Quantities

/-- What the Cassandra container requests and is limited to. -/
structure ResourceBounds where
  requests : Option Quantities := none
  limits : Option Quantities := none
deriving DecidableEq, Repr, Inhabited

namespace ResourceBounds

/-- Bounds out of a record. -/
def decode? (j : Json) : Option ResourceBounds := do
  let [requests, limits] ← slots? ["requests", "limits"] j | none
  return {
    requests := ← optionalTail Quantities.decode? requests
    limits := ← optionalTail Quantities.decode? limits }

/-- Bounds as an object. -/
def encode (r : ResourceBounds) : Json :=
  .obj (omitNone "requests" (r.requests.map Quantities.encode)
    ++ omitNone "limits" (r.limits.map Quantities.encode))

end ResourceBounds

/-- The topology a DataCenter asks for and what its nodes run. -/
structure DataCenterSpec where
  clusterName : String
  datacenterName : String
  replicas : Int32 := 1
  racks : Int32 := 1
  image : String := "cassandra:4.1"
  sidecarImage : String := "ghcr.io/cassandra-operator/sidecar:latest"
  imagePullPolicy : String := "IfNotPresent"
  nativePort : Int32 := 9042
  storagePort : Int32 := 7000
  jmxPort : Int32 := 7199
  sidecarPort : Int32 := 8080
  storage : StorageSpec := {}
  resources : ResourceBounds := {}
deriving DecidableEq, Inhabited

namespace DataCenterSpec

/-- The fields in declaration order. -/
def fieldNames : List String :=
  ["clusterName", "datacenterName", "replicas", "racks", "image", "sidecarImage",
    "imagePullPolicy", "nativePort", "storagePort", "jmxPort", "sidecarPort", "storage",
    "resources"]

/-- A spec out of a record. -/
def decode? (j : Json) : Option DataCenterSpec := do
  let [clusterName, datacenterName, replicas, racks, image, sidecarImage, imagePullPolicy,
    nativePort, storagePort, jmxPort, sidecarPort, storage, resources] ← slots? fieldNames j
    | none
  return {
    clusterName := ← required text? clusterName
    datacenterName := ← required text? datacenterName
    replicas := ← withDefault 1 int32? replicas
    racks := ← withDefault 1 int32? racks
    image := ← withDefault "cassandra:4.1" text? image
    sidecarImage := ← withDefault "ghcr.io/cassandra-operator/sidecar:latest" text? sidecarImage
    imagePullPolicy := ← withDefault "IfNotPresent" text? imagePullPolicy
    nativePort := ← withDefault 9042 int32? nativePort
    storagePort := ← withDefault 7000 int32? storagePort
    jmxPort := ← withDefault 7199 int32? jmxPort
    sidecarPort := ← withDefault 8080 int32? sidecarPort
    storage := ← withDefault {} StorageSpec.decode? storage
    resources := ← withDefault {} ResourceBounds.decode? resources }

/-- A spec as an object. -/
def encode (s : DataCenterSpec) : Json :=
  .obj [("clusterName", .str s.clusterName), ("datacenterName", .str s.datacenterName),
    ("replicas", ofInt32 s.replicas), ("racks", ofInt32 s.racks), ("image", .str s.image),
    ("sidecarImage", .str s.sidecarImage), ("imagePullPolicy", .str s.imagePullPolicy),
    ("nativePort", ofInt32 s.nativePort), ("storagePort", ofInt32 s.storagePort),
    ("jmxPort", ofInt32 s.jmxPort), ("sidecarPort", ofInt32 s.sidecarPort),
    ("storage", s.storage.encode), ("resources", s.resources.encode)]

end DataCenterSpec

/-- Status of one rack. -/
structure RackStatus where
  name : String
  ready : Bool
  mode : RackMode
  replicas : Int32
deriving DecidableEq, Repr, Inhabited

namespace RackStatus

/-- A rack's status out of a record. -/
def decode? (j : Json) : Option RackStatus := do
  let [name, ready, mode, replicas] ← slots? ["name", "ready", "mode", "replicas"] j | none
  return {
    name := ← required text? name
    ready := ← required bool? ready
    mode := ← required Tagged.decode? mode
    replicas := ← required int32? replicas }

/-- A rack's status as an object. -/
def encode (s : RackStatus) : Json :=
  .obj [("name", .str s.name), ("ready", .bool s.ready), ("mode", Tagged.encode s.mode),
    ("replicas", ofInt32 s.replicas)]

end RackStatus

/-- Status of one member. -/
structure PodStatus where
  podName : String
  mode : NodeStatus
deriving DecidableEq, Repr, Inhabited

namespace PodStatus

/-- A member's status out of a record. -/
def decode? (j : Json) : Option PodStatus := do
  let [podName, mode] ← slots? ["podName", "mode"] j | none
  return { podName := ← required text? podName, mode := ← required Tagged.decode? mode }

/-- A member's status as an object. -/
def encode (s : PodStatus) : Json :=
  .obj [("podName", .str s.podName), ("mode", Tagged.encode s.mode)]

end PodStatus

/-- Observed state of a DataCenter. -/
structure DataCenterStatus where
  phase : DataCenterPhase := .running
  replicas : Int32 := 0
  readyReplicas : Int32 := 0
  joinedReplicas : Int32 := 0
  rackStatuses : List RackStatus := []
  podStatuses : List PodStatus := []
  lastErrorMessage : Option String := none
  observedGeneration : Option Int64 := none
deriving DecidableEq, Inhabited

namespace DataCenterStatus

/-- The fields in declaration order. -/
def fieldNames : List String :=
  ["phase", "replicas", "readyReplicas", "joinedReplicas", "rackStatuses", "podStatuses",
    "lastErrorMessage", "observedGeneration"]

/-- A status out of a record. -/
def decode? (j : Json) : Option DataCenterStatus := do
  let [phase, replicas, readyReplicas, joinedReplicas, rackStatuses, podStatuses,
    lastErrorMessage, observedGeneration] ← slots? fieldNames j | none
  return {
    phase := ← withDefault .running Tagged.decode? phase
    replicas := ← withDefault 0 int32? replicas
    readyReplicas := ← withDefault 0 int32? readyReplicas
    joinedReplicas := ← withDefault 0 int32? joinedReplicas
    rackStatuses := ← withDefault [] (list? RackStatus.decode?) rackStatuses
    podStatuses := ← withDefault [] (list? PodStatus.decode?) podStatuses
    lastErrorMessage := ← optional text? lastErrorMessage
    observedGeneration := ← optional int64? observedGeneration }

/-- A list, nothing when it is empty. -/
def nonEmpty {α : Type} (encode : α → Json) (items : List α) : Option Json :=
  if items.isEmpty then none else some (.arr (items.map encode))

/-- A status as an object. -/
def encode (s : DataCenterStatus) : Json :=
  .obj ([("phase", Tagged.encode s.phase), ("replicas", ofInt32 s.replicas),
      ("readyReplicas", ofInt32 s.readyReplicas), ("joinedReplicas", ofInt32 s.joinedReplicas)]
    ++ omitNone "rackStatuses" (nonEmpty RackStatus.encode s.rackStatuses)
    ++ omitNone "podStatuses" (nonEmpty PodStatus.encode s.podStatuses)
    ++ omitNone "lastErrorMessage" (s.lastErrorMessage.map .str)
    ++ omitNone "observedGeneration" (s.observedGeneration.map ofInt64))

end DataCenterStatus

/-- Group and version of the resources defined here. -/
def resourceGroup : String := "cassandra.operator.io"

/-- Group and version as objects name them. -/
def resourceApiVersion : String := resourceGroup ++ "/v1"

/-- One Cassandra datacenter. -/
structure DataCenter where
  metadata : ObjectMeta
  spec : DataCenterSpec
  status : Option DataCenterStatus := none
deriving Inhabited

namespace DataCenter

/-- A DataCenter out of a record of metadata, spec and status; its kind is not looked at. -/
def decode? (j : Json) : Option DataCenter := do
  let [metadata, spec, status] ← slots? ["metadata", "spec", "status"] j | none
  return {
    metadata := ← required ObjectMeta.decode? metadata
    spec := ← required DataCenterSpec.decode? spec
    status := ← optional DataCenterStatus.decode? status }

/-- A DataCenter as an object. -/
def encode (dc : DataCenter) : Json :=
  .obj ([("apiVersion", .str resourceApiVersion), ("kind", .str "DataCenter"),
      ("metadata", dc.metadata.encode), ("spec", dc.spec.encode)]
    ++ omitNone "status" (dc.status.map DataCenterStatus.encode))

/-- The key under which the DataCenter's work is put in line. -/
def key (dc : DataCenter) : ClusterKey := dc.metadata.key

/-- What the DataCenter's names are made of. -/
def naming (dc : DataCenter) : Naming :=
  { cluster := dc.spec.clusterName, datacenter := dc.spec.datacenterName,
    ns := dc.metadata.nsOrEmpty, sidecarPort := dc.spec.sidecarPort.toInt }

/-- The phase last stored, RUNNING when there is none. -/
def previousPhase (dc : DataCenter) : DataCenterPhase :=
  (dc.status.map (·.phase)).getD .running

end DataCenter

end RackOperator
