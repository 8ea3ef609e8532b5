import RackOperator.Resource.StatefulSet
import RackOperator.Resource.Task
import RackOperator.Text.Blank

/-!
# Objects a DataCenter owns

`DataCenter.statefulSet`, `DataCenter.service` and `DataCenter.cleanupTask` build
the objects that belong to a DataCenter. A StatefulSet records the generation it
was built from in an annotation, which `StatefulSet.recordedGeneration` reads back.
-/

namespace RackOperator

open Json Text

/-- The annotation that records the generation a StatefulSet was built from. -/
def generationMark : String := "cassandra.operator.io/datacenter-generation"

/-- The label with the cluster's name. -/
def clusterLabel : String := "cassandra.operator.io/cluster"

/-- The label with the datacenter's name. -/
def datacenterLabel : String := "cassandra.operator.io/datacenter"

/-- The label with the rack's name. -/
def rackLabel : String := "cassandra.operator.io/rack"

namespace Naming

/-- The labels of everything a DataCenter owns. -/
def labels (n : Naming) : Labels :=
  SortedMap.ofList [("app.kubernetes.io/name", "cassandra"),
    ("app.kubernetes.io/managed-by", "cassandra-operator"), (clusterLabel, n.cluster),
    (datacenterLabel, n.datacenter)]

/-- The labels of a rack's StatefulSet and pods. -/
def rackLabels (n : Naming) (r : Rack) : Labels := n.labels.insert rackLabel r.name

end Naming

/-- Quantities as resources; nothing when there is none. -/
def Quantities.resources? (q : Quantities) : Option Json :=
  match omitNone "cpu" (q.cpu.map .str) ++ omitNone "memory" (q.memory.map .str) with
  | [] => none
  | fields => some (.obj fields)

/-- An environment variable with a fixed value. -/
def valueEnv (name value : String) : Json := .texts [("name", name), ("value", value)]

/-- An environment variable that takes a field of the pod's own object. -/
def fieldEnv (name path : String) : Json :=
  .obj [("name", .str name), ("valueFrom", .obj [("fieldRef", .texts [("fieldPath", path)])])]

/-- A named port of a container. -/
def containerPort (name : String) (number : Int32) : Json :=
  .obj [("containerPort", ofInt32 number), ("name", .str name)]

/-- Where the data volume appears in a container. -/
def dataMount : Json := .texts [("mountPath", "/var/lib/cassandra"), ("name", "data")]

namespace DataCenter

/-- The reference by which a DataCenter owns an object; it needs a name and a uid. -/
def ownerReference? (dc : DataCenter) : Option OwnerReference := do
  return { apiVersion := resourceApiVersion, blockOwnerDeletion := none, controller := some true,
           kind := "DataCenter", name := ← dc.metadata.name, uid := ← dc.metadata.uid }

/-- Metadata of an object that a DataCenter owns. -/
def ownedMetadata (dc : DataCenter) (name : String) (labels : Labels) : ObjectMeta :=
  { name := some name, ns := dc.metadata.ns, labels := some labels,
    ownerReferences := dc.ownerReference?.map fun r => [r] }

/-- The container that runs the node. -/
def cassandraContainer (dc : DataCenter) (r : Rack) : Json :=
  let n := dc.naming
  .obj [
    ("env", .arr [valueEnv "CASSANDRA_CLUSTER_NAME" n.cluster,
      valueEnv "CASSANDRA_DC" n.datacenter, valueEnv "CASSANDRA_RACK" r.name,
      valueEnv "CASSANDRA_ENDPOINT_SNITCH" "GossipingPropertyFileSnitch",
      valueEnv "CASSANDRA_SEEDS" (n.podHost (n.podName (Rack.new 0) 0)),
      fieldEnv "POD_NAME" "metadata.name", fieldEnv "POD_NAMESPACE" "metadata.namespace",
      fieldEnv "POD_IP" "status.podIP"]),
    ("image", .str dc.spec.image),
    ("imagePullPolicy", .str dc.spec.imagePullPolicy),
    ("name", .str "cassandra"),
    ("ports", .arr [containerPort "cql" dc.spec.nativePort,
      containerPort "internode" dc.spec.storagePort, containerPort "jmx" dc.spec.jmxPort]),
    ("resources", .obj (
      omitNone "limits" (dc.spec.resources.limits.bind Quantities.resources?)
        ++ omitNone "requests" (dc.spec.resources.requests.bind Quantities.resources?))),
    ("volumeMounts", .arr [dataMount])]

/-- The container that runs the management endpoint. -/
def sidecarContainer (dc : DataCenter) : Json :=
  .obj [
    ("env", .arr [fieldEnv "POD_NAME" "metadata.name",
      fieldEnv "POD_NAMESPACE" "metadata.namespace"]),
    ("image", .str dc.spec.sidecarImage),
    ("imagePullPolicy", .str dc.spec.imagePullPolicy),
    ("name", .str "sidecar"),
    ("ports", .arr [containerPort "sidecar" dc.spec.sidecarPort]),
    ("volumeMounts", .arr [dataMount])]

/-- The claim for each pod's data volume. -/
def dataClaim (dc : DataCenter) : Json :=
  .obj [
    ("apiVersion", .str "v1"),
    ("kind", .str "PersistentVolumeClaim"),
    ("metadata", .texts [("name", "data")]),
    ("spec", .obj ([("accessModes", .arr [.str "ReadWriteOnce"]),
      ("resources", .obj [("requests", .texts [("storage", dc.spec.storage.size)])])]
      ++ omitNone "storageClassName" (dc.spec.storage.storageClass.map .str)))]

/-- The StatefulSet of a rack that runs a number of pods. -/
def statefulSet (dc : DataCenter) (r : Rack) (replicas : Int32) : StatefulSet :=
  let n := dc.naming
  let labels := n.rackLabels r
  let annotations := dc.metadata.generation.map fun g =>
    SortedMap.ofList [(generationMark, Decimal.text g.toInt)]
  { metadata := { dc.ownedMetadata (n.statefulSetName r) labels with annotations }
    spec := some {
      replicas := some replicas
      rest := [
        ("podManagementPolicy", .str "OrderedReady"),
        ("selector", .obj [("matchLabels", ObjectMeta.ofLabels labels)]),
        ("serviceName", .str n.stem),
        ("template", .obj [("metadata", .obj [("labels", ObjectMeta.ofLabels labels)]),
          ("spec", .obj [("containers",
            .arr [dc.cassandraContainer r, dc.sidecarContainer])])]),
        ("volumeClaimTemplates", .arr [dc.dataClaim])] } }

/-- A named port of the Service. -/
def servicePort (name : String) (number : Int32) : Json :=
  .obj [("name", .str name), ("port", ofInt32 number)]

/-- The headless Service that gives every pod a stable host name. -/
def service (dc : DataCenter) : Service :=
  let labels := dc.naming.labels
  { metadata := dc.ownedMetadata dc.naming.stem labels
    spec := some (.obj [
      ("clusterIP", .str "None"),
      ("ports", .arr [servicePort "cql" dc.spec.nativePort,
        servicePort "internode" dc.spec.storagePort, servicePort "sidecar" dc.spec.sidecarPort]),
      ("publishNotReadyAddresses", .bool true),
      ("selector", ObjectMeta.ofLabels labels)]) }

/-- A cleanup of every member, owned by the DataCenter and named after the scaling event. -/
def cleanupTask (dc : DataCenter) : CassandraTask :=
  let name := dc.metadata.anyName
  let generation := (dc.metadata.generation.map Int64.toInt).getD 0
  let taskName :=
    cleanupTaskName name (dc.metadata.uid.getD "") generation dc.spec.replicas.toInt
  { metadata := dc.ownedMetadata taskName dc.naming.labels
    spec := { datacenter := name, cleanup := some {} } }

end DataCenter

/-- The generation a StatefulSet was built from, if its annotation holds a number. -/
def StatefulSet.recordedGeneration (s : StatefulSet) : Option Int :=
  (s.metadata.annotations.bind fun a => a.find? generationMark).bind fun text =>
    Decimal.integer? (-9223372036854775808) 9223372036854775807 (trimmed text.toList)

end RackOperator
