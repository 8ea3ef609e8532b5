import RackOperator.Manifest

/-!
# Ready-made resources

DataCenters, StatefulSets and tasks for rehearsing: a DataCenter at generation 1,
a StatefulSet that has rolled out, one with fewer ready replicas, one recorded at
another generation.
-/

namespace RackOperator.Fixture

/-- The namespace of ready-made resources. -/
def ns : String := "default"

/-- A DataCenter of cluster `c1`. -/
def dataCenter (name : String) (replicas racks : Int32) : DataCenter :=
  { metadata := { name := some name, ns := some ns, generation := some 1,
                  uid := some ("uid-" ++ name) }
    spec := { clusterName := "c1", datacenterName := "dc1", replicas, racks } }

/-- The status of a StatefulSet whose pods all run the present revision. -/
def rolledOut (replicas : Int32) : StatefulSetStatus :=
  { replicas, readyReplicas := some replicas, currentReplicas := some replicas,
    currentRevision := some "rev-1", updateRevision := some "rev-1" }

/-- A rack's StatefulSet that has converged. -/
def readyStatefulSet (dc : DataCenter) (r : Rack) (replicas : Int32) : StatefulSet :=
  { dc.statefulSet r replicas with status := some (rolledOut replicas) }

/-- A rack's StatefulSet of which some replicas are ready. -/
def convergingStatefulSet (dc : DataCenter) (r : Rack) (replicas ready : Int32) : StatefulSet :=
  { dc.statefulSet r replicas with
    status := some { rolledOut replicas with readyReplicas := some ready } }

/-- A StatefulSet recorded at a generation. -/
def atGeneration (s : StatefulSet) (generation : Int) : StatefulSet :=
  let annotations :=
    (s.metadata.annotations.getD {}).insert generationMark (Text.Decimal.text generation)
  { s with metadata := { s.metadata with annotations := some annotations } }

/-- A task on a DataCenter. -/
def task (name datacenter : String) (spec : TaskSpec) : CassandraTask :=
  { metadata := { name := some name, ns := some ns }, spec := { spec with datacenter } }

end RackOperator.Fixture
