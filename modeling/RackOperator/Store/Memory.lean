import RackOperator.Store.Call
import RackOperator.Text.Decimal

/-!
# A store in memory

`MemoryStore` keeps objects by namespace and name and a journal of every change,
oldest first. `MemoryStore.perform` carries out one operation: an object written
gets the next resource version, a StatefulSet or task that existed keeps its
stored status, and an operation that fails changes nothing but the count of
status writes still to be refused.
-/

namespace RackOperator

/-- One change of the store. -/
inductive Mutation where
  | createStatefulSet (name : String) (replicas : Int)
  | replaceStatefulSet (name : String) (replicas : Int)
  | createService (name : String)
  | dataCenterStatus (name : String) (status : DataCenterStatus)
  | createTask (name : String)
  | deleteTask (name : String)
  | taskStatus (name : String) (status : TaskStatus)
deriving DecidableEq

/-- Whether a change wrote a StatefulSet. -/
def Mutation.isStatefulSetWrite : Mutation → Bool
  | createStatefulSet .. => true
  | replaceStatefulSet .. => true
  | _ => false

/-- Objects by namespace and name, and the journal of changes. -/
structure MemoryStore where
  statefulSets : SortedMap NamespacedName StatefulSet := {}
  services : SortedMap NamespacedName Service := {}
  dataCenters : SortedMap NamespacedName DataCenter := {}
  tasks : SortedMap NamespacedName CassandraTask := {}
  journal : List Mutation := []
  lastVersion : Nat := 0
  refusedStatusWrites : Nat := 0
deriving Inhabited

namespace MemoryStore

/-- Put a DataCenter in without a journal entry. -/
def seedDataCenter (s : MemoryStore) (dc : DataCenter) : MemoryStore :=
  { s with dataCenters := s.dataCenters.insert dc.metadata.key dc }

/-- Put a StatefulSet in without a journal entry. -/
def seedStatefulSet (s : MemoryStore) (sts : StatefulSet) : MemoryStore :=
  { s with statefulSets := s.statefulSets.insert sts.metadata.key sts }

/-- Put a task in without a journal entry. -/
def seedTask (s : MemoryStore) (t : CassandraTask) : MemoryStore :=
  { s with tasks := s.tasks.insert t.metadata.key t }

/-- The next resource version. -/
def nextVersion (s : MemoryStore) : String := Text.Decimal.natText (s.lastVersion + 1)

/-- Metadata as stored by a write into a namespace. -/
def stamped (s : MemoryStore) (ns : String) (m : ObjectMeta) : ObjectMeta :=
  { m with ns := some ns, resourceVersion := some s.nextVersion }

/-- Store a StatefulSet under its name and journal it. -/
def writeStatefulSet (s : MemoryStore) (ns : String) (sts : StatefulSet)
    (status : Option StatefulSetStatus) (entry : Mutation) : StatefulSet × MemoryStore :=
  let stored := { sts with metadata := s.stamped ns sts.metadata, status }
  (stored, { s with
    statefulSets := s.statefulSets.insert ⟨ns, sts.metadata.anyName⟩ stored
    journal := s.journal ++ [entry]
    lastVersion := s.lastVersion + 1 })

/-- The answer to a status write that comes too late. -/
def conflict (name : String) : OperatorError :=
  .api { code := 409, reason := "Conflict",
         message := "the object " ++ name ++ " has been modified" }

/-- Carry out one operation. -/
def perform (s : MemoryStore) : (c : StoreCall) → Except OperatorError c.Value × MemoryStore
  | .getStatefulSet ns name => (.ok (s.statefulSets.find? ⟨ns, name⟩), s)
  | .createStatefulSet ns sts =>
    let name := sts.metadata.anyName
    let (stored, s) := match s.statefulSets.find? ⟨ns, name⟩ with
      | some existing =>
        s.writeStatefulSet ns sts existing.status (.replaceStatefulSet name sts.replicas)
      | none => s.writeStatefulSet ns sts sts.status (.createStatefulSet name sts.replicas)
    (.ok stored, s)
  | .replaceStatefulSet ns sts =>
    let name := sts.metadata.anyName
    match s.statefulSets.find? ⟨ns, name⟩ with
    | none => (.error (.notFound "StatefulSet" name ns), s)
    | some existing =>
      let (stored, s) :=
        s.writeStatefulSet ns sts existing.status (.replaceStatefulSet name sts.replicas)
      (.ok stored, s)
  | .ensureService ns service =>
    let name := service.metadata.anyName
    if s.services.contains ⟨ns, name⟩ then (.ok (), s)
    else (.ok (), { s with
      services := s.services.insert ⟨ns, name⟩ service
      journal := s.journal ++ [.createService name] })
  | .getDataCenter ns name => (.ok (s.dataCenters.find? ⟨ns, name⟩), s)
  | .replaceDataCenterStatus ns name status =>
    if 0 < s.refusedStatusWrites then
      (.error (conflict name), { s with refusedStatusWrites := s.refusedStatusWrites - 1 })
    else match s.dataCenters.find? ⟨ns, name⟩ with
      | none => (.error (.notFound "DataCenter" name ns), s)
      | some dc => (.ok (), { s with
        dataCenters := s.dataCenters.insert ⟨ns, name⟩ { dc with status := some status }
        journal := s.journal ++ [.dataCenterStatus name status] })
  | .getTask ns name => (.ok (s.tasks.find? ⟨ns, name⟩), s)
  | .createTask ns task =>
    let name := task.metadata.anyName
    let status := match s.tasks.find? ⟨ns, name⟩ with
      | some existing => existing.status
      | none => task.status
    let stored := { task with metadata := s.stamped ns task.metadata, status }
    (.ok stored, { s with
      tasks := s.tasks.insert ⟨ns, name⟩ stored
      journal := s.journal ++ [.createTask name]
      lastVersion := s.lastVersion + 1 })
  | .deleteTask ns name =>
    if s.tasks.contains ⟨ns, name⟩ then
      (.ok (), { s with
        tasks := s.tasks.erase ⟨ns, name⟩
        journal := s.journal ++ [.deleteTask name] })
    else (.ok (), s)
  | .replaceTaskStatus ns name status =>
    match s.tasks.find? ⟨ns, name⟩ with
    | none => (.error (.notFound "CassandraTask" name ns), s)
    | some t => (.ok (), { s with
      tasks := s.tasks.insert ⟨ns, name⟩ { t with status := some status }
      journal := s.journal ++ [.taskStatus name status] })

end MemoryStore

end RackOperator
