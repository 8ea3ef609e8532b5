import RackOperator.Resource.PodShape
import RackOperator.Resource.Metadata

/-!
# StatefulSets and Services

A rack is one StatefulSet. Its replica count and its status are what decisions
are made from; the rest of its spec is kept as it was read. `setReplicas` changes
the count and nothing else.
-/

namespace RackOperator

open Json ObjectMeta
open Shape (may must)

/-- What a StatefulSet asks for: its replica count, and all else as it is written. -/
structure StatefulSetSpec where
  replicas : Option Int32
  rest : List (String × Json)

/-- What the cluster reports of a StatefulSet. -/
structure StatefulSetStatus where
  availableReplicas : Option Int32 := none
  collisionCount : Option Int32 := none
  conditions : Option (List Json) := none
  currentReplicas : Option Int32 := none
  currentRevision : Option String := none
  observedGeneration : Option Int64 := none
  readyReplicas : Option Int32 := none
  replicas : Int32 := 0
  updateRevision : Option String := none
  updatedReplicas : Option Int32 := none

/-- The pods of one rack. -/
structure StatefulSet where
  metadata : ObjectMeta := {}
  spec : Option StatefulSetSpec := none
  status : Option StatefulSetStatus := none
deriving Inhabited

/-- Whether every field of a name holds a given text. -/
def states (name word : String) (fields : List (String × Json)) : Bool :=
  (occurrences name fields).all fun
    | .str s => s = word
    | _ => false

namespace StatefulSetSpec

/-- A spec out of an object. -/
def decode? : Json → Option StatefulSetSpec
  | .obj fields => do
    return {
      replicas := ← lastGiven? int32? "replicas" fields
      rest := ← Shape.normalFields? Shape.statefulSetSpec fields }
  | _ => none

/-- A spec as an object. -/
def encode (s : StatefulSetSpec) : Json :=
  .obj (omitNone "replicas" (s.replicas.map ofInt32) ++ s.rest)

end StatefulSetSpec

namespace StatefulSetStatus

/-- A status out of an object. -/
def decode? : Json → Option StatefulSetStatus
  | .obj fields => do
    return {
      availableReplicas := ← lastGiven? int32? "availableReplicas" fields
      collisionCount := ← lastGiven? int32? "collisionCount" fields
      conditions := ← lastGiven? (list? Shape.condition.normal?) "conditions" fields
      currentReplicas := ← lastGiven? int32? "currentReplicas" fields
      currentRevision := ← lastGiven? text? "currentRevision" fields
      observedGeneration := ← lastGiven? int64? "observedGeneration" fields
      readyReplicas := ← lastGiven? int32? "readyReplicas" fields
      replicas := (← lastGiven? int32? "replicas" fields).getD 0
      updateRevision := ← lastGiven? text? "updateRevision" fields
      updatedReplicas := ← lastGiven? int32? "updatedReplicas" fields }
  | _ => none

/-- A status as an object. -/
def encode (s : StatefulSetStatus) : Json :=
  .obj (omitNone "availableReplicas" (s.availableReplicas.map ofInt32)
    ++ omitNone "collisionCount" (s.collisionCount.map ofInt32)
    ++ omitNone "conditions" (s.conditions.map .arr)
    ++ omitNone "currentReplicas" (s.currentReplicas.map ofInt32)
    ++ omitNone "currentRevision" (s.currentRevision.map .str)
    ++ omitNone "observedGeneration" (s.observedGeneration.map ofInt64)
    ++ omitNone "readyReplicas" (s.readyReplicas.map ofInt32)
    ++ [("replicas", ofInt32 s.replicas)]
    ++ omitNone "updateRevision" (s.updateRevision.map .str)
    ++ omitNone "updatedReplicas" (s.updatedReplicas.map ofInt32))

end StatefulSetStatus

namespace StatefulSet

/-- A StatefulSet out of an object; a given version and kind must be its own. -/
def decode? : Json → Option StatefulSet
  | .obj fields => do
    if states "apiVersion" "apps/v1" fields && states "kind" "StatefulSet" fields then
      return {
        metadata := (← lastGiven? ObjectMeta.decode? "metadata" fields).getD {}
        spec := ← lastGiven? StatefulSetSpec.decode? "spec" fields
        status := ← lastGiven? StatefulSetStatus.decode? "status" fields }
    else none
  | _ => none

/-- A StatefulSet as an object. -/
def encode (s : StatefulSet) : Json :=
  .obj ([("apiVersion", .str "apps/v1"), ("kind", .str "StatefulSet"),
      ("metadata", s.metadata.encode)]
    ++ omitNone "spec" (s.spec.map StatefulSetSpec.encode)
    ++ omitNone "status" (s.status.map StatefulSetStatus.encode))

/-- The replica count asked for, zero when there is none. -/
def replicas32 (s : StatefulSet) : Int32 := (s.spec.bind (·.replicas)).getD 0

/-- The replica count asked for as a number. -/
def replicas (s : StatefulSet) : Int := s.replicas32.toInt

/-- Ask for another replica count; a StatefulSet without a spec stays as it is. -/
def setReplicas (s : StatefulSet) (n : Int32) : StatefulSet :=
  { s with spec := s.spec.map fun spec => { spec with replicas := some n } }

/-- Whether the StatefulSet has finished converging on its own spec: the replicas, ready and
current ones all match it, and no rollout of a revision is under way. -/
def isReady (s : StatefulSet) : Bool :=
  match s.status with
  | none => s.replicas32 == 0
  | some status =>
    let rolledOut := match status.updateRevision with
      | none => true
      | some update => update == "" || status.currentRevision == some update
    status.replicas == s.replicas32 && status.readyReplicas.getD 0 == s.replicas32
      && status.currentReplicas.getD 0 == s.replicas32 && rolledOut

end StatefulSet

/-- The network name behind which a DataCenter's pods are found. -/
structure Service where
  metadata : ObjectMeta := {}
  spec : Option Json := none
  status : Option Json := none
deriving Inhabited

namespace Service

/-- A Service out of an object; a given version and kind must be its own. -/
def decode? : Json → Option Service
  | .obj fields => do
    if states "apiVersion" "v1" fields && states "kind" "Service" fields then
      return {
        metadata := (← lastGiven? ObjectMeta.decode? "metadata" fields).getD {}
        spec := ← lastGiven? Shape.serviceSpec.normal? "spec" fields
        status := ← lastGiven? Shape.serviceStatus.normal? "status" fields }
    else none
  | _ => none

/-- A Service as an object. -/
def encode (s : Service) : Json :=
  .obj ([("apiVersion", .str "v1"), ("kind", .str "Service"), ("metadata", s.metadata.encode)]
    ++ omitNone "spec" s.spec ++ omitNone "status" s.status)

end Service

end RackOperator
