import RackOperator.TaskKind
import RackOperator.Text.Decimal

/-!
# Admission

`DataCenter.fault?` and `CassandraTask.fault?` say what makes a resource
inadmissible; for an update of a DataCenter that includes the fields that must
not change. A review answers a request about one object: creations and updates
are checked, everything else is allowed.
-/

namespace RackOperator

open Json Text

/-- What is wrong with a task, if anything: it needs a target and exactly one operation. -/
def CassandraTask.fault? (t : CassandraTask) : Option String :=
  if isAllBlank t.spec.datacenter then some "spec.datacenter must name a DataCenter"
  else match TaskKind.ofSpec t.spec with
    | .error reason => some reason
    | .ok _ => none

namespace DataCenter

/-- What is wrong with a spec by itself, if anything. -/
def specFault? (s : DataCenterSpec) : Option String :=
  if isAllBlank s.clusterName then some "spec.clusterName must not be empty"
  else if isAllBlank s.datacenterName then some "spec.datacenterName must not be empty"
  else if s.replicas.toInt < 0 then
    some ("spec.replicas must be >= 0, got " ++ Decimal.text s.replicas.toInt)
  else if s.racks.toInt < 1 then
    some ("spec.racks must be >= 1, got " ++ Decimal.text s.racks.toInt)
  else none

/-- What an update changes that must not change, if anything. -/
def changeFault? (old new : DataCenterSpec) : Option String :=
  if old.racks ≠ new.racks then
    some ("spec.racks is immutable (" ++ Decimal.text old.racks.toInt ++ " -> "
      ++ Decimal.text new.racks.toInt ++ ")")
  else if old.clusterName ≠ new.clusterName then some "spec.clusterName is immutable"
  else if old.datacenterName ≠ new.datacenterName then some "spec.datacenterName is immutable"
  else none

/-- What is wrong with a DataCenter, or with its change from an old version. -/
def fault? (dc : DataCenter) (old : Option DataCenter) : Option String :=
  (specFault? dc.spec).or (old.bind fun o => changeFault? o.spec dc.spec)

end DataCenter

/-- Why a request was rejected. -/
structure AdmissionStatus where
  code : Int32
  message : String
deriving DecidableEq

namespace AdmissionStatus

/-- A rejection out of a record. -/
def decode? (j : Json) : Option AdmissionStatus := do
  let [code, message] ← slots? ["code", "message"] j | none
  return { code := ← required int32? code, message := ← required text? message }

/-- A rejection as an object. -/
def encode (s : AdmissionStatus) : Json :=
  .obj [("code", ofInt32 s.code), ("message", .str s.message)]

end AdmissionStatus

/-- The answer to a request. -/
structure AdmissionResponse where
  uid : String
  allowed : Bool
  status : Option AdmissionStatus := none
deriving DecidableEq

namespace AdmissionResponse

/-- An answer out of a record. -/
def decode? (j : Json) : Option AdmissionResponse := do
  let [uid, allowed, status] ← slots? ["uid", "allowed", "status"] j | none
  return {
    uid := ← required text? uid
    allowed := ← required bool? allowed
    status := ← optional AdmissionStatus.decode? status }

/-- An answer as an object. -/
def encode (r : AdmissionResponse) : Json :=
  .obj ([("uid", .str r.uid), ("allowed", .bool r.allowed)]
    ++ omitNone "status" (r.status.map AdmissionStatus.encode))

/-- Allowed unless something is wrong. -/
def of (uid : String) : Option String → AdmissionResponse
  | none => { uid, allowed := true }
  | some message => { uid, allowed := false, status := some { code := 422, message } }

end AdmissionResponse

/-- A request about one object. -/
structure AdmissionRequest (α : Type) where
  uid : String
  operation : String
  object : Option α := none
  oldObject : Option α := none

namespace AdmissionRequest

variable {α : Type}

/-- A request out of a record, given how its objects are read. -/
def decode? (read : Json → Option α) (j : Json) : Option (AdmissionRequest α) := do
  let [uid, operation, object, oldObject] ←
    slots? ["uid", "operation", "object", "oldObject"] j | none
  return {
    uid := ← required text? uid
    operation := ← required text? operation
    object := ← optional read object
    oldObject := ← optional read oldObject }

/-- A request as an object, given how its objects are written. -/
def encode (write : α → Json) (r : AdmissionRequest α) : Json :=
  .obj ([("uid", .str r.uid), ("operation", .str r.operation)]
    ++ omitNone "object" (r.object.map write) ++ omitNone "oldObject" (r.oldObject.map write))

/-- Answer a request about a DataCenter. -/
def reviewDataCenter (r : AdmissionRequest DataCenter) : AdmissionResponse :=
  match r.object with
  | none => .of r.uid none
  | some dc =>
    if r.operation = "CREATE" then .of r.uid (dc.fault? none)
    else if r.operation = "UPDATE" then .of r.uid (dc.fault? r.oldObject)
    else .of r.uid none

/-- Answer a request about a task. -/
def reviewTask (r : AdmissionRequest CassandraTask) : AdmissionResponse :=
  match r.object with
  | none => .of r.uid none
  | some t =>
    if r.operation = "CREATE" ∨ r.operation = "UPDATE" then .of r.uid t.fault?
    else .of r.uid none

end AdmissionRequest

/-- The envelope of a request and its answer. -/
structure AdmissionReview (α : Type) where
  apiVersion : String := "admission.k8s.io/v1"
  kind : String := "AdmissionReview"
  request : Option (AdmissionRequest α) := none
  response : Option AdmissionResponse := none

namespace AdmissionReview

variable {α : Type}

/-- An envelope out of a record, given how objects are read. -/
def decode? (read : Json → Option α) (j : Json) : Option (AdmissionReview α) := do
  let [apiVersion, kind, request, response] ←
    slots? ["apiVersion", "kind", "request", "response"] j | none
  return {
    apiVersion := ← withDefault "admission.k8s.io/v1" text? apiVersion
    kind := ← withDefault "AdmissionReview" text? kind
    request := ← optional (AdmissionRequest.decode? read) request
    response := ← optional AdmissionResponse.decode? response }

/-- An envelope as an object, given how objects are written. -/
def encode (write : α → Json) (r : AdmissionReview α) : Json :=
  .obj ([("apiVersion", .str r.apiVersion), ("kind", .str r.kind)]
    ++ omitNone "request" (r.request.map (AdmissionRequest.encode write))
    ++ omitNone "response" (r.response.map AdmissionResponse.encode))

end AdmissionReview

end RackOperator
