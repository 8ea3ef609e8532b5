import RackOperator.Http.Status
import RackOperator.Http.Url
import RackOperator.Json.Reader
import RackOperator.Store.Call
import RackOperator.Store.Patch
import RackOperator.Text.Quoted

/-!
# The store behind the cluster's API

`Api.perform` carries out a store operation by requests to the cluster's API. An
object that exists already is replaced, at the version it is found in; a status
is written by a merge patch of the status alone. A response of a failing status
is the error its body describes.
-/

namespace RackOperator.Api

open Json

/-- Where the objects of a kind are found. -/
structure Collection where
  version : String
  plural : String

/-- StatefulSets. -/
def statefulSets : Collection := ⟨"/apis/apps/v1", "statefulsets"⟩

/-- Services. -/
def services : Collection := ⟨"/api/v1", "services"⟩

/-- DataCenters. -/
def dataCenters : Collection := ⟨"/apis/cassandra.operator.io/v1", "datacenters"⟩

/-- Tasks. -/
def tasks : Collection := ⟨"/apis/cassandra.operator.io/v1", "cassandratasks"⟩

/-- The objects of a kind in a namespace. -/
def Collection.url (c : Collection) (ns : String) : String :=
  c.version ++ "/namespaces/" ++ ns ++ "/" ++ c.plural

/-- The error a body describes. -/
def described? (j : Json) : Option ApiError := do
  let [status, message, reason, code] ← slots? ["status", "message", "reason", "code"] j | none
  return {
    status := ← required text? status
    message := ← withDefault "" text? message
    reason := ← withDefault "" text? reason
    code := ← required nat16? code }

/-- The error of a failing response: what its body describes, or else the body itself. -/
def errorOf (status : Nat) (body : String) : ApiError :=
  ((parseText? body).bind described?).getD
    { status := Http.statusText status, code := status, message := Text.quoted body,
      reason := "Failed to parse error data" }

/-- The text of a response that does not fail. -/
def textOf (r : Http.Response) : Except OperatorError String :=
  match Text.Utf8.decode? r.body with
  | none => .error (.transport "response is not UTF-8")
  | some body => if r.isFailure then .error (.api (errorOf r.status body)) else .ok body

/-- The object a text spells. -/
def objectOf {α : Type} (read : Json → Option α) (body : String) : Except OperatorError α :=
  match (parseText? body).bind read with
  | some a => .ok a
  | none => .error (.transport "response cannot be read")

/-- A record of texts, any of which may be left out. -/
def texts? (names : List String) (j : Json) : Option Unit := do
  let slots ← slots? names j
  let _ ← slots.mapM (withDefault "" text?)

/-- What the account of an operation says of the object it was about. -/
def detail? (j : Json) : Option Unit := do
  let [name, group, kind, uid, causes, retry] ←
    slots? ["name", "group", "kind", "uid", "causes", "retryAfterSeconds"] j | none
  let _ ← [name, group, kind, uid].mapM (withDefault "" text?)
  let _ ← withDefault [] (list? (texts? ["reason", "message", "field"])) causes
  let _ ← withDefault 0 (int? 0 4294967295) retry

/-- The account of an operation that a deletion may be answered with. -/
def account? (j : Json) : Option Unit := do
  let [status, code, message, reason, details] ←
    slots? ["status", "code", "message", "reason", "details"] j | none
  let _ ← optionalTail (tag? [("Success", ()), ("Failure", ())]) status
  let _ ← withDefault 0 nat16? code
  let _ ← [message, reason].mapM (withDefault "" text?)
  let _ ← optionalTail detail? details

/-- Whether a deletion's answer can be read: the object, or an account of the operation. -/
def deleted? (j : Json) : Option Unit :=
  if j.wellFormed then
    if j.field? "kind" matches some (.str "Status") then account? j
    else (CassandraTask.decode? j).map fun _ => ()
  else none

/-- Whether an error says that the object is not there. -/
def isMissing : OperatorError → Bool
  | .api e => e.code == 404
  | _ => false

/-- Whether an error says that the object is there already, or in another version. -/
def isConflict : OperatorError → Bool
  | .api e => e.code == 409
  | _ => false

section

variable {m : Type → Type} [Monad m] (send : Http.Request → m (Option Http.Response))

/-- Send a request and read the response. A URL with a character that may not stand there is not
sent. -/
def ask {α : Type} (method url : String) (contentType : Option String) (body : Option Json)
    (read : Json → Option α) : ExceptT OperatorError m α := do
  match Http.Target.ofText? url with
  | none => throw (.transport "invalid uri character")
  | some target =>
    let response ← ExceptT.lift (send { method, target, contentType, body })
    match response with
    | none => throw (.transport "no response")
    | some response => ExceptT.mk (pure ((textOf response).bind (objectOf read)))

/-- Ask about one object; an empty name is not sent. -/
def askNamed {α : Type} (method : String) (c : Collection) (ns name behind : String)
    (contentType : Option String) (body : Option Json) (read : Json → Option α) :
    ExceptT OperatorError m α :=
  if name = "" then throw (.transport "a non-empty name is required")
  else ask send method (c.url ns ++ "/" ++ name ++ behind) contentType body read

/-- Fetch an object. -/
def fetch {α : Type} (c : Collection) (ns name : String) (read : Json → Option α) :
    ExceptT OperatorError m α :=
  askNamed send "GET" c ns name "?" none none read

/-- Fetch an object that may not be there. -/
def find {α : Type} (c : Collection) (ns name : String) (read : Json → Option α) :
    ExceptT OperatorError m (Option α) :=
  tryCatch (some <$> fetch send c ns name read) fun e =>
    if isMissing e then pure none else throw e

/-- Create an object. -/
def create {α : Type} (c : Collection) (ns : String) (body : Json) (read : Json → Option α) :
    ExceptT OperatorError m α :=
  ask send "POST" (c.url ns ++ "?") (some "application/json") (some body) read

/-- Put an object in place of the one of its name. -/
def replace {α : Type} (c : Collection) (ns name : String) (body : Json) (read : Json → Option α) :
    ExceptT OperatorError m α :=
  askNamed send "PUT" c ns name "?" (some "application/json") (some body) read

/-- Replace a StatefulSet at the version it is found in; its status is not sent. -/
def replaceStatefulSet (ns : String) (sts : StatefulSet) : ExceptT OperatorError m StatefulSet := do
  let name := sts.metadata.anyName
  let current ← tryCatch (fetch send statefulSets ns name StatefulSet.decode?) fun e =>
    throw (if isMissing e then .notFound "StatefulSet" name ns else e)
  let metadata := { sts.metadata with resourceVersion := current.metadata.resourceVersion }
  replace send statefulSets ns name ({ sts with metadata, status := none } : StatefulSet).encode
    StatefulSet.decode?

/-- Replace a task at the version it is found in. -/
def replaceTask (ns : String) (t : CassandraTask) : ExceptT OperatorError m CassandraTask := do
  let name := t.metadata.anyName
  let current ← fetch send tasks ns name CassandraTask.decode?
  let metadata := { t.metadata with resourceVersion := current.metadata.resourceVersion }
  replace send tasks ns name ({ t with metadata } : CassandraTask).encode CassandraTask.decode?

/-- Write a status by a merge patch. -/
def patchStatus {α : Type} (c : Collection) (kind ns name : String) (patch : Json)
    (read : Json → Option α) : ExceptT OperatorError m Unit :=
  tryCatch (do
    let _ ← askNamed send "PATCH" c ns name "/status?fieldManager=cassandra-operator"
      (some "application/merge-patch+json") (some patch) read) fun e =>
    throw (if isMissing e then .notFound kind name ns else e)

/-- Carry out a store operation. -/
def perform : (c : StoreCall) → ExceptT OperatorError m c.Value
  | .getStatefulSet ns name => find send statefulSets ns name StatefulSet.decode?
  | .createStatefulSet ns sts =>
    tryCatch (create send statefulSets ns sts.encode StatefulSet.decode?) fun e =>
      if isConflict e then replaceStatefulSet send ns sts else throw e
  | .replaceStatefulSet ns sts => replaceStatefulSet send ns sts
  | .ensureService ns service =>
    tryCatch (do let _ ← create send services ns service.encode Service.decode?) fun e =>
      if isConflict e then pure () else throw e
  | .getDataCenter ns name => find send dataCenters ns name DataCenter.decode?
  | .replaceDataCenterStatus ns name status =>
    patchStatus send dataCenters "DataCenter" ns name status.patch DataCenter.decode?
  | .getTask ns name => find send tasks ns name CassandraTask.decode?
  | .createTask ns task =>
    tryCatch (create send tasks ns task.encode CassandraTask.decode?) fun e =>
      if isConflict e then replaceTask send ns task else throw e
  | .deleteTask ns name =>
    tryCatch (askNamed send "DELETE" tasks ns name "?" (some "application/json") (some (.obj []))
      deleted?) fun e => if isMissing e then pure () else throw e
  | .replaceTaskStatus ns name status =>
    patchStatus send tasks "CassandraTask" ns name status.patch CassandraTask.decode?

end

end RackOperator.Api
