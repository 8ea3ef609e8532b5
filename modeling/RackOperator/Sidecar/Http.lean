import RackOperator.Http.Status
import RackOperator.Http.Url
import RackOperator.Json.Reader
import RackOperator.Sidecar.Client
import RackOperator.Sidecar.Request

/-!
# Sidecars over HTTP

How a sidecar request is sent and what its response says. The status is fetched;
every other operation is posted with its arguments in JSON. A response of any
status but success is an error that quotes its body.
-/

namespace RackOperator

open Json

namespace SidecarRequest

/-- The path below a sidecar's base URL. -/
def path : SidecarRequest → String
  | status => "status"
  | backup _ => "backups"
  | r => "operations/" ++ r.operation

/-- What is posted; nothing where the request only fetches. -/
def body? : SidecarRequest → Option Json
  | status => none
  | decommission => some (.obj [])
  | cleanup keyspace => some (.obj (omitNone "keyspace" (keyspace.map .str)))
  | flush keyspace => some (.obj (omitNone "keyspace" (keyspace.map .str)))
  | repair keyspace => some (.obj (omitNone "keyspace" (keyspace.map .str)))
  | backup args => some args.encode
  | rebuild sourceDc keyspace =>
    some (.obj ([("sourceDc", .str sourceDc)] ++ omitNone "keyspace" (keyspace.map .str)))

/-- The status a sidecar reports. -/
def status? (j : Json) : Option NodeStatus := do
  let [given] ← slots? ["nodeStatus"] j | none
  required Tagged.decode? given

/-- What a successful response says; where nothing is asked back, its body does not matter. -/
def reply? (content : List UInt8) : (r : SidecarRequest) → Option r.Reply
  | status => (parse? content).bind status?
  | backup _ => (parse? content).bind BackupResponse.decode?
  | decommission => some ()
  | cleanup _ => some ()
  | flush _ => some ()
  | repair _ => some ()
  | rebuild .. => some ()

/-- What a response comes to; `none` is a connection that broke. -/
def outcome (pod : String) (r : SidecarRequest) :
    Option Http.Response → Except OperatorError r.Reply
  | none => .error (.sidecar pod r.operation "error sending request")
  | some response =>
    if response.isSuccess then
      match reply? response.content r with
      | some reply => .ok reply
      | none => .error (.sidecar pod r.operation "error decoding response body")
    else .error (.sidecar pod r.operation ("HTTP " ++ Http.statusText response.status ++ ": "
      ++ Text.Utf8.decodeLossy response.content))

end SidecarRequest

namespace Sidecar.Client

/-- The URL of a path below the base URL. -/
def url (c : Client) (path : String) : String :=
  String.ofList (c.baseUrl.toList.reverse.dropWhile (· = '/')).reverse ++ "/" ++ path

/-- A sidecar request as it is sent, if its URL can be read. -/
def request? (c : Client) (r : SidecarRequest) : Option Http.Request :=
  (Http.Url.ofText? (c.url r.path)).map fun url =>
    { method := if r.body?.isSome then "POST" else "GET"
      target := url.target
      host := url.host
      contentType := r.body?.map fun _ => "application/json"
      body := r.body? }

/-- Send a sidecar request and read the response. -/
def call {m : Type → Type} [Monad m] (send : Http.Request → m (Option Http.Response))
    (c : Client) (r : SidecarRequest) : m (Except OperatorError r.Reply) :=
  match c.request? r with
  | none => return .error (.sidecar c.pod r.operation "builder error")
  | some request => do
    let response ← send request
    return r.outcome c.pod response

end Sidecar.Client

end RackOperator
