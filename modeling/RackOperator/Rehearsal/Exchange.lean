import RackOperator.Http.Message
import RackOperator.Json.Writer
import RackOperator.Rehearsal.Input
import RackOperator.Reconcile
import RackOperator.Report
import RackOperator.Sidecar.Http
import RackOperator.Store.Api

/-!
# Rehearsing against scripted servers

An `Exchange` is what store and sidecars look like from the wire: a list of
responses still to be handed out by the cluster's API, another by the sidecars,
and the requests that were sent. `Exchange.perform` answers an effect by requests
to them, so the same programs run here as on a store in memory.
-/

namespace RackOperator.Rehearsal

open Json

/-- Scripted servers, and what a program keeps beside them. -/
structure Exchange where
  /-- What the API still answers; `none` breaks the connection. -/
  answers : List (Option Http.Response) := []
  /-- What the API was asked, last first. -/
  asked : List Http.Request := []
  /-- What the sidecars still answer. -/
  sidecarAnswers : List (Option Http.Response) := []
  /-- What the sidecars were asked, last first. -/
  sidecarsAsked : List Http.Request := []
  cache : StatusCache := {}
  registry : Registry := {}
  trail : List AuditEvent := []
  clock : Instant := .ofSeconds 0

namespace Exchange

/-- What a server answers when its responses are used up. -/
def exhausted : Http.Response := { status := 500, body := Text.Utf8.encode "exhausted" }

/-- Ask the API. -/
def askApi (r : Http.Request) : StateM Exchange (Option Http.Response) := fun x =>
  (x.answers.headD (some exhausted), { x with answers := x.answers.tail, asked := r :: x.asked })

/-- Ask a sidecar. -/
def askSidecar (r : Http.Request) : StateM Exchange (Option Http.Response) := fun x =>
  (x.sidecarAnswers.headD (some exhausted),
    { x with sidecarAnswers := x.sidecarAnswers.tail, sidecarsAsked := r :: x.sidecarsAsked })

/-- Carry out a sidecar request of a member. -/
def request (m : Member) (r : SidecarRequest) :
    StateM Exchange (Except OperatorError r.Reply) :=
  match Sidecar.Client.forMember m with
  | .error e => return .error e
  | .ok client => client.call askSidecar r

/-- Answer an effect. Waiting takes no time. -/
def perform : (e : Effect) → StateM Exchange e.Reply
  | .store call => (Api.perform askApi call).run
  | .connect m => return (Sidecar.Client.forMember m).map fun _ => ()
  | .request m r => request m r
  | .requestAll ms r => ms.mapM fun m => request m r
  | .snapshot ms => fun x => (x.cache.snapshot ms, x)
  | .register key ms => fun x => ((), { x with registry := x.registry.insert key ms })
  | .unregister key => fun x => ((), { x with registry := x.registry.erase key })
  | .sleep _ => return ()
  | .audit about entry => fun x =>
    ((), { x with trail := x.trail ++ [entry.event (Text.Rfc3339.precise x.clock) about] })
  | .now => fun x => (x.clock, x)

/-- Run a job to its end; a unit that crashes ends in an error, a job that crashes in nothing. -/
def runJob (job : Program (WorkQueue.Job Action)) :
    StateM Exchange (Option (Except OperatorError Action)) := do
  match ← job.run perform with
  | none => return none
  | some (.settled result) => return some result
  | some (.queued u) =>
    match ← u.work.run perform with
    | none => return some (.error (.unit u.key.text u.description "unit panicked"))
    | some result => return some result

end Exchange

/-- A response as a script gives it: a body that is no text stands for its own text. -/
def responseOfJson (j : Json) : Option Http.Response :=
  if j.has "transport_error" || j.flagOf "drop" then none
  else some
    { status := j.natOr "status" 200
      body := Text.Utf8.encode (match j.get "body" with
        | .str s => s
        | body => if j.has "body" then body.sorted.compact else "") }

/-- The parts of a query. -/
def queryParts (query : String) : List String :=
  ((Http.splitAt (· = '&') query.toList).filter fun part => !part.isEmpty).map String.ofList

/-- A request to the API. -/
def reportAsked (r : Http.Request) : Json :=
  .obj [("method", .str r.method), ("path", .str r.target.path),
    ("query", Report.texts (queryParts r.target.query)),
    ("content_type", ofText? r.contentType), ("body", orNull r.body)]

/-- A request to a sidecar, with the host it went to if so asked. -/
def reportSidecarAsked (withHost : Bool) (r : Http.Request) : Json :=
  let query := if r.target.query = "" then "" else "?" ++ r.target.query
  .obj ([("method", .str r.method), ("path", .str (r.target.path ++ query)),
      ("content_type", ofText? r.contentType), ("body", r.body.getD (.str ""))]
    ++ if withHost then [("host", .str r.host)] else [])

/-- What is asked of an exchange. -/
inductive Errand where
  | store (call : StoreCall)
  | reconcile (job : Program (WorkQueue.Job Action))

namespace Errand

/-- An errand, if its object can be read. -/
def ofJson? (config : Config) (j : Json) : Option Errand :=
  match j.strOf "call" with
  | "reconcile_datacenter" =>
    (DataCenter.decode? (j.get "object")).map fun dc => reconcile (Reconcile.dataCenter config dc)
  | "advance_task" =>
    (CassandraTask.decode? (j.get "object")).map fun t => reconcile (Reconcile.task config t)
  | _ => (StoreCall.ofJson? j).map store

/-- Run an errand and report how it went. -/
def run : Errand → StateM Exchange Json
  | store call => do return Report.result call.reportValue (← Exchange.perform (.store call))
  | reconcile job => do
    match ← Exchange.runJob job with
    | none => return Report.panic
    | some result => return Report.result Action.report result

end Errand

/-- The namespace an errand is about. -/
def namespaceOf (j : Json) : String :=
  j.strOr "namespace" (((j.get "object").get "metadata").strOr "namespace" "default")

/-- The statuses observed before an errand. -/
def observedBefore (j : Json) : StatusCache :=
  (NodeStatus.pairsOfJson (j.get "statuses")).foldl
    (fun cache p => cache.insert ⟨namespaceOf j, p.1⟩ p.2) {}

/-- Run errands one after the other, each with its own responses of the API; the sidecars' go on.
There is no report where the settings of one do not fit. -/
def runErrands? (clock : Instant) (sidecarAnswers : List (Option Http.Response))
    (withSidecars : Bool) : List Json → Option (List Json)
  | [] => some []
  | j :: rest => do
    let config ← Config.ofJson? (j.get "config")
    let x : Exchange :=
      { answers := (j.listOf "responses").map responseOfJson, sidecarAnswers, clock
        cache := observedBefore j }
    let (result, x) := match Errand.ofJson? config j with
      | none => (Report.undecodable, x)
      | some errand => errand.run x
    let others ← runErrands? clock x.sidecarAnswers withSidecars rest
    let sidecars := if withSidecars then
        [("sidecar_requests", Json.arr (x.sidecarsAsked.reverse.map (reportSidecarAsked true)))]
          ++ if x.trail.isEmpty then [] else [("audit", .arr (x.trail.map AuditEvent.report))]
      else []
    return .obj ([("requests", .arr (x.asked.reverse.map reportAsked)), ("result", result)]
      ++ sidecars) :: others

/-- A sidecar request as a script gives it, if its arguments can be read. -/
def SidecarRequest.ofJson? (j : Json) : Option SidecarRequest :=
  let keyspace := text? (j.get "keyspace")
  match j.strOf "do" with
  | "status" => some .status
  | "decommission" => some .decommission
  | "cleanup" => some (.cleanup keyspace)
  | "flush" => some (.flush keyspace)
  | "repair" => some (.repair keyspace)
  | "rebuild" => some (.rebuild (j.strOf "source_dc") keyspace)
  | _ => (BackupArgs.decode? (j.get "args")).map .backup

/-- What a sidecar replied. -/
def reportReply : (r : SidecarRequest) → r.Reply → Json
  | .status, (s : NodeStatus) => s.report
  | .backup _, (b : BackupResponse) =>
    .obj [("response", b.encode), ("is_success", .bool b.isSuccess)]
  | _, _ => .null

/-- Make a sidecar request and report it with what it came to. -/
def reportCall (client : Except OperatorError Sidecar.Client) (withHost : Bool) (j : Json) : Json :=
  match client, SidecarRequest.ofJson? j with
  | .error e, _ => .obj [("request", .null), ("result", e.report)]
  | _, none => .obj [("request", .null), ("result", Report.undecodable)]
  | .ok client, some r =>
    let x : Exchange := { sidecarAnswers := [responseOfJson (j.get "response")] }
    let (result, x) := (client.call Exchange.askSidecar r).run x
    .obj [("request", Report.optional (reportSidecarAsked withHost) x.sidecarsAsked.head?),
      ("result", Report.result (reportReply r) result)]

end RackOperator.Rehearsal
