import RackOperator.Manifest
import RackOperator.Program
import RackOperator.TaskKind

/-!
# Advancing a task

An advance walks the members of a task's DataCenter and asks each sidecar whose
entry is WAITING, storing the task's status around every step. Entries left
RUNNING by an advance that was cut short, and WAITING entries of members that are
gone, fail first. What remains decides the task's phase.
-/

namespace RackOperator.Advance

open Work

/-- Which task is advanced. -/
structure Run where
  config : Config
  key : NamespacedName
  kind : TaskKind
  datacenter : String

/-- Store the status of a task. -/
def persist (key : NamespacedName) (s : TaskStatus) : Work Unit :=
  store (.replaceTaskStatus key.ns key.name s)

/-- The members of every rack that has a StatefulSet, by rack and then ordinal. -/
def members (ns : String) (naming : Naming) : List Rack → Work (List Member)
  | [] => return []
  | r :: rest => do
    let found : Option StatefulSet ← store (.getStatefulSet ns (naming.statefulSetName r))
    let others ← members ns naming rest
    match found with
    | some sts => return naming.members r sts.replicas ++ others
    | none => return others

/-- Why an entry can make no progress any more, if it cannot. -/
def staleReason? (live : List String) (pod : String) : TaskPhase → Option String
  | .running => some "step interrupted"
  | .waiting => if live.contains pod then none else some "member no longer exists"
  | _ => none

/-- The entry of a pod once a stale one has failed. -/
def settled (live : List String) (pod : String) (phase : TaskPhase) : TaskPhase :=
  match staleReason? live pod phase with
  | some _ => .failed
  | none => phase

/-- What is said of the stale entries: of several, the last in the order of pod names. -/
def staleMessage? (live : List String) (pods : Progress) : Option String :=
  (pods.entries.filterMap fun p =>
    (staleReason? live p.1 p.2).map fun reason => p.1 ++ ": " ++ reason).getLast?

/-- Fail the entries that can make no progress any more. -/
def failStale (s : TaskStatus) (ms : List Member) : TaskStatus :=
  let live := ms.map (·.name)
  { s with
    pods := s.pods.mapWithKey (settled live)
    lastMessage := (staleMessage? live s.pods).or s.lastMessage }

/-- Enter how a member's step ended. -/
def record (s : TaskStatus) (m : Member) : Except OperatorError Unit → TaskStatus
  | .ok _ => { s with pods := s.pods.insert m.name .succeed }
  | .error e =>
    { s with
      pods := s.pods.insert m.name .failed
      lastMessage := some (m.name ++ ": " ++ e.message) }

/-- Enter that a member's step begins. -/
def begin (s : TaskStatus) (m : Member) : TaskStatus :=
  { s with pods := s.pods.insert m.name .running }

/-- The phase of a task from its entries: failed if one has failed, running while one is not
settled. -/
def aggregate (pods : Progress) : TaskPhase :=
  if pods.values.any fun p => decide (p = .failed) then .failed
  else if pods.values.any fun p => !p.isTerminal then .running
  else .succeed

/-- Ask one member's sidecar. -/
def step (run : Run) (m : Member) : Program (Except OperatorError Unit) := do
  match ← Program.effect (.connect m) with
  | .error e => return .error e
  | .ok _ =>
    let request := run.kind.request run.key.name run.datacenter m
    let reply : Except OperatorError request.Reply ← Program.effect (.request m request)
    match reply with
    | .error e => return .error e
    | .ok r => return request.verdict m.name r

/-- Walk members one at a time, with a pause in front of each but the first. -/
def walk (run : Run) (pacing : Nat) (failFast : Bool) (paused : Bool) (s : TaskStatus) :
    List Member → Work TaskStatus
  | [] => return s
  | m :: rest => do
    if paused && pacing ≠ 0 then ofProgram (Work.sleep pacing)
    let s := begin s m
    persist run.key s
    let outcome ← ofProgram (step run m)
    let s := record s m outcome
    persist run.key s
    match outcome with
    | .error _ => if failFast then return s else walk run pacing failFast true s rest
    | .ok _ => walk run pacing failFast true s rest

/-- The outcome of a reply to a request that all members got. -/
def judged (request : SidecarRequest) (m : Member) (reply : Except OperatorError request.Reply) :
    Except OperatorError Unit :=
  match reply with
  | .error e => .error e
  | .ok r => request.verdict m.name r

/-- Ask all members at once. A kind that does so asks every member the same. -/
def sweep (run : Run) (s : TaskStatus) : List Member → Work TaskStatus
  | [] => return s
  | m :: rest => do
    let pending := m :: rest
    let s := pending.foldl begin s
    persist run.key s
    let request := run.kind.request run.key.name run.datacenter m
    let replies : List (Except OperatorError request.Reply) ←
      ofProgram (Program.effect (.requestAll pending request))
    let s := (pending.zip replies).foldl (fun s p => record s p.1 (judged request p.1 p.2)) s
    persist run.key s
    return s

/-- Record that a task has ended. -/
def finish (run : Run) (s : TaskStatus) : Work Action := do
  persist run.key s
  audit run.key (.taskFinished run.kind.name s.phase.name s.lastMessage)
  return .after run.config.taskRetention

/-- Fill the progress of a task that has none. -/
def start (run : Run) (ms : List Member) (statuses : StatusSnapshot) (s : TaskStatus) :
    Work TaskStatus := do
  if s.pods.isEmpty then
    let selected := run.kind.select ms statuses
    let t ← timestamp
    let s := { s with
      pods := SortedMap.ofList (selected.map fun m => (m.name, .waiting))
      phase := .running
      startTime := some t }
    persist run.key s
    audit run.key (.taskStarted run.kind.name s.pods.size)
    return s
  else return s

/-- The members whose step is still to be done. -/
def pending (s : TaskStatus) (ms : List Member) : List Member :=
  ms.filter fun m => s.pods.find? m.name = some .waiting

/-- Walk the members and settle the phase. -/
def proceed (run : Run) (dc : DataCenter) (s : TaskStatus) : Work Action := do
  let ms ← members run.key.ns dc.naming (Rack.all dc.spec.racks.toInt.toNat)
  let statuses ← snapshot ms
  let s ← start run ms statuses s
  let s := failStale s ms
  let waiting := pending s ms
  let s ← match run.kind.execution run.config with
    | .sequential pacing failFast => walk run pacing failFast false s waiting
    | .parallel => sweep run s waiting
  let s := { s with phase := aggregate s.pods }
  if s.phase.isTerminal then
    let t ← timestamp
    finish run { s with finishTime := some t }
  else
    persist run.key s
    return .short

/-- Advance the task of a name. -/
def run (config : Config) (key : NamespacedName) : Work Action := do
  let found : Option CassandraTask ← store (.getTask key.ns key.name)
  match found with
  | none => return .done
  | some task =>
    let s := task.status.getD {}
    if s.phase.isTerminal then return .done
    else match TaskKind.ofSpec task.spec with
      | .error reason => throw (.invalidTask key.name reason)
      | .ok kind =>
        let target := task.spec.datacenter
        let dc : Option DataCenter ← store (.getDataCenter key.ns target)
        match dc with
        | none =>
          let message := "datacenter " ++ target ++ " not found"
          if s.lastMessage ≠ some message then
            persist key { s with lastMessage := some message }
          return .medium
        | some dc =>
          let run : Run := { config, key, kind, datacenter := target }
          match kind.fault? with
          | some reason =>
            let t ← timestamp
            finish run { s with
              phase := .failed, lastMessage := some reason, finishTime := some t }
          | none => proceed run dc s

end RackOperator.Advance
