import RackOperator.Error
import RackOperator.Naming
import RackOperator.Sidecar.Request

/-!
# Scripted sidecars

A `Script` answers for every sidecar: which statuses they report, which
operations fail how often, how long an answer takes. It keeps a record of every
call that was answered and of how many were under way at once. A call begins with
`begin`; `finish` answers it when its time has come. A call given up in between
stays under way.
-/

namespace RackOperator.Sidecar

/-- One answered call: the pod, the operation and its argument. -/
structure Call where
  pod : String
  operation : String
  argument : Option String
deriving DecidableEq, Repr

/-- How often an operation of a pod fails from now on; `none` is for ever. -/
structure Failure where
  pod : String
  operation : String
  times : Option Nat
deriving DecidableEq, Repr

/-- What all sidecars answer, and what they were asked. -/
structure Script where
  statuses : SortedMap String NodeStatus := {}
  failures : List Failure := []
  backupStatuses : SortedMap String String := {}
  decommissionCompletes : Bool := false
  /-- Milliseconds an answer takes. -/
  latency : Nat := 0
  /-- Pods no client can be had for. -/
  unreachable : List String := []
  calls : List Call := []
  invalidated : List String := []
  underWay : Nat := 0
  mostUnderWay : Nat := 0

namespace Script

/-- Have an operation of a pod fail from now on. -/
def fail (s : Script) (f : Failure) : Script :=
  { s with failures := f :: s.failures.filter fun g => g.pod ≠ f.pod || g.operation ≠ f.operation }

/-- Whether an operation of a pod fails now, and the failures left. -/
def drawFailure (pod operation : String) : List Failure → Bool × List Failure
  | [] => (false, [])
  | f :: rest =>
    if f.pod = pod ∧ f.operation = operation then
      match f.times with
      | none => (true, f :: rest)
      | some 0 => (false, f :: rest)
      | some (n + 1) => (true, { f with times := some n } :: rest)
    else
      let (fails, rest) := drawFailure pod operation rest
      (fails, f :: rest)

/-- The argument of a request as it is recorded. -/
def argument : SidecarRequest → Option String
  | .cleanup keyspace => keyspace
  | .flush keyspace => keyspace
  | .repair keyspace => keyspace
  | .backup args => some args.snapshotTag
  | .rebuild sourceDc _ => some sourceDc
  | _ => none

/-- Get hold of a pod's sidecar. -/
def connect (s : Script) (pod : String) : Except OperatorError Unit :=
  if s.unreachable.contains pod then .error (.invalidConfig ("no client for " ++ pod)) else .ok ()

/-- Begin a number of calls. Calls that take no time are never under way together. -/
def begin (s : Script) (count : Nat) : Script :=
  let together := if s.latency = 0 then min count 1 else count
  { s with
    underWay := s.underWay + count
    mostUnderWay := max s.mostUnderWay (s.underWay + together) }

/-- Record a call and say whether it fails. -/
def settle (s : Script) (pod : String) (r : SidecarRequest) : Bool × Script :=
  let (fails, failures) := drawFailure pod r.operation s.failures
  (fails, { s with
    failures, calls := s.calls ++ [⟨pod, r.operation, argument r⟩], underWay := s.underWay - 1 })

/-- The reply to a request that did not fail. -/
def reply (s : Script) (pod : String) :
    (r : SidecarRequest) → Except OperatorError r.Reply × Script
  | .status =>
    match s.statuses.find? pod with
    | some status => (.ok status, s)
    | none => (.error (.sidecar pod "status" "unreachable"), s)
  | .decommission =>
    (.ok (), if s.decommissionCompletes then
      { s with statuses := s.statuses.insert pod .decommissioned } else s)
  | .backup _ => (.ok { status := (s.backupStatuses.find? pod).getD "success" }, s)
  | .cleanup _ => (.ok (), s)
  | .flush _ => (.ok (), s)
  | .repair _ => (.ok (), s)
  | .rebuild .. => (.ok (), s)

/-- Answer a call. -/
def finish (s : Script) (pod : String) (r : SidecarRequest) :
    Except OperatorError r.Reply × Script :=
  let (fails, s) := s.settle pod r
  if fails then (.error (.sidecar pod r.operation "scripted failure"), s) else s.reply pod r

end Script

end RackOperator.Sidecar
