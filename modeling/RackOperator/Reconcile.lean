import RackOperator.Advance
import RackOperator.Pass
import RackOperator.WorkQueue.Job

/-!
# Reconciling resources

To reconcile a DataCenter or a task is to settle it at once or to put a unit of
work in line behind all other work on the same DataCenter. A resource being
deleted is settled; so are a task that has ended, which is deleted once it is
older than the retention, and a task whose spec fills no slot or several.
-/

namespace RackOperator.Reconcile

open Work
open WorkQueue (Job)

/-- Reconcile a DataCenter. -/
def dataCenter (config : Config) (dc : DataCenter) : Program (Job Action) :=
  match dc.metadata.ns with
  | none => return .settled (.error (.invalidConfig "DataCenter must be namespaced"))
  | some ns => do
    let key : ClusterKey := ⟨ns, dc.metadata.anyName⟩
    if dc.metadata.deletionTimestamp.isSome then
      let () ← Program.effect (.unregister key)
      return .settled (.ok .done)
    else return .queued ⟨key, "reconcile datacenter", (Pass.run config key).run⟩

/-- Whether a task that ended is due for deletion, or else the nanoseconds until it is. -/
def remaining? (retention : Nat) (finished now : Instant) : Option Nat :=
  let age := (now.since finished).toNat
  let whole := retention * 1000000000
  if age < whole then some (whole - age) else none

/-- The time a task ended, if its status has one that can be read. -/
def finishedAt? (t : CassandraTask) : Option Instant :=
  (t.status.bind (·.finishTime)).bind Text.Rfc3339.parse?

/-- Delete a task that ended once it is older than the retention. -/
def expire (config : Config) (ns : String) (t : CassandraTask) : Work Action := do
  match finishedAt? t with
  | none => return .done
  | some finished =>
    let now : Instant ← ofProgram (Program.effect .now)
    match remaining? config.taskRetention finished now with
    | some nanos => return .requeue nanos
    | none =>
      store (.deleteTask ns t.metadata.anyName)
      return .done

/-- Say in a task's status what is wrong with its spec. -/
def reject (ns : String) (t : CassandraTask) (reason : String) : Work Action := do
  let s := t.status.getD {}
  if s.lastMessage ≠ some reason then
    Advance.persist ⟨ns, t.metadata.anyName⟩ { s with lastMessage := some reason }
  return .done

/-- Reconcile a task. -/
def task (config : Config) (t : CassandraTask) : Program (Job Action) :=
  match t.metadata.ns with
  | none => return .settled (.error (.invalidConfig "CassandraTask must be namespaced"))
  | some ns =>
    if t.metadata.deletionTimestamp.isSome then return .settled (.ok .done)
    else if t.phase.isTerminal then return .settled (← (expire config ns t).run)
    else match TaskKind.ofSpec t.spec with
      | .error reason => return .settled (← (reject ns t reason).run)
      | .ok _ =>
        let name := t.metadata.anyName
        return .queued ⟨⟨ns, t.spec.datacenter⟩, "advance task " ++ name,
          (Advance.run config ⟨ns, name⟩).run⟩

/-- When to look again after an error. -/
def errorPolicy : Action := .medium

end RackOperator.Reconcile
