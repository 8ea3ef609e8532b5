import RackOperator.Retry
import RackOperator.Text.Blank
import RackOperator.Text.Decimal

/-!
# Configuration

A `Config` is read from variables. A variable that is unset, or does not hold
what its field needs, leaves the default. Durations are whole seconds. A
retention is given in hours; `Config.ofLookup?` has no answer when its seconds
leave 64 bits.
-/

namespace RackOperator

open Text

/-- Settings of the controllers, the poller and the work queue. -/
structure Config where
  /-- The namespace to watch; all of them when absent. -/
  watched : Option String := none
  pollInterval : Nat := 10
  sidecarTimeout : Nat := 30
  decommissionMaxAttempts : Nat := 5
  decommissionRetryDelay : Nat := 2
  cleanupPacing : Nat := 10
  workerPoolSize : Nat := 16
  taskRetention : Nat := 192 * 3600
  requeueInterval : Nat := 30
deriving DecidableEq, Repr

namespace Config

/-- The default settings without pauses between attempts and members. -/
def immediate : Config := { decommissionRetryDelay := 0, cleanupPacing := 0 }

/-- The greatest number of 64 bits. -/
def greatest64 : Nat := 18446744073709551615

/-- A number up to a greatest one, blanks around it allowed. -/
def number? (greatest : Nat) (s : String) : Option Nat :=
  Decimal.bounded? greatest (trimmed s.toList)

/-- A positive number up to a greatest one. -/
def positive? (greatest : Nat) (s : String) : Option Nat :=
  (number? greatest s).filter fun n => 0 < n

/-- Settings from variables. -/
def ofLookup? (lookup : String → Option String) : Option Config := do
  let defaults : Config := {}
  let seconds (key : String) (otherwise : Nat) : Nat :=
    ((lookup key).bind (number? greatest64)).getD otherwise
  let retention ← match (lookup "OPERATOR_TASK_RETENTION_HOURS").bind (number? greatest64) with
    | none => some defaults.taskRetention
    | some hours => if hours * 3600 ≤ greatest64 then some (hours * 3600) else none
  return {
    watched := ((lookup "OPERATOR_NAMESPACE").map trim).filter fun s => s ≠ ""
    pollInterval := seconds "OPERATOR_NODE_STATUS_POLL_SECS" defaults.pollInterval
    sidecarTimeout := seconds "OPERATOR_SIDECAR_TIMEOUT_SECS" defaults.sidecarTimeout
    decommissionMaxAttempts := ((lookup "OPERATOR_DECOMMISSION_MAX_ATTEMPTS").bind
      (positive? 4294967295)).getD defaults.decommissionMaxAttempts
    decommissionRetryDelay :=
      seconds "OPERATOR_DECOMMISSION_RETRY_DELAY_SECS" defaults.decommissionRetryDelay
    cleanupPacing := seconds "OPERATOR_CLEANUP_PACING_SECS" defaults.cleanupPacing
    workerPoolSize := ((lookup "OPERATOR_WORKER_POOL_SIZE").bind
      (positive? greatest64)).getD defaults.workerPoolSize
    taskRetention := retention
    requeueInterval := seconds "OPERATOR_REQUEUE_SECS" defaults.requeueInterval }

/-- How decommission requests are retried. -/
def decommissionRetry (c : Config) : RetryPolicy :=
  .new c.decommissionMaxAttempts (c.decommissionRetryDelay * 1000)

end Config

end RackOperator
