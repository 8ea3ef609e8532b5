import RackOperator.Audit
import RackOperator.Retry
import RackOperator.Sidecar.Request
import RackOperator.StatusCache
import RackOperator.Store.Call

/-!
# Programs that act on the world

A pass over a DataCenter and an advance of a task are `Program`s: trees of
effects whose replies decide how they go on. A program says what is done in which
order and nothing about by what, so the same pass runs on a store in memory and
on a cluster, to its end or up to any point where it is cut short. `crash` is a
computation that has no result, as when a 32-bit sum overflows.
-/

namespace RackOperator

/-- One thing a program does. -/
inductive Effect where
  /-- Ask the store. -/
  | store (call : StoreCall)
  /-- Get hold of a member's sidecar. -/
  | connect (m : Member)
  /-- Ask the sidecar of a member. -/
  | request (m : Member) (r : SidecarRequest)
  /-- Get hold of several members' sidecars and ask them all at once. -/
  | requestAll (members : List Member) (r : SidecarRequest)
  /-- Copy the statuses of some members. -/
  | snapshot (members : List Member)
  /-- Have members polled under a key, in place of those before. -/
  | register (key : ClusterKey) (members : List Member)
  /-- Have no member polled under a key any more. -/
  | unregister (key : ClusterKey)
  /-- Wait for a number of milliseconds. -/
  | sleep (ms : Nat)
  /-- Put something on record about an object. -/
  | audit (about : NamespacedName) (entry : AuditEntry)
  /-- Look at the clock. -/
  | now

namespace Effect

/-- What an effect answers. -/
def Reply : Effect → Type
  | store call => Except OperatorError call.Value
  | connect _ => Except OperatorError Unit
  | request _ r => Except OperatorError r.Reply
  | requestAll _ r => List (Except OperatorError r.Reply)
  | snapshot _ => StatusSnapshot
  | now => Instant
  | _ => Unit

end Effect

/-- A tree of effects with a result at each leaf. -/
inductive Program (α : Type) where
  | done (a : α)
  | crash
  | perform (e : Effect) (next : e.Reply → Program α)

namespace Program

/-- Go on with a program that depends on the result. -/
def bind {α β : Type} : Program α → (α → Program β) → Program β
  | done a, f => f a
  | crash, _ => crash
  | perform e next, f => perform e fun r => (next r).bind f

instance : Monad Program where
  pure := done
  bind := bind

/-- A single effect. -/
def effect (e : Effect) : Program e.Reply := perform e done

/-- Run a program, each effect by a handler; a crash has no result. -/
def run {m : Type → Type} [Monad m] {α : Type} (handle : (e : Effect) → m e.Reply) :
    Program α → m (Option α)
  | done a => pure (some a)
  | crash => pure none
  | perform e next => do
    let r ← handle e
    (next r).run handle

end Program

/-- A program that may end with an error. -/
abbrev Work := ExceptT OperatorError Program

namespace Work

/-- A program as work that does not fail by itself. -/
def ofProgram {α : Type} (p : Program α) : Work α := ExceptT.lift p

/-- Ask the store. -/
def store (call : StoreCall) : Work call.Value := ExceptT.mk (Program.effect (.store call))

/-- Copy the statuses of some members. -/
def snapshot (members : List Member) : Work StatusSnapshot :=
  ofProgram (Program.effect (.snapshot members))

/-- Have members polled under a key. -/
def register (key : ClusterKey) (members : List Member) : Work Unit :=
  ofProgram (Program.effect (.register key members))

/-- Put something on record. -/
def audit (about : NamespacedName) (entry : AuditEntry) : Work Unit :=
  ofProgram (Program.effect (.audit about entry))

/-- Wait. -/
def sleep (ms : Nat) : Program Unit := Program.effect (.sleep ms)

/-- The present time as text. -/
def timestamp : Work String := do
  let t : Instant ← ofProgram (Program.effect .now)
  return Text.Rfc3339.precise t

/-- A value that may be missing for want of room in its type. -/
def orCrash {α : Type} : Option α → Work α
  | some a => pure a
  | none => ofProgram .crash

end Work

/-- When a resource is to be looked at again. -/
inductive Action where
  /-- After a time in nanoseconds. -/
  | requeue (nanos : Nat)
  | done
deriving DecidableEq, Repr

namespace Action

/-- After whole seconds. -/
def after (seconds : Nat) : Action := .requeue (seconds * 1000000000)

/-- After 5 seconds: a rollout or a member is being waited for. -/
def short : Action := after 5

/-- After 30 seconds: something outside is being waited for. -/
def medium : Action := after 30

/-- After 5 minutes: a periodic look. -/
def long : Action := after 300

end Action

end RackOperator
