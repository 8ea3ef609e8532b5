import RackOperator.Program
import RackOperator.Sidecar.Script
import RackOperator.Store.Memory

/-!
# A world in memory

A `World` is all that programs act on: a store, sidecars, the cache and the
registry, the audit trail and a clock. An effect begins (`World.begin`), takes
its time, and is answered (`World.finish`); `World.perform` does all three when
nothing else is going on meanwhile.
-/

namespace RackOperator

open Sidecar (Script)

/-- How a store operation is refused: it passes a number of times, then fails a number of times. -/
structure StorePlan where
  passes : Nat
  failures : Nat
deriving DecidableEq, Repr

/-- What programs act on. -/
structure World where
  store : MemoryStore := {}
  storePlans : SortedMap String StorePlan := {}
  sidecars : Script := {}
  cache : StatusCache := {}
  registry : Registry := {}
  trail : List AuditEvent := []
  /-- The time of day, which does not pass. -/
  clock : Instant := .ofSeconds 0
  /-- Milliseconds since the start. -/
  elapsed : Nat := 0

namespace World

/-- Whether a store operation is refused now, and the plans left. -/
def refuses (w : World) (name : String) : Bool × World :=
  match w.storePlans.find? name with
  | none => (false, w)
  | some plan =>
    if 0 < plan.passes then
      (false, { w with
        storePlans := w.storePlans.insert name { plan with passes := plan.passes - 1 } })
    else if 0 < plan.failures then
      (true, { w with
        storePlans := w.storePlans.insert name { plan with failures := plan.failures - 1 } })
    else (false, w)

/-- Ask the store. -/
def askStore (w : World) (call : StoreCall) : Except OperatorError call.Value × World :=
  let (refused, w) := w.refuses call.name
  if refused then (.error (.invalidConfig ("store refused " ++ call.name)), w)
  else
    let (answer, store) := w.store.perform call
    (answer, { w with store })

/-- Whether a sidecar can be got hold of. -/
def reaches (w : World) (m : Member) : Bool := (w.sidecars.connect m.name).isOk

/-- Begin an effect: the world then, and the milliseconds until it is answered. -/
def begin (w : World) : Effect → World × Nat
  | .sleep ms => (w, ms)
  | .request .. => ({ w with sidecars := w.sidecars.begin 1 }, w.sidecars.latency)
  | .requestAll ms _ =>
    let asked := (ms.filter w.reaches).length
    ({ w with sidecars := w.sidecars.begin asked }, if asked = 0 then 0 else w.sidecars.latency)
  | _ => (w, 0)

/-- Answer a request that several members got. -/
def finishAll (s : Script) (r : SidecarRequest) :
    List Member → List (Except OperatorError r.Reply) × Script
  | [] => ([], s)
  | m :: rest =>
    let (reply, s) : Except OperatorError r.Reply × Script := match s.connect m.name with
      | .error e => (.error e, s)
      | .ok _ => s.finish m.name r
    let (replies, s) := finishAll s r rest
    (reply :: replies, s)

/-- Answer an effect. -/
def finish (w : World) : (e : Effect) → e.Reply × World
  | .store call => w.askStore call
  | .connect m => (w.sidecars.connect m.name, w)
  | .request m r =>
    let (reply, sidecars) := w.sidecars.finish m.name r
    (reply, { w with sidecars })
  | .requestAll ms r =>
    let (replies, sidecars) := finishAll w.sidecars r ms
    (replies, { w with sidecars })
  | .snapshot ms => (w.cache.snapshot ms, w)
  | .register key ms => ((), { w with registry := w.registry.insert key ms })
  | .unregister key => ((), { w with registry := w.registry.erase key })
  | .sleep _ => ((), w)
  | .audit about entry =>
    ((), { w with trail := w.trail ++ [entry.event (Text.Rfc3339.precise w.clock) about] })
  | .now => (w.clock, w)

/-- Do an effect while nothing else goes on. -/
def perform (e : Effect) : StateM World e.Reply := fun w =>
  let (w, ms) := w.begin e
  { w with elapsed := w.elapsed + ms }.finish e

end World

end RackOperator
