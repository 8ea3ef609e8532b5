import RackOperator.Naming

/-!
# The work queue

Work on one DataCenter is put in line under its key. A drainer serves each key
that has work: it receives a unit from its channel, gets one of a fixed number of
permits, has the unit run, and gives the permit back. A drainer that finds its
channel empty looks once more while no submission can get in between, and goes.
Permits are handed out in the order in which they were asked for.

Each function here is one atomic step; any interleaving of them can occur.
-/

namespace RackOperator.WorkQueue

/-- A submitted unit, by the order of submission. -/
abbrev Ticket := Nat

/-- What a drainer is doing. -/
inductive Stage where
  /-- About to receive from its channel. -/
  | idle
  /-- Found its channel empty, about to look once more. -/
  | emptyHanded
  /-- Has a unit and no permit. -/
  | holding (unit : Ticket)
  /-- In line for a permit. -/
  | waiting (unit : Ticket)
  /-- Has a unit and a permit. -/
  | permitted (unit : Ticket)
  /-- Its unit runs. -/
  | running (unit : Ticket)
  /-- Its unit has ended. -/
  | ended (unit : Ticket)
deriving DecidableEq, Repr

/-- One that serves a key. -/
structure Drainer where
  id : Nat
  key : ClusterKey
  channel : List Ticket
  stage : Stage
deriving DecidableEq, Repr

/-- The queue: who serves which key, and the permits. -/
structure State where
  /-- Permits not handed out. -/
  free : Nat
  /-- The live drainers. -/
  drainers : List Drainer := []
  /-- The drainer registered under each key. -/
  registered : SortedMap ClusterKey Nat := {}
  /-- The drainers in line for a permit. -/
  line : List Nat := []
  /-- How many drainers there have been. -/
  spawned : Nat := 0

/-- A queue that runs at most a number of units at once, at least one. -/
def State.new (poolSize : Nat) : State := { free := max poolSize 1 }

namespace State

/-- Number of keys with units queued or running. -/
def activeKeys (q : State) : Nat := q.registered.size

/-- The drainer of a number. -/
def drainer? (q : State) (id : Nat) : Option Drainer := q.drainers.find? fun d => d.id = id

/-- Change one drainer. -/
def update (q : State) (id : Nat) (f : Drainer → Drainer) : State :=
  { q with drainers := q.drainers.map fun d => if d.id = id then f d else d }

/-- Put one drainer into a stage. -/
def enter (q : State) (id : Nat) (stage : Stage) : State := q.update id fun d => { d with stage }

/-- Put a unit in line under a key: into the channel of the drainer registered there, or of a new
one. -/
def submit (q : State) (key : ClusterKey) (unit : Ticket) : State :=
  match q.registered.find? key with
  | some id => q.update id fun d => { d with channel := d.channel ++ [unit] }
  | none =>
    { q with
      drainers := q.drainers ++ [{ id := q.spawned, key, channel := [unit], stage := .idle }]
      registered := q.registered.insert key q.spawned
      spawned := q.spawned + 1 }

/-- An idle drainer receives the next unit, or finds there is none. -/
def receive (q : State) (id : Nat) : State :=
  q.update id fun d => match d.stage, d.channel with
    | .idle, unit :: rest => { d with channel := rest, stage := .holding unit }
    | .idle, [] => { d with stage := .emptyHanded }
    | _, _ => d

/-- A drainer that found nothing looks once more, and goes if there is still nothing. -/
def recheck (q : State) (id : Nat) : State :=
  match q.drainer? id with
  | some { key, channel, stage := .emptyHanded, .. } =>
    match channel with
    | unit :: rest => q.update id fun d => { d with channel := rest, stage := .holding unit }
    | [] =>
      { q with
        drainers := q.drainers.filter fun d => d.id ≠ id
        registered := q.registered.erase key }
  | _ => q

/-- A drainer with a unit asks for a permit: it gets a free one or a place in line. -/
def request (q : State) (id : Nat) : State :=
  match q.drainer? id with
  | some { stage := .holding unit, .. } =>
    if 0 < q.free then { q.enter id (.permitted unit) with free := q.free - 1 }
    else { q.enter id (.waiting unit) with line := q.line ++ [id] }
  | _ => q

/-- A drainer with a permit has its unit run. -/
def start (q : State) (id : Nat) : State :=
  q.update id fun d => match d.stage with
    | .permitted unit => { d with stage := .running unit }
    | _ => d

/-- The unit of a drainer ends. -/
def conclude (q : State) (id : Nat) : State :=
  q.update id fun d => match d.stage with
    | .running unit => { d with stage := .ended unit }
    | _ => d

/-- A drainer in line gets a permit. -/
def grant (q : State) (id : Nat) : State :=
  q.update id fun d => match d.stage with
    | .waiting unit => { d with stage := .permitted unit }
    | _ => d

/-- A drainer whose unit has ended hands its permit to the first in line, or back. -/
def release (q : State) (id : Nat) : State :=
  match q.drainer? id with
  | some { stage := .ended _, .. } =>
    let q := q.enter id .idle
    match q.line with
    | first :: rest => { q.grant first with line := rest }
    | [] => { q with free := q.free + 1 }
  | _ => q

end State

end RackOperator.WorkQueue
