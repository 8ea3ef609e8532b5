import RackOperator.WorkQueue.Job
import RackOperator.WorkQueue.Protocol
import RackOperator.World

/-!
# Running queued work in virtual time

A `Schedule` runs jobs on one thread. A job may act at once or submit a unit of
work to the queue. Tasks that are ready run in the order in which they became
ready, each until it has to wait; when none is ready, time moves on to the next
deadline, and of equal deadlines the one set first comes first. Submissions come
before other tasks at their instant.
-/

namespace RackOperator.WorkQueue

/-- A unit's course: when it began and ended, and with what. -/
structure Course (α : Type) where
  began : Option Nat := none
  ended : Option Nat := none
  result : Option (Except OperatorError α) := none

/-- Something that can be ready to run. -/
inductive Task (α : Type) where
  /-- A drainer goes on. -/
  | drainer (id : Nat)
  /-- The unit of a drainer goes on. -/
  | body (id : Nat) (ticket : Ticket) (rest : Program (Except OperatorError α))
  /-- The unit of a drainer gets the answer to an effect it waited for. -/
  | answer (id : Nat) (ticket : Ticket) (e : Effect)
      (next : e.Reply → Program (Except OperatorError α))

/-- Everything under way. -/
structure Schedule (α : Type) where
  world : World
  queue : State
  units : Array (WorkUnit α) := #[]
  courses : Array (Course α) := #[]
  ready : List (Task α) := []
  /-- Deadlines in the order in which they were set. -/
  timers : List (Nat × Task α) := []
  running : Nat := 0
  mostRunning : Nat := 0

namespace Schedule

variable {α : Type}

/-- Make a task ready. -/
def wake (s : Schedule α) (t : Task α) : Schedule α := { s with ready := s.ready ++ [t] }

/-- Change the course of a unit. -/
def note (s : Schedule α) (ticket : Ticket) (f : Course α → Course α) : Schedule α :=
  { s with courses := s.courses.modify ticket f }

/-- Submit a unit. A drainer that is new becomes ready. -/
def submit (s : Schedule α) (u : WorkUnit α) : Schedule α :=
  let ticket := s.units.size
  let queue := s.queue.submit u.key ticket
  let s' := { s with queue, units := s.units.push u, courses := s.courses.push {} }
  if s.queue.spawned < queue.spawned then s'.wake (.drainer s.queue.spawned) else s'

/-- The error of a unit that crashed. -/
def crashed (u : WorkUnit α) : OperatorError := .unit u.key.text u.description "unit panicked"

/-- Enter the end of a unit; its drainer becomes ready. -/
def conclude (s : Schedule α) (id : Nat) (ticket : Ticket)
    (result : Except OperatorError α) : Schedule α :=
  let s := s.note ticket fun c => { c with ended := some s.world.elapsed, result := some result }
  { s with queue := s.queue.conclude id, running := s.running - 1 }.wake (.drainer id)

/-- Run a unit until it waits or ends. -/
def runBody (s : Schedule α) (id : Nat) (ticket : Ticket) :
    Program (Except OperatorError α) → Schedule α
  | .done result => s.conclude id ticket result
  | .crash =>
    match s.units[ticket]? with
    | some u => s.conclude id ticket (.error (crashed u))
    | none => s
  | .perform e next =>
    let (world, ms) := s.world.begin e
    if ms = 0 then
      let (reply, world) := world.finish e
      runBody { s with world } id ticket (next reply)
    else
      { s with world, timers := s.timers ++ [(world.elapsed + ms, .answer id ticket e next)] }

/-- Run a drainer until it waits or goes, at most as many steps as the fuel. -/
def runDrainer : Nat → Schedule α → Nat → Schedule α
  | 0, s, _ => s
  | fuel + 1, s, id =>
    match s.queue.drainer? id with
    | none => s
    | some d =>
      match d.stage with
      | .idle => runDrainer fuel { s with queue := s.queue.receive id } id
      | .emptyHanded => runDrainer fuel { s with queue := s.queue.recheck id } id
      | .holding _ => runDrainer fuel { s with queue := s.queue.request id } id
      | .waiting _ => s
      | .permitted ticket =>
        let s := { s with queue := s.queue.start id }
        match s.units[ticket]? with
        | some u => s.wake (.body id ticket u.work)
        | none => s
      | .running _ => s
      | .ended _ =>
        let first := s.queue.line.head?
        let s := { s with queue := s.queue.release id }
        let s := match first with
          | some other => s.wake (.drainer other)
          | none => s
        runDrainer fuel s id

/-- Run one task. -/
def runTask (s : Schedule α) : Task α → Schedule α
  | .drainer id => runDrainer 8 s id
  | .body id ticket work =>
    let s := s.note ticket fun c => { c with began := some s.world.elapsed }
    let running := s.running + 1
    { s with running, mostRunning := max s.mostRunning running }.runBody id ticket work
  | .answer id ticket e next =>
    let (reply, world) := s.world.finish e
    { s with world }.runBody id ticket (next reply)

/-- Run ready tasks, at most as many as the fuel. -/
def drain : Nat → Schedule α → Schedule α
  | 0, s => s
  | fuel + 1, s =>
    match s.ready with
    | [] => s
    | t :: rest => drain fuel ({ s with ready := rest }.runTask t)

/-- The earliest deadline. -/
def deadline? (s : Schedule α) : Option Nat := (s.timers.map (·.1)).min?

/-- Move time on to a deadline; what it wakes becomes ready. -/
def advanceTo (s : Schedule α) (t : Nat) : Schedule α :=
  { s with
    world := { s.world with elapsed := max s.world.elapsed t }
    ready := s.ready ++ (s.timers.filter fun p => p.1 ≤ t).map (·.2)
    timers := s.timers.filter fun p => t < p.1 }

/-- How many tasks may become ready before a schedule is given up. -/
def patience : Nat := 1000000

/-- Run until nothing is ready or waited for, at most as many moves of time as the fuel. -/
def settle : Nat → Schedule α → Schedule α
  | 0, s => s
  | fuel + 1, s =>
    let s := drain patience s
    match s.deadline? with
    | none => s
    | some t => settle fuel (s.advanceTo t)

/-- Submit units at given times, each no earlier than the one before, and run to the end; `look`
sees the schedule after each submission. -/
def play {β : Type} (look : Schedule α → β) :
    Nat → List (Nat × WorkUnit α) → Schedule α → List β × Schedule α
  | 0, _, s => ([], s)
  | _ + 1, [], s => ([], settle patience s)
  | fuel + 1, (due, u) :: later, s =>
    if due ≤ s.world.elapsed then
      let s := s.submit u
      let (seen, s') := play look fuel later s
      (look s :: seen, s')
    else
      let s := drain patience s
      match s.deadline? with
      | some t => play look fuel ((due, u) :: later) (s.advanceTo (min t due))
      | none => play look fuel ((due, u) :: later) (s.advanceTo due)

/-- Play a list of submissions. -/
def playAll {β : Type} (look : Schedule α → β) (submissions : List (Nat × WorkUnit α))
    (s : Schedule α) : List β × Schedule α :=
  play look patience submissions s

/-- Run jobs in order, each settled or submitted as it comes, and then everything submitted. Gives
each job's result; a job that crashes has none. -/
def runJobs (s : Schedule α) (jobs : List (Program (Job α))) :
    List (Option (Except OperatorError α)) × Schedule α :=
  let (tickets, s) := jobs.foldl (fun (acc : List _ × Schedule α) job =>
    let (came, world) := (job.run (m := StateM World) World.perform) acc.2.world
    let s := { acc.2 with world }
    match came with
    | none => (acc.1 ++ [Sum.inl none], s)
    | some (.settled result) => (acc.1 ++ [Sum.inl (some result)], s)
    | some (.queued u) => (acc.1 ++ [Sum.inr s.units.size], s.submit u)) ([], s)
  let s := settle patience s
  (tickets.map fun
    | .inl result => result
    | .inr ticket => (s.courses[ticket]?).bind (·.result), s)

end Schedule

end RackOperator.WorkQueue
