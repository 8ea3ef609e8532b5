import RackOperator.World

/-!
# Polling node statuses

A poll round forgets the members that are no longer registered, asks the sidecar
of every registered member at once, each within a time limit, and notes the
statuses; a member that could not be asked, failed or took too long is UNKNOWN.
The round gives back the keys of the DataCenters whose members changed status and,
where there is a notification channel, sends each of them on it. `Poll.note` is the
round's effect on the cache, given how each probe ended.
-/

namespace RackOperator.Poll

/-- What comes of asking a member for its status: no client can be had for it, or its sidecar gives
an answer after some milliseconds, whether anyone still waits for it or not. -/
inductive Answer where
  | noClient (err : OperatorError)
  | reply (ms : Nat) (status : Except OperatorError NodeStatus)

/-- How a probe ended. -/
inductive Probe where
  | reported (status : NodeStatus)
  | failed
  | timedOut
  | unreachable
deriving DecidableEq, Repr

/-- How a probe ends that waits for an answer up to a limit. -/
def Answer.probe (limit : Nat) : Answer → Probe
  | noClient _ => .unreachable
  | reply ms status =>
    if limit < ms then .timedOut
    else match status with
      | .ok s => .reported s
      | .error _ => .failed

namespace Probe

/-- The status that is noted. -/
def status : Probe → NodeStatus
  | reported s => s
  | _ => .unknown

/-- Whether the member's client is dropped: it was had, and gave no status. -/
def invalidates : Probe → Bool
  | failed => true
  | timedOut => true
  | _ => false

end Probe

/-- A notification channel: what was sent on it, and whether its receiver is still there. -/
structure Channel where
  sent : List ClusterKey := []
  hasReceiver : Bool := true
deriving DecidableEq, Repr

/-- Send a key. Without a receiver it is lost, and the sender goes on. -/
def Channel.send (c : Channel) (key : ClusterKey) : Channel :=
  if c.hasReceiver then { c with sent := c.sent ++ [key] } else c

/-- A poller: the milliseconds between two rounds, those a probe may take, and the channel it sends
changed keys on. -/
structure Poller where
  interval : Nat := 0
  timeout : Nat
  changes : Option Channel := none
deriving DecidableEq, Repr

/-- Send some keys, one after the other, if there is a channel. -/
def Poller.notify (p : Poller) (keys : List ClusterKey) : Poller :=
  { p with changes := p.changes.map (keys.foldl Channel.send) }

/-- A cache, and the keys whose members changed. -/
structure Noted where
  cache : StatusCache
  changed : SortedMap ClusterKey Unit

/-- Note one status. -/
def noteOne (n : Noted) (key : ClusterKey) (m : MemberKey) (s : NodeStatus) : Noted :=
  { cache := n.cache.insert m s
    changed := if n.cache.find? m = some s then n.changed else n.changed.insert key () }

/-- Note the status of each member that was probed. -/
def note (cache : StatusCache) (probes : List (ClusterKey × Member × Probe)) : Noted :=
  probes.foldl (fun n p => noteOne n p.1 p.2.1.key p.2.2.status) ⟨cache, {}⟩

/-- Ask one member: the answer, and the sidecars after it. An answer that comes too late is given by
a call that was dropped, so it leaves no trace in them. -/
def ask (limit : Nat) (s : Sidecar.Script) (m : Member) : Answer × Sidecar.Script :=
  match s.connect m.name with
  | .error e => (.noClient e, s)
  | .ok _ =>
    let (status, after) := s.finish m.name .status
    (.reply s.latency status, if limit < s.latency then s else after)

/-- Ask the members of some registrations. -/
def askAll (limit : Nat) (s : Sidecar.Script) :
    List (ClusterKey × Member) → List (ClusterKey × Member × Answer) × Sidecar.Script
  | [] => ([], s)
  | (key, m) :: rest =>
    let (answer, s) := ask limit s m
    let (answers, s) := askAll limit s rest
    ((key, m, answer) :: answers, s)

/-- Begin a round: forget what is not registered and ask everyone. -/
def openRound (w : World) : World :=
  let asked := w.registry.pairs.filter fun p => w.reaches p.2
  { w with
    cache := w.cache.retain w.registry.memberKeys
    sidecars := w.sidecars.begin asked.length }

/-- How long a round takes. -/
def duration (limit : Nat) (w : World) : Nat :=
  if w.registry.pairs.any fun p => w.reaches p.2 then min w.sidecars.latency limit else 0

/-- What a round comes to: the keys it gives back, and the poller and the world after it. -/
structure Outcome where
  changed : List ClusterKey
  poller : Poller
  world : World

/-- What a round comes to once the members have been asked, the sidecars then being as given. -/
def settleRound (p : Poller) (answers : List (ClusterKey × Member × Answer))
    (sidecars : Sidecar.Script) (w : World) : Outcome :=
  let probes := answers.map fun a => (a.1, a.2.1, a.2.2.probe p.timeout)
  let noted := note w.cache probes
  let changed := noted.changed.keys
  let dropped := (probes.filter fun a => a.2.2.invalidates).map fun a => a.2.1.name
  { changed
    poller := p.notify changed
    world := { w with
      cache := noted.cache
      sidecars := { sidecars with invalidated := sidecars.invalidated ++ dropped }
      elapsed := w.elapsed + duration p.timeout w } }

/-- End a round that was begun. -/
def closeRound (p : Poller) (w : World) : Outcome :=
  let (answers, after) := askAll p.timeout w.sidecars w.registry.pairs
  settleRound p answers after w

/-- One round. -/
def once (p : Poller) (w : World) : Outcome := closeRound p (openRound w)

/-- When the round after one is due: one interval after the due time, or after the start of a round
that began more than 5 ms late. -/
def nextDue (interval due start : Nat) : Nat :=
  if due + 5 < start then start + interval else due + interval

/-- Rounds up to a final time, at most as many as the fuel. A round still under way at the final
time is cut short. -/
def rounds (finalTime : Nat) : Nat → Nat → Poller → World → Poller × World
  | 0, _, p, w => (p, w)
  | fuel + 1, due, p, w =>
    let start := max due w.elapsed
    if finalTime < start then (p, { w with elapsed := max w.elapsed finalTime })
    else
      let opened := openRound { w with elapsed := start }
      if finalTime < start + duration p.timeout opened then
        (p, { opened with elapsed := finalTime })
      else
        let r := closeRound p opened
        rounds finalTime fuel (nextDue p.interval due start) r.poller r.world

/-- Poll for a number of milliseconds, the first round at once. -/
def runFor (p : Poller) (span : Nat) (w : World) : Poller × World :=
  rounds (w.elapsed + span) (span / max p.interval 1 + 2) w.elapsed p w

end RackOperator.Poll
