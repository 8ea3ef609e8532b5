import RackOperator.Proofs.Pass.Forward
import RackOperator.Proofs.Polling

/-!
# Passes and poll rounds

What a pass knows of its members comes from the cache, and the cache is written by poll
rounds that take their own time. A `Watch` is a scene of passes together with the round
under way beside them, if there is one: the members it asked when it was opened and whose
statuses it has yet to note. A `Beat` is one effect of a pass or one thing a round does, or
a change from outside; what a member answers is left open. `beats_of_once` says that a
round done at a stretch is such beats.

A `Chronicle` numbers the beats of a run, so that "since" and "before" are comparisons of
indices. Three facts about it are all that is needed of the poller later. A status that is
cached was noted by the last round that noted any for its member, or was there all along
(`cached_cases`). A member that a round has yet to note was registered when that round was
opened, so it was opened after any time at which no round listed the member
(`opened_of_listed`). And the statuses a pass works with are a copy of the cache that this
very pass has taken, no other one in between (`OnePass`, `copied`).
-/

namespace RackOperator

open Relation (ReflTransGen)

variable {w w' : World}

/-- A copy of statuses is one of the cache, as it is at that moment. No other effect of a pass looks
at the cache. -/
theorem Answers.snapshot_eq {ms : List Member} {r : StatusSnapshot}
    (h : Answers w (.snapshot ms) r w') : r = w.cache.snapshot ms := by
  cases h with
  | performed => rfl

/-- A status in a copy is cached for a member of that name. A pod of which nothing is cached is
UNKNOWN in the copy, so nothing can be said of that one status. -/
theorem StatusCache.find?_of_snapshot {c : StatusCache} {ms : List Member} {pod : String}
    {status : NodeStatus} (h : (c.snapshot ms).statusOf pod = status) (hs : status ≠ .unknown) :
    ∃ m ∈ ms, m.name = pod ∧ c.find? m.key = some status := by
  unfold StatusSnapshot.statusOf at h
  cases hf : (c.snapshot ms).statuses.find? pod with
  | none =>
    rw [hf] at h
    exact absurd h.symm hs
  | some found =>
    rw [hf] at h
    cases h
    obtain ⟨m, hm, hp⟩ := List.mem_filterMap.mp (SortedMap.mem_of_find?_ofList hf)
    obtain ⟨cached, hcached, he⟩ := Option.map_eq_some_iff.mp hp
    cases he
    exact ⟨m, hm, rfl, hcached⟩

namespace Pass

/-! ## Beats -/

/-- The pod of a StatefulSet at an ordinal. -/
def podKey (k : NamespacedName) (o : ℕ) : MemberKey := ⟨k.ns, k.name ++ "-" ++ Text.Decimal.text o⟩

/-- A scene of passes, and the members whose statuses the poll round under way has yet to note. -/
structure Watch where
  scene : Scene
  round : Option (List (ClusterKey × Member)) := none

namespace Watch

/-- The last known statuses. -/
def cache (x : Watch) : StatusCache := x.scene.world.cache

/-- The pods the StatefulSet of a name asks for; none if there is no such StatefulSet. -/
def count (x : Watch) (k : NamespacedName) : Int :=
  ((x.scene.stored k).map (·.replicas)).getD 0

/-- A poll round is opened. -/
def Opens (x x' : Watch) : Prop := x.round = none ∧ x'.round.isSome = true

/-- The poll round notes a status. -/
def Notes (x x' : Watch) (member : MemberKey) (status : NodeStatus) : Prop :=
  ∃ key m rest, x.round = some ((key, m) :: rest) ∧ x'.round = some rest ∧ m.key = member ∧
    x'.cache = x.cache.insert member status

end Watch

/-- The DataCenters are of the namespaces they are stored under. -/
def Placed (w : World) : Prop :=
  ∀ (k : NamespacedName) dc, w.store.dataCenters.find? k = some dc → dc.naming.ns = k.ns

/-- What can happen next to passes, poll rounds and the world around them. -/
inductive Beat (config : Config) : Watch → Watch → Prop
  /-- The controller goes on. -/
  | move {s s' : Scene} {round : Option (List (ClusterKey × Member))} (h : Move config s s') :
    Beat config ⟨s, round⟩ ⟨s', round⟩
  /-- The outside changes the world, but not what is known of members, nor who is polled. -/
  | edit {w w' : World} {pass : Option (ClusterKey × Course)}
    {round : Option (List (ClusterKey × Member))} (h : Edited w w') (hp : Placed w')
    (hc : w'.cache = w.cache) (hr : w'.registry = w.registry) :
    Beat config ⟨⟨w, pass⟩, round⟩ ⟨⟨w', pass⟩, round⟩
  /-- A poll round forgets who is not registered, and asks everyone who is. -/
  | opens (w : World) (pass : Option (ClusterKey × Course)) :
    Beat config ⟨⟨w, pass⟩, none⟩ ⟨⟨Poll.openRound w, pass⟩, some w.registry.pairs⟩
  /-- It notes the status of one of them, whatever that was. -/
  | notes (w : World) (pass : Option (ClusterKey × Course)) (key : ClusterKey) (m : Member)
    (rest : List (ClusterKey × Member)) (status : NodeStatus) :
    Beat config ⟨⟨w, pass⟩, some ((key, m) :: rest)⟩
      ⟨⟨{ w with cache := w.cache.insert m.key status }, pass⟩, some rest⟩
  /-- It ends, or is cut short. -/
  | ends (s : Scene) (rest : List (ClusterKey × Member)) : Beat config ⟨s, some rest⟩ ⟨s, none⟩

variable {config : Config} {x x' : Watch} {k : NamespacedName} {key : ClusterKey}
  {member : MemberKey} {status : NodeStatus}

/-- Where the store stays as it was, what changes in a world is an edit from outside: caches and
sidecars may do as they like. -/
theorem edited_of_store {w w' : World} (h : w'.store = w.store) : Edited w w' := by
  intro k
  rw [h]

/-- To the passes a poll round is a change from outside, so whatever holds of passes in any
surroundings holds along these runs too. -/
theorem Beat.step (h : Beat config x x') : Step config x.scene x'.scene := by
  cases h with
  | move hm => exact .move hm
  | edit he => exact .edit he
  | opens w pass => exact .edit (edited_of_store rfl)
  | notes w pass key m rest status => exact .edit (edited_of_store rfl)
  | ends s rest => exact .edit (edited_of_store rfl)

/-- The cache changes only by a round, which notes a status or forgets some when it is opened. No
pass writes to it. -/
theorem Beat.cache_cases (h : Beat config x x') (member : MemberKey) :
    x'.cache.find? member = x.cache.find? member ∨
      x.Opens x' ∧ x'.cache.find? member = none ∨
        ∃ status, x.Notes x' member status ∧ x'.cache.find? member = some status := by
  -- Passes, edits and the end of a round leave the cache; opening forgets, noting writes one entry.
  cases h with
  | @move s s' round hm =>
    refine .inl ?_
    cases hm with
    | begin w key => rfl
    | leave w p => rfl
    | act ha =>
      cases ha with
      | act ha => exact congrArg (SortedMap.find? · member) ha.cache_eq
  | edit _ _ hc => exact .inl (congrArg (SortedMap.find? · member) hc)
  | opens w pass =>
    have hfind : (Poll.openRound w).cache.find? member =
        if w.registry.memberKeys.contains member then w.cache.find? member else none :=
      SortedMap.find?_filterKeys _ _ _
    cases hkept : w.registry.memberKeys.contains member with
    | true =>
      rw [hkept, if_pos rfl] at hfind
      exact .inl hfind
    | false =>
      rw [hkept, if_neg Bool.false_ne_true] at hfind
      exact .inr (.inl ⟨⟨rfl, rfl⟩, hfind⟩)
  | notes w pass key m rest status =>
    have hfind : (w.cache.insert m.key status).find? member =
        if m.key = member then some status else w.cache.find? member :=
      SortedMap.find?_insert _ _ _ _
    by_cases hm : m.key = member
    · rw [if_pos hm] at hfind
      subst hm
      exact .inr (.inr ⟨status, ⟨key, m, rest, rfl, rfl, rfl, rfl⟩, hfind⟩)
    · rw [if_neg hm] at hfind
      exact .inl hfind
  | ends s rest => exact .inl rfl

/-- What a round has yet to note gets less, unless the round has just been opened. So a status that
is noted was asked for since the round began. -/
theorem Beat.round_cases (h : Beat config x x') {l : List (ClusterKey × Member)}
    (hl : x'.round = some l) : x.Opens x' ∨ ∃ l₀, x.round = some l₀ ∧ l ⊆ l₀ := by
  cases h with
  | move hm => exact .inr ⟨l, hl, fun _ hp => hp⟩
  | edit => exact .inr ⟨l, hl, fun _ hp => hp⟩
  | opens w pass => exact .inl ⟨rfl, rfl⟩
  | notes w pass key m rest status =>
    cases hl
    exact .inr ⟨_, rfl, List.subset_cons_self _ _⟩
  | ends s rest => cases hl

/-- The pass under way was so before, or has just begun, or has done one effect more. There is no
other way to come to be under way. -/
theorem Beat.pass_cases (h : Beat config x x') {u : Course} (hu : x'.scene.pass = some (key, u)) :
    x.scene.pass = some (key, u) ∨ u.history = [] ∨
      ∃ (h : History) (e : Effect) (next : e.Reply → Program _) (r : e.Reply),
        x.scene.pass = some (key, ⟨h, .perform e next⟩) ∧
          Answers x.scene.world e r x'.scene.world ∧ u = ⟨h ++ [⟨e, r⟩], next r⟩ := by
  cases h with
  | move hm =>
    cases hm with
    | begin w k =>
      cases hu
      exact .inr (.inl rfl)
    | leave w p => cases hu
    | act hact =>
      cases hu
      cases hact with
      | @act _ _ h e next r ha => exact .inr (.inr ⟨h, e, next, r, rfl, ha, rfl⟩)
  | edit => exact .inl hu
  | opens => exact .inl hu
  | notes => exact .inl hu
  | ends => exact .inl hu

/-! ## A round at a stretch -/

/-- The statuses are noted one after the other. The induction is on the members the round has heard
from, in whatever order they answered. -/
theorem beats_noted (config : Config) (w : World) (pass : Option (ClusterKey × Course))
    (noted : Poll.Noted) (probes : List (ClusterKey × Member × Poll.Probe)) :
    ReflTransGen (Beat config)
      ⟨⟨{ w with cache := noted.cache }, pass⟩, some (probes.map fun p => (p.1, p.2.1))⟩
      ⟨⟨{ w with cache := (probes.foldl (fun n p =>
        Poll.noteOne n p.1 p.2.1.key p.2.2.status) noted).cache }, pass⟩, some []⟩ := by
  induction probes generalizing noted with
  | nil => exact .refl
  | cons p rest ih =>
    exact .head (.notes { w with cache := noted.cache } pass p.1 p.2.1 _ p.2.2.status)
      (ih (Poll.noteOne noted p.1 p.2.1.key p.2.2.status))

/-- **A whole round.** A poll round with nothing else going on is one beat after another: it is
opened, notes what each member answered, and ends. -/
theorem beats_of_once (p : Poll.Poller) {w : World} (hp : Placed w)
    (pass : Option (ClusterKey × Course)) : ReflTransGen (Beat config) ⟨⟨w, pass⟩, none⟩
      ⟨⟨(Poll.once p w).world, pass⟩, none⟩ := by
  let opened := Poll.openRound w
  let probes := (Poll.askAll p.timeout opened.sidecars w.registry.pairs).1.map
    fun a => (a.1, a.2.1, a.2.2.probe p.timeout)
  have hpairs : probes.map (fun a => (a.1, a.2.1)) = w.registry.pairs :=
    List.map_map.trans (Poll.map_askAll ..)
  have hnoted := beats_noted config opened pass ⟨opened.cache, {}⟩ probes
  rw [hpairs] at hnoted
  have hclosed : (Poll.once p w).world.cache = (probes.foldl (fun n p =>
      Poll.noteOne n p.1 p.2.1.key p.2.2.status) ⟨opened.cache, {}⟩).cache := rfl
  -- what the sidecars were asked and the time it took are not for the round to tell
  refine .head (.opens w pass)
    (hnoted.trans (.head (.edit ?_ ?_ hclosed rfl) (.single (.ends _ _))))
  · exact edited_of_store rfl
  · exact hp

/-! ## Runs by number -/

/-- A DataCenter that is read is the one stored, since the read is answered by the store at that
moment. -/
theorem dataCenter_of_read {w w' : World} {ns name : String} {r : Except OperatorError _}
    (ha : Answers w (.store (.getDataCenter ns name)) r w') {dc : DataCenter}
    (hr : r = .ok (some dc)) : w.store.dataCenters.find? ⟨ns, name⟩ = some dc := by
  subst hr
  rcases ha.store_cases with ⟨-, err, he⟩ | ⟨-, he | ⟨err, he⟩⟩
  · cases he
  · exact (Except.ok.inj he).symm
  · cases he

/-- DataCenters are stored in the namespace they say they are of, and no effect of the system moves
one: a status write keeps everything else. -/
theorem placed_answers {w w' : World} {e : Effect} {r : e.Reply} (ha : Answers w e r w')
    (hp : Placed w) : Placed w' := by
  intro k dc hdc
  obtain ⟨dc₀, hdc₀, he⟩ := ha.dataCenter_before hdc
  rw [he]
  exact hp k dc₀ hdc₀

/-- Nor does an edit from outside, a poll round, or a pass that begins or is cut short, so this
holds in every world of a run. -/
theorem placed_beat (h : Beat config x x') (hp : Placed x.scene.world) :
    Placed x'.scene.world := by
  cases h with
  | move hm =>
    cases hm with
    | begin w key => exact hp
    | leave w p => exact hp
    | act ha =>
      cases ha with
      | act ha => exact placed_answers ha hp
  | edit _ hp' => exact hp'
  | opens w pass => exact hp
  | notes w pass key m rest status => exact hp
  | ends s rest => exact hp

/-- The members of a survey are of the namespace of its DataCenter, which is where their statuses
are cached. -/
theorem Survey.ns_of_mem_members {v : Survey} {m : Member} (hm : m ∈ v.members) :
    m.ns = v.dc.naming.ns := by
  rw [Survey.members_eq] at hm
  obtain ⟨p, -, hm⟩ := List.mem_flatMap.mp hm
  obtain ⟨o, -, rfl⟩ := List.mem_map.mp hm
  rfl

/-- A run of passes and poll rounds, one beat after the other. -/
structure Chronicle (config : Config) (s : ℕ → Watch) : Prop where
  idle : (s 0).scene.pass = none
  placed : Placed (s 0).scene.world
  beat : ∀ i, Beat config (s i) (s (i + 1))

variable {s : ℕ → Watch} {i a b n : ℕ}

/-- The pass that is under way in the end is the one that had done nothing yet in the beginning: in
between no beat leaves it, and what it has done only grows. -/
structure OnePass (s : ℕ → Watch) (key : ClusterKey) (b n : ℕ) : Prop where
  le : b ≤ n
  begun : ∃ u, (s b).scene.pass = some (key, u) ∧ u.history = []
  goes : ∀ c, b ≤ c → c < n → ∃ u u', (s c).scene.pass = some (key, u) ∧
    (s (c + 1)).scene.pass = some (key, u') ∧ u.history <+: u'.history

/-- It is the same pass one beat later if it has only done more. One that began in between would
have done nothing yet. -/
theorem OnePass.goes_on (h : OnePass s key b n) {u u' : Course}
    (hu : (s n).scene.pass = some (key, u)) (hu' : (s (n + 1)).scene.pass = some (key, u'))
    (hpre : u.history <+: u'.history) : OnePass s key b (n + 1) := by
  refine ⟨Nat.le_succ_of_le h.le, h.begun, fun c hbc hcn => ?_⟩
  rcases Nat.lt_succ_iff_lt_or_eq.mp hcn with hlt | rfl
  · exact h.goes c hbc hlt
  · exact ⟨u, u', hu, hu', hpre⟩

/-- The pass that is under way in the end, and began at one time, was about to copy the statuses of
some members at another; the copy it works with is the one of that time. -/
structure Copies (s : ℕ → Watch) (key : ClusterKey) (b a n : ℕ) (ms : List Member) : Prop where
  onePass : OnePass s key b n
  since : b ≤ a
  before : a < n
  due : ∃ u, (s a).scene.pass = some (key, u) ∧ u.next? = some (.snapshot ms)
  taken : ∃ u, (s n).scene.pass = some (key, u) ∧
    ⟨.snapshot ms, (s a).cache.snapshot ms⟩ ∈ u.history

namespace Chronicle

/-- At every moment of a chronicle DataCenters are stored where they belong. -/
theorem placed_at (hc : Chronicle config s) (n : ℕ) : Placed (s n).scene.world := by
  induction n with
  | zero => exact hc.placed
  | succ n ih => exact placed_beat (hc.beat n) ih

/-- Its passes are runs of passes, with rounds among the changes from outside. -/
theorem reaches (hc : Chronicle config s) (n : ℕ) :
    Reaches config ⟨(s 0).scene.world, none⟩ (s n).scene := by
  induction n with
  | zero =>
    rw [← hc.idle]
  | succ n ih => exact ih.tail (hc.beat n).step

/-- At every moment the pass under way goes by the code, and its reads of StatefulSets still hold
but for their statuses. -/
theorem sound (hc : Chronicle config s) (n : ℕ) :
    Sound config StatefulSet.shape (s n).scene :=
  sound_of_reaches (hc.reaches n)

/-- A status is cached because the last round to note any for its member noted it, or it was cached
all along. The induction goes back from the later moment. -/
theorem cached_cases (hc : Chronicle config s) (hia : i ≤ a)
    (h : (s a).cache.find? member = some status) :
    ((s i).cache.find? member = some status ∧
      ∀ b, i ≤ b → b < a → ∀ st, ¬(s b).Notes (s (b + 1)) member st) ∨
    ∃ b, i ≤ b ∧ b < a ∧ (s b).Notes (s (b + 1)) member status ∧
      ∀ c, b < c → c < a → ∀ st, ¬(s c).Notes (s (c + 1)) member st := by
  -- back from the end: a beat that notes nothing of the member leaves its entry, or drops it
  induction a, hia using Nat.le_induction with
  | base => exact .inl ⟨h, fun b hib hbi => absurd hbi (by omega)⟩
  | succ a hia ih =>
    by_cases hnoted : ∃ st, (s a).Notes (s (a + 1)) member st
    · -- the last beat noted it
      obtain ⟨st, hn⟩ := hnoted
      have hcached : (s (a + 1)).cache.find? member = some st := by
        obtain ⟨_, _, _, _, _, _, hcache⟩ := hn
        rw [hcache, SortedMap.find?_insert, if_pos rfl]
      obtain rfl : st = status := Option.some.inj (hcached.symm.trans h)
      exact .inr ⟨a, hia, by omega, hn, fun c hac hca => absurd hca (by omega)⟩
    · have hold : (s a).cache.find? member = some status := by
        rcases (hc.beat a).cache_cases member with he | ⟨-, he⟩ | ⟨st, hn, -⟩
        · exact he ▸ h
        · cases h.symm.trans he
        · exact absurd ⟨st, hn⟩ hnoted
      rcases ih hold with ⟨hfirst, hno⟩ | ⟨b, hib, hba, hn, hno⟩
      · refine .inl ⟨hfirst, fun b hib hba st hn => ?_⟩
        rcases Nat.lt_succ_iff_lt_or_eq.mp hba with hlt | rfl
        · exact hno b hib hlt st hn
        · exact hnoted ⟨st, hn⟩
      · refine .inr ⟨b, hib, by omega, hn, fun c hbc hca st hn' => ?_⟩
        rcases Nat.lt_succ_iff_lt_or_eq.mp hca with hlt | rfl
        · exact hno c hbc hlt st hn'
        · exact hnoted ⟨st, hn'⟩

/-- A round that has yet to note a member was opened later than any time at which no round had that
to do, and is under way since. -/
theorem opened_of_listed (hc : Chronicle config s) {p : ClusterKey × Member} (hib : i ≤ b)
    (hno : ∀ l, (s i).round = some l → p ∉ l) {l : List (ClusterKey × Member)}
    (hl : (s b).round = some l) (hp : p ∈ l) :
    ∃ a, i ≤ a ∧ a < b ∧ (s a).Opens (s (a + 1)) ∧
      ∀ c, a < c → c ≤ b → (s c).round.isSome = true := by
  -- what a round has yet to note gets less, so it goes back to the beat that opened it
  induction b, hib using Nat.le_induction generalizing l with
  | base => exact absurd hp (hno l hl)
  | succ b hib ih =>
    have hnow : (s (b + 1)).round.isSome = true := by
      rw [hl]
      rfl
    rcases (hc.beat b).round_cases hl with ho | ⟨l₀, hl₀, hsub⟩
    · refine ⟨b, hib, by omega, ho, fun c hbc hcb => ?_⟩
      rw [show c = b + 1 by omega]
      exact hnow
    · obtain ⟨a, hia, hab, ho, hstays⟩ := ih hl₀ (hsub hp)
      refine ⟨a, hia, by omega, ho, fun c hac hcb => ?_⟩
      rcases Nat.le_succ_iff.mp hcb with hle | rfl
      · exact hstays c hac hle
      · exact hnow

/-- A pass under way had begun at an earlier time and done part of what it has done by now, or it
began since and is one pass from its beginning on. -/
theorem begun_since (hc : Chronicle config s) (hin : i ≤ n) {u : Course}
    (hu : (s n).scene.pass = some (key, u)) :
    (∃ u₀, (s i).scene.pass = some (key, u₀) ∧ u₀.history <+: u.history) ∨
      ∃ b, i < b ∧ OnePass s key b n := by
  induction n, hin using Nat.le_induction generalizing u with
  | base => exact .inl ⟨u, hu, List.prefix_rfl⟩
  | succ n hin ih =>
    -- a pass that has begun before this beat has got on by one effect at most
    have hgoes : ∀ {u₀}, (s n).scene.pass = some (key, u₀) → u₀.history <+: u.history →
        (∃ u₀, (s i).scene.pass = some (key, u₀) ∧ u₀.history <+: u.history) ∨
          ∃ b, i < b ∧ OnePass s key b (n + 1) := fun hold hpre =>
      (ih hold).imp (fun ⟨u₀, hu₀, hpre₀⟩ => ⟨u₀, hu₀, hpre₀.trans hpre⟩)
        (fun ⟨b, hib, hone⟩ => ⟨b, hib, hone.goes_on hold hu hpre⟩)
    rcases (hc.beat n).pass_cases hu with hold | hnew | ⟨h, e, next, r, hpass, -, rfl⟩
    · exact hgoes hold List.prefix_rfl
    · exact .inr ⟨n + 1, by omega, le_rfl, ⟨u, hu, hnew⟩, fun c hb hn => absurd hn (by omega)⟩
    · exact hgoes hpass (List.prefix_append _ _)

/-- The statuses a pass works with are a copy of the cache, which it has taken itself, at a moment
between its beginning and now. -/
theorem copied (hc : Chronicle config s) (hone : OnePass s key b n) {u : Course}
    (hu : (s n).scene.pass = some (key, u)) {ms : List Member} {statuses : StatusSnapshot}
    (hm : ⟨.snapshot ms, statuses⟩ ∈ u.history) :
    ∃ a, b ≤ a ∧ a < n ∧ (∃ v, (s a).scene.pass = some (key, v) ∧
      v.next? = some (.snapshot ms)) ∧ statuses = (s a).cache.snapshot ms := by
  obtain ⟨hbn, ⟨ub, hub, hempty⟩, hgoes⟩ := hone
  induction n, hbn using Nat.le_induction generalizing u with
  | base =>
    cases hub.symm.trans hu
    rw [hempty] at hm
    cases hm
  | succ n hbn ih =>
    have hearlier : ∀ {v}, (s n).scene.pass = some (key, v) → ⟨.snapshot ms, statuses⟩ ∈ v.history →
        ∃ a, b ≤ a ∧ a < n + 1 ∧ (∃ v, (s a).scene.pass = some (key, v) ∧
          v.next? = some (.snapshot ms)) ∧ statuses = (s a).cache.snapshot ms := by
      intro v hv hm
      obtain ⟨a, hba, han, hcopy⟩ := ih hv hm fun c hb hn => hgoes c hb (by omega)
      exact ⟨a, hba, by omega, hcopy⟩
    rcases (hc.beat n).pass_cases hu with hold | hnew | ⟨h, e, next, r, hpass, ha, rfl⟩
    · -- the pass has done nothing in this beat
      exact hearlier hold hm
    · rw [hnew] at hm
      cases hm
    · rcases List.mem_append.mp hm with hm | hm
      · exact hearlier hpass hm
      · -- the copy has just been taken
        cases List.mem_singleton.mp hm
        exact ⟨n, hbn, by omega, ⟨_, hpass, rfl⟩, ha.snapshot_eq⟩

/-- The DataCenter a pass has read is of the namespace of its key, as it was stored there when it
was read. -/
theorem read_placed (hc : Chronicle config s) {u : Course}
    (hu : (s n).scene.pass = some (key, u)) {dc : DataCenter}
    (hdc : ⟨.store (.getDataCenter key.ns key.name),
      (.ok (some dc) : Except _ (Option DataCenter))⟩ ∈ u.history) : dc.naming.ns = key.ns := by
  induction n generalizing u with
  | zero => cases hc.idle.symm.trans hu
  | succ n ih =>
    rcases (hc.beat n).pass_cases hu with hold | hnew | ⟨h, e, next, r, hpass, ha, rfl⟩
    · exact ih hold hdc
    · rw [hnew] at hdc
      cases hdc
    · rcases List.mem_append.mp hdc with hdc | hdc
      · exact ih hpass hdc
      · cases List.mem_singleton.mp hdc
        exact hc.placed_at n _ dc (dataCenter_of_read ha rfl)

/-- The DataCenter of a survey is of the namespace of the key. -/
theorem surveyed_placed (hc : Chronicle config s) {v : Survey} {done : History}
    {rest : Program (Except OperatorError Action)}
    (hpass : (s n).scene.pass = some (key, ⟨v.history key ++ done, rest⟩)) :
    v.dc.naming.ns = key.ns :=
  hc.read_placed hpass (List.mem_append_left _ (List.mem_append_left _
    (List.mem_append_left _ List.mem_cons_self)))

/-- A status a survey found of a pod was cached for it when the pass copied the statuses. Where the
pass had not begun at some time, it has both begun and copied them since. -/
theorem cached_of_surveyed (hc : Chronicle config s) (hin : i ≤ n) {v : Survey} {done : History}
    {rest : Program (Except OperatorError Action)}
    (hpass : (s n).scene.pass = some (key, ⟨v.history key ++ done, rest⟩))
    (hnew : ∀ u₀, (s i).scene.pass = some (key, u₀) → ¬u₀.history <+: v.history key ++ done)
    {pod : String} (hpod : v.statuses.statusOf pod = status) (hstatus : status ≠ .unknown) :
    ∃ b a, i < b ∧ Copies s key b a n v.members ∧ ⟨key.ns, pod⟩ ∈ v.members.map (·.key) ∧
      (s a).cache.find? ⟨key.ns, pod⟩ = some status := by
  have hsnap : ⟨.snapshot v.members, v.statuses⟩ ∈ v.history key ++ done :=
    List.mem_append_left _ (List.mem_append_right _ (List.mem_cons_of_mem _ List.mem_cons_self))
  -- The pass of the survey is not the one of step `i`, so it has begun since.
  rcases hc.begun_since hin hpass with ⟨u₀, hu₀, hpre⟩ | ⟨b, hib, hone⟩
  · exact absurd hpre (hnew u₀ hu₀)
  · obtain ⟨a, hba, han, hdue, he⟩ := hc.copied hone hpass hsnap
    have htaken : ⟨.snapshot v.members, (s a).cache.snapshot v.members⟩ ∈ v.history key ++ done :=
      he ▸ hsnap
    rw [he] at hpod
    obtain ⟨m, hm, rfl, hcached⟩ := StatusCache.find?_of_snapshot hpod hstatus
    have hkey : m.key = ⟨key.ns, m.name⟩ := by
      unfold Member.key
      rw [Survey.ns_of_mem_members hm, hc.surveyed_placed hpass]
    rw [hkey] at hcached
    exact ⟨b, a, hib, ⟨hone, hba, han, hdue, _, hpass, htaken⟩,
      hkey ▸ List.mem_map_of_mem hm, hcached⟩

end Chronicle

/-! ## Runs from cues -/

/-- What is to happen next in a run that is played. -/
inductive Cue where
  | begin (key : ClusterKey)
  | act
  | leave
  /-- The pods of a StatefulSet are all there. -/
  | rollOut (k : NamespacedName)
  | respec (dc : DataCenter)
  | opens
  | notes (status : NodeStatus)
  | ends

/-- The world once a StatefulSet has rolled out. -/
def rolledOutAt (w : World) (k : NamespacedName) : World :=
  match w.store.statefulSets.find? k with
  | none => w
  | some sts => { w with store := { w.store with
      statefulSets := w.store.statefulSets.insert k
        { sts with status := some (Fixture.rolledOut sts.replicas32) } } }

/-- The world once a DataCenter has been stored as the outside wants it. -/
def respecifiedAs (w : World) (dc : DataCenter) : World :=
  { w with store := { w.store with
      dataCenters := w.store.dataCenters.insert ⟨dc.naming.ns, dc.metadata.anyName⟩ dc } }

/-- One cue; what cannot happen does not. Effects are answered as the world in memory does. -/
def Watch.play (config : Config) : Watch → Cue → Watch
  | ⟨⟨w, none⟩, round⟩, .begin key => ⟨⟨w, some (key, .fresh (run config key))⟩, round⟩
  | ⟨⟨w, some (key, ⟨h, .perform e next⟩)⟩, round⟩, .act =>
    ⟨⟨(w.perform e).2, some (key, ⟨h ++ [⟨e, (w.perform e).1⟩], next (w.perform e).1⟩)⟩, round⟩
  | ⟨⟨w, some _⟩, round⟩, .leave => ⟨⟨w, none⟩, round⟩
  | ⟨⟨w, pass⟩, round⟩, .rollOut k => ⟨⟨rolledOutAt w k, pass⟩, round⟩
  | ⟨⟨w, pass⟩, round⟩, .respec dc => ⟨⟨respecifiedAs w dc, pass⟩, round⟩
  | ⟨⟨w, pass⟩, none⟩, .opens => ⟨⟨Poll.openRound w, pass⟩, some w.registry.pairs⟩
  | ⟨⟨w, pass⟩, some ((_, m) :: rest)⟩, .notes status =>
    ⟨⟨{ w with cache := w.cache.insert m.key status }, pass⟩, some rest⟩
  | ⟨scene, some _⟩, .ends => ⟨scene, none⟩
  | x, _ => x

/-- A run that is played, and stands still behind its last cue. -/
def played (config : Config) (x : Watch) (cues : List Cue) (i : ℕ) : Watch :=
  (cues.take i).foldl (Watch.play config) x

theorem edited_rolledOutAt (w : World) (k : NamespacedName) : Edited w (rolledOutAt w k) := by
  intro j
  unfold rolledOutAt
  cases hk : w.store.statefulSets.find? k with
  | none => rfl
  | some sts =>
    show ((w.store.statefulSets.insert k _).find? j).map _ = _
    rw [SortedMap.find?_insert]
    by_cases hj : k = j
    · subst hj
      rw [if_pos rfl, hk]
      rfl
    · rw [if_neg hj]

/-- A status that is stored for a StatefulSet moves no DataCenter. -/
theorem placed_rolledOutAt {w : World} (hp : Placed w) (k : NamespacedName) :
    Placed (rolledOutAt w k) := by
  unfold rolledOutAt
  split
  next => exact hp
  next => exact hp

theorem placed_respecifiedAs {w : World} (hp : Placed w) (dc : DataCenter) :
    Placed (respecifiedAs w dc) := by
  intro k dc' hdc'
  have hfind : (w.store.dataCenters.insert ⟨dc.naming.ns, dc.metadata.anyName⟩ dc).find? k =
    some dc' := hdc'
  rw [SortedMap.find?_insert] at hfind
  split at hfind
  next hk =>
    cases hfind
    rw [← hk]
  next => exact hp k dc' hfind

/-- The system may stand still for a beat, so cues that do not apply can be passed over. -/
theorem beat_still (config : Config) {x : Watch} (hp : Placed x.scene.world) : Beat config x x :=
  .edit (fun _ => rfl) hp rfl rfl

/-- Whatever the cue, what is played is a beat. Runs of examples are therefore given by their cues.
-/
theorem beat_play (config : Config) {x : Watch} (hp : Placed x.scene.world) (cue : Cue) :
    Beat config x (x.play config cue) := by
  unfold Watch.play
  split
  next w round key => exact .move (.begin w key)
  next w key h e next round => exact .move (.act (.act (.performed w e)))
  next w p round => exact .move (.leave w p)
  next w pass round k =>
    have hsame : (rolledOutAt w k).cache = w.cache ∧ (rolledOutAt w k).registry = w.registry := by
      unfold rolledOutAt
      split
      · exact ⟨rfl, rfl⟩
      · exact ⟨rfl, rfl⟩
    exact .edit (edited_rolledOutAt w k) (placed_rolledOutAt hp k) hsame.1 hsame.2
  next w pass round dc => exact .edit (fun _ => rfl) (placed_respecifiedAs hp dc) rfl rfl
  next w pass => exact .opens w pass
  next w pass key m rest status => exact .notes w pass key m rest status
  next scene rest => exact .ends scene rest
  next => exact beat_still config hp

/-- What is played from an idle system, cue by cue, is a chronicle of it. The examples of this and
the next modules are lists of cues, and what happened in them is found by computing. -/
theorem chronicle_played (config : Config) {x : Watch} (hidle : x.scene.pass = none)
    (hp : Placed x.scene.world) (cues : List Cue) : Chronicle config (played config x cues) := by
  have hbeat : ∀ i, Placed (played config x cues i).scene.world →
      Beat config (played config x cues i) (played config x cues (i + 1)) := by
    intro i hi
    unfold played at hi ⊢
    by_cases hlt : i < cues.length
    · rw [List.take_add_one, List.getElem?_eq_getElem hlt, Option.toList_some, List.foldl_concat]
      exact beat_play config hi _
    · -- there are no cues left
      rw [List.take_of_length_le (by omega), List.take_of_length_le (by omega)] at *
      exact beat_still config hi
  have hplaced : ∀ i, Placed (played config x cues i).scene.world := by
    intro i
    induction i with
    | zero => exact hp
    | succ i ih => exact placed_beat (hbeat i ih) ih
  exact ⟨hidle, hp, fun i => hbeat i (hplaced i)⟩

/-- The StatefulSet of a rack of the small DataCenter. -/
def smallRack : NamespacedName := ⟨"n", "c-d-rack1"⟩

/-- A small DataCenter of one rack, with a rack of some pods, and what is cached. -/
def smallWatch (replicas pods : Int32) (cache : StatusCache) : Watch where
  scene := { world := {
    store := {
      dataCenters := SortedMap.insert {} ⟨"n", "d"⟩ (small 1 replicas 1)
      statefulSets := SortedMap.insert {} smallRack
        (Fixture.readyStatefulSet (small 1 1 1) (.new 0) pods) }
    cache } }

theorem placed_smallWatch (replicas pods : Int32) (cache : StatusCache) :
    Placed (smallWatch replicas pods cache).scene.world := by
  intro k dc hdc
  have hfind : (SortedMap.insert {} (⟨"n", "d"⟩ : NamespacedName) (small 1 replicas 1)).find? k =
    some dc := hdc
  rw [SortedMap.find?_insert] at hfind
  split at hfind
  next hk =>
    cases hfind
    rw [← hk]
    rfl
  next => cases hfind

/-- A pass over the small DataCenter, some effects long. -/
def passOf (effects : ℕ) : List Cue :=
  .begin ⟨"n", "d"⟩ :: (List.replicate effects .act ++ [.leave])

end Pass

end RackOperator
