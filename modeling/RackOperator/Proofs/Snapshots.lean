import RackOperator.Proofs.Aims
import RackOperator.Proofs.Deeds
import RackOperator.Proofs.Pass.Rollout

/-!
# Members and their statuses are told apart

The cache keeps a status under a namespace and a pod name, and a unit of work copies the statuses of
its members under the pod name alone. Two things make that enough. The members of one DataCenter
have names of their own (`DataCenter.Has.eq_of_name`), whatever the cluster and the datacenter are
called, since a number is read back from its digits and no dash or digit is left over in front of
it. And they share a namespace, so a name stands for one key: a copy says of each member what the
cache says of it, and nothing of any other pod (`StatusCache.exact_snapshot`).

Whoever copies statuses does it for members of one DataCenter, the one found before
(`Errand.distinct_of_follows`). So both hold of every copy that a pass or an advance makes
(`members_told_apart`).
-/

namespace RackOperator

/-! ## Names -/

/-- A pod name says the rack and the ordinal, and is said by them. -/
theorem Naming.podName_new_iff (n : Naming) (i j : Nat) (a b : Int) :
    n.podName (.new i) a = n.podName (.new j) b ↔ i = j ∧ a = b := by
  constructor
  · intro h
    exact (podName_new_inj h).2
  · rintro ⟨rfl, rfl⟩
    rfl

variable {dc : DataCenter} {m m' : Member} {e : Effect} {h : History}

theorem DataCenter.Has.ns_eq (hm : dc.Has m) : m.ns = dc.naming.ns := by
  obtain ⟨r, -, o, rfl⟩ := hm
  rfl

/-- Members of one DataCenter that have the same name are the same. -/
theorem DataCenter.Has.eq_of_name (hm : dc.Has m) (hm' : dc.Has m') (h : m.name = m'.name) :
    m = m' := by
  obtain ⟨r, hr, o, rfl⟩ := hm
  obtain ⟨r', hr', o', rfl⟩ := hm'
  obtain ⟨i, -, rfl⟩ := Rack.mem_all.mp hr
  obtain ⟨j, -, rfl⟩ := Rack.mem_all.mp hr'
  obtain ⟨rfl, ho⟩ := (dc.naming.podName_new_iff i j o o').mp h
  rw [ho]

/-- The members an effect is about are of one namespace and have names of their own. -/
structure Effect.Distinct (e : Effect) : Prop where
  ns : ∀ m ∈ e.members, ∀ m' ∈ e.members, m.ns = m'.ns
  name : ∀ m ∈ e.members, ∀ m' ∈ e.members, m.name = m'.name → m = m'

/-- The members an effect names are told apart, as they are of one DataCenter. -/
theorem Aims.distinct {key : ClusterKey} (ha : Aims key h e) : e.Distinct := by
  rcases ha with hapart | ⟨dc, -, hwithin⟩
  · have hnone : ∀ m, m ∉ e.members := fun m hm => by simp [hapart.members] at hm
    exact {
      ns := fun m hm => absurd hm (hnone m)
      name := fun m hm => absurd hm (hnone m) }
  · have hhas := hwithin.members
    exact {
      ns := fun m hm m' hm' => (hhas m hm).ns_eq.trans (hhas m' hm').ns_eq.symm
      name := fun m hm m' hm' => (hhas m hm).eq_of_name (hhas m' hm') }

/-- Whatever a unit of work is about, it tells the members apart. -/
theorem Errand.distinct_of_follows {config : Config} {x : Errand}
    {p : Program (Except OperatorError Action)} (hf : Program.Follows (x.work config).run h p)
    {a : Answered} (ha : a ∈ h) : a.effect.Distinct := by
  cases x with
  | pass key =>
    obtain ⟨h₁, -, hd⟩ := (Program.Holds.follows (Pass.holds_run config key) hf).2 a ha
    exact (Pass.aims_of_due hd).distinct
  | advance key =>
    obtain ⟨h₁, -, htargets, -⟩ :=
      (Program.Holds.follows (Advance.targets_run config key) hf).2 a ha
    rcases htargets with hapart | ⟨t, -, haims⟩
    · have haims : Aims key h₁ a.effect := .inl hapart
      exact haims.distinct
    · exact haims.distinct

/-- A pass copies the statuses of every member once. -/
theorem Pass.nodup_of_follows {config : Config} {key : ClusterKey}
    {p : Program (Except OperatorError Action)} (hf : Program.Follows (run config key).run h p)
    {ms : List Member} {copied : StatusSnapshot} (ha : ⟨.snapshot ms, copied⟩ ∈ h) :
    (ms.map (·.name)).Nodup := by
  obtain ⟨h₁, -, hd⟩ := (Program.Holds.follows (holds_run config key) hf).2 _ ha
  cases hd with
  | snapshot v hv => exact hv.nodup_members

/-! ## Statuses -/

/-- A copy says of each of some members what the cache says of it under its key, UNKNOWN if
nothing, and UNKNOWN of every other pod. -/
structure StatusSnapshot.Exact (s : StatusSnapshot) (c : StatusCache) (ms : List Member) :
    Prop where
  listed : ∀ m ∈ ms, s.statusOf m.name = (c.find? m.key).getD .unknown
  unlisted : ∀ pod, pod ∉ ms.map (·.name) → s.statusOf pod = .unknown

/-- Among members of one namespace a name is as good as a key, so a snapshot by name mixes nothing
up: it says of each member what the cache has under its key, and UNKNOWN of every other pod. -/
theorem StatusCache.exact_snapshot (c : StatusCache) {ms : List Member}
    (hns : ∀ m ∈ ms, ∀ m' ∈ ms, m.ns = m'.ns) : (c.snapshot ms).Exact c ms := by
  have hpairs : ∀ pod status, (pod, status) ∈
      (ms.filterMap fun m => (c.find? m.key).map fun s => (m.name, s)) ↔
        ∃ m ∈ ms, m.name = pod ∧ c.find? m.key = some status := by
    intro pod status
    rw [List.mem_filterMap]
    constructor
    · rintro ⟨m, hm, hp⟩
      obtain ⟨cached, hcached, he⟩ := Option.map_eq_some_iff.mp hp
      cases he
      exact ⟨m, hm, rfl, hcached⟩
    · rintro ⟨m, hm, rfl, hcached⟩
      exact ⟨m, hm, by rw [hcached]; rfl⟩
  constructor
  · intro m hm
    unfold StatusSnapshot.statusOf
    congr 1
    -- Within one namespace the name of a member is all there is to its key.
    have hkey : ∀ m' ∈ ms, m'.name = m.name → m'.key = m.key := by
      intro m' hm' hname
      unfold Member.key
      rw [hname, hns m' hm' m hm]
    cases hcached : c.find? m.key with
    | some status =>
      refine SortedMap.find?_ofList_of_forall ((hpairs _ _).mpr ⟨m, hm, rfl, hcached⟩) ?_
      intro other hother
      obtain ⟨m', hm', hname, hcached'⟩ := (hpairs _ _).mp hother
      rw [hkey m' hm' hname, hcached] at hcached'
      exact (Option.some.inj hcached').symm
    | none =>
      refine SortedMap.find?_ofList_of_notMem fun hmem => ?_
      obtain ⟨⟨pod, status⟩, hp, rfl⟩ := List.mem_map.mp hmem
      obtain ⟨m', hm', hname, hcached'⟩ := (hpairs _ _).mp hp
      rw [hkey m' hm' hname, hcached] at hcached'
      cases hcached'
  · intro pod hpod
    have hnone : (c.snapshot ms).statuses.find? pod = none := by
      refine SortedMap.find?_ofList_of_notMem fun hmem => hpod ?_
      obtain ⟨⟨_, status⟩, hp, rfl⟩ := List.mem_map.mp hmem
      obtain ⟨m, hm, hname, -⟩ := (hpairs _ _).mp hp
      exact List.mem_map.mpr ⟨m, hm, hname⟩
    unfold StatusSnapshot.statusOf
    rw [hnone]
    rfl

/-- **Members are told apart by name, and so are their statuses.** Two pods of one DataCenter have
the same name only if they are the same pod. So the members that a pass or an advance copies
statuses of have names of their own, a pass lists each of them once, and whatever the cache holds,
the copy says of each member what the cache holds under its namespace and name. -/
theorem members_told_apart :
    (∀ (n : Naming) (i j : Nat) (a b : Int),
        n.podName (.new i) a = n.podName (.new j) b ↔ i = j ∧ a = b) ∧
      ∀ (config : Config) (x : Errand) (h : History) (p : Program (Except OperatorError Action)),
        Program.Follows (x.work config).run h p →
          ∀ (ms : List Member) (copied : StatusSnapshot), ⟨.snapshot ms, copied⟩ ∈ h →
            (∀ m ∈ ms, ∀ m' ∈ ms, m.name = m'.name → m = m') ∧
              (∀ key, x = .pass key → (ms.map (·.name)).Nodup) ∧
                ∀ c : StatusCache, (c.snapshot ms).Exact c ms := by
  refine ⟨Naming.podName_new_iff, fun config x h p hf ms copied ha => ?_⟩
  have hdistinct := Errand.distinct_of_follows hf ha
  refine ⟨hdistinct.name, ?_, fun c => c.exact_snapshot hdistinct.ns⟩
  rintro key rfl
  exact Pass.nodup_of_follows hf ha

namespace Pass

/-- The first member of two, a namesake of the second in another namespace, and the pod of a rack
that is not there. -/
def mixed : StatusCache := .ofList [(⟨"n", "c-d-rack1-0"⟩, .normal),
  (⟨"m", "c-d-rack2-0"⟩, .decommissioned), (⟨"n", "c-d-rack11-0"⟩, .leaving)]

/-- The pass that finds both racks copies what is cached of its own two members. -/
theorem mixed_told_apart : ∃ h p copied,
    Program.Follows (Errand.work {} (.pass smallKey)).run h p ∧
      ⟨.snapshot rolling.members, copied⟩ ∈ h ∧
        (rolling.members.map (·.name)).Nodup ∧ (mixed.snapshot rolling.members).Exact mixed
          rolling.members := by
  obtain ⟨status, ho⟩ := rolling_observed
  have hf : Program.Follows (Errand.work {} (.pass smallKey)).run (rolling.history smallKey) _ :=
    follows_run rolling_whole ho
  have ha : ⟨.snapshot rolling.members, rolling.statuses⟩ ∈ rolling.history smallKey := by
    simp [Survey.history]
  obtain ⟨-, hnd, hexact⟩ := members_told_apart.2 {} _ _ _ hf _ _ ha
  exact ⟨_, _, _, hf, ha, hnd smallKey rfl, hexact mixed⟩

end Pass

end RackOperator
