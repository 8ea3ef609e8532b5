import RackOperator.Proofs.Pass.Ways

/-!
# How a pass over a store in memory ends

Of the ways of a pass (`Way`), most of what is said of passes that run to their end needs
little more than the result and the store left. `Ended` is that part, in four cases: there is no
DataCenter; StatefulSets were missing and have been created; a 32-bit sum has no value; or a
decision was made, its one change was made, and the status was written, or refused. What was done
on the way is given by the sidecars asked.
-/

namespace RackOperator

namespace Pass

variable {config : Config} {key : ClusterKey} {s : MemoryStore}

/-- What a decision has done about sidecars: a decommission has asked one member, as often as the
configuration allows, and nothing else has asked any. -/
def Asked (config : Config) : Decision → List Effect → Prop
  | .decommission _ m, es => ∃ n ≤ max config.decommissionMaxAttempts 1,
      es = .connect m :: List.replicate n (.request m .decommission)
  | _, es => es = []

/-- How a pass over a store ends. -/
inductive Ended (config : Config) (key : ClusterKey) (s : MemoryStore) (h : History) :
    Option (Except OperatorError Action) → MemoryStore → Prop
  /-- There is no DataCenter. -/
  | gone (hdc : s.dataCenters.find? ⟨key.ns, key.name⟩ = none) (hh : History.Stores h) :
    Ended config key s h (some (.ok .done)) s
  /-- StatefulSets were missing and are created. -/
  | created {dc : DataCenter} (hdc : s.dataCenters.find? ⟨key.ns, key.name⟩ = some dc)
    (hm : missing key dc s ≠ []) (hh : History.Stores h) :
    Ended config key s h (some (.ok .short)) (created key dc (served key dc s) (missing key dc s))
  /-- A 32-bit sum has no value. -/
  | overflowed {dc : DataCenter} (hdc : s.dataCenters.find? ⟨key.ns, key.name⟩ = some dc)
    (hm : missing key dc s = []) (hh : History.sidecars h = []) :
    Ended config key s h none (served key dc s)
  /-- A decision was made, and the status is written last. -/
  | settled {v : Survey} (hv : v.Whole) (hr : v.Reads key s) (status : DataCenterStatus)
    (hphase : status.phase = v.decision.phase v.dc.previousPhase)
    (hh : Asked config v.decision (History.sidecars h)) :
    Ended config key s h
      (some ((reported key (v.acted key (served key v.dc s)) status).1.map
        fun _ => next config v.decision))
      (reported key (v.acted key (served key v.dc s)) status).2

/-! ## The change of a decision -/

section Changes

variable {v : Survey}

/-- One rack's StatefulSet is replaced, and no other's, since racks have StatefulSets of names of
their own. -/
theorem stored?_replaced (hv : v.Whole) {s : MemoryStore}
    (hf : ∀ p ∈ v.found, stored? key v.dc s p.1 = some p.2) {p : Rack × StatefulSet}
    (hp : p ∈ v.found) {sts : StatefulSet}
    (hname : sts.metadata.anyName = v.dc.naming.statefulSetName p.1) {r : Rack}
    (hr : r ∈ v.dc.racks) :
    stored? key v.dc (s.perform (.replaceStatefulSet key.ns sts)).2 r =
      if r = p.1 then some (s.keeping key.ns sts) else stored? key v.dc s r := by
  unfold stored?
  rw [MemoryStore.find?_replaceStatefulSet, hname]
  by_cases he : r = p.1
  · have hfound := hf p hp
    unfold stored? at hfound
    rw [he, if_pos rfl, if_pos rfl, hfound]
    rfl
  -- Two racks of one DataCenter never share a StatefulSet name.
  · have hne : v.dc.naming.statefulSetName p.1 ≠ v.dc.naming.statefulSetName r := fun hn =>
      he (Naming.statefulSetName_injOn (hv.mem_racks hp) hr hn).symm
    rw [if_neg fun h => hne (congrArg NamespacedName.name h), if_neg he]

/-- A StatefulSet is replaced, a cleanup task created, or nothing changed: that is all a decision
does to the store. -/
theorem acted_cases (v : Survey) (key : ClusterKey) (s : MemoryStore) :
    (∃ sts, v.decision.written? v.observation = some sts ∧
        v.acted key s = (s.perform (.replaceStatefulSet key.ns sts)).2) ∨
      (v.decision = .converged true ∧
        v.acted key s = (s.perform (.createTask key.ns v.dc.cleanupTask)).2) ∨
      (v.decision.written? v.observation = none ∧ v.decision ≠ .converged true ∧
        v.acted key s = s) := by
  cases hw : v.decision.written? v.observation with
  | some sts => exact .inl ⟨sts, rfl, acted_of_written hw s⟩
  | none =>
    by_cases hc : v.decision = .converged true
    · exact .inr (.inl ⟨hc, acted_of_cleanup hc s⟩)
    · exact .inr (.inr ⟨rfl, hc, acted_of_idle hw hc s⟩)

end Changes

/-! ## What is left of a way -/

section Ways

variable {v : Survey} {m : Member} {h : History}

/-- A member is asked to leave once for each attempt, and no oftener than the policy allows. -/
theorem Asking.asked {more : Nat} {tries : History} {x : Except OperatorError Unit}
    (h : Asking config m more tries x) :
    ∃ n ≤ more + 1, History.sidecars tries = List.replicate n (.request m .decommission) := by
  induction h with
  | accepted more => exact ⟨1, Nat.le_add_left 1 more, rfl⟩
  | spent err => exact ⟨1, Nat.le_refl 1, rfl⟩
  | again err _ ih =>
    obtain ⟨n, hn, hs⟩ := ih
    exact ⟨n + 1, Nat.succ_le_succ hn, congrArg (Effect.request m .decommission :: ·) hs⟩

theorem Parting.asked (r : Rack) {tries : History} {x : Except OperatorError Unit}
    (h : Parting config m tries x) :
    Asked config (.decommission r m) (History.sidecars tries) := by
  cases h with
  | unreached err => exact ⟨0, Nat.zero_le _, rfl⟩
  | reached h =>
    obtain ⟨n, hn, hs⟩ := h.asked
    have hmax : config.decommissionRetry.maxAttempts = max config.decommissionMaxAttempts 1 := rfl
    rw [hmax] at hn
    exact ⟨n, by omega, congrArg (Effect.connect m :: ·) hs⟩

/-- What is done for a decision asks sidecars only where a member is to leave, and then that member
only. -/
theorem Applied.asked {st told : DataCenterStatus} {d : Decision} {done : History}
    (h : Applied config key v s st d done told) : Asked config d (History.sidecars done) := by
  cases h with
  | decommissioned r m hp =>
    rw [History.sidecars_concat rfl]
    exact hp.asked r
  | refused r m hp =>
    rw [History.sidecars_concat rfl]
    exact hp.asked r
  | _ => rfl

theorem stores_lookUps (key : ClusterKey) (naming : Naming)
    (looked : List (Rack × Option StatefulSet)) :
    History.Stores (looked.map (lookUp key naming)) :=
  List.forall_mem_map.mpr fun _ _ => ⟨_, rfl⟩

theorem stores_creations (key : ClusterKey) (dc : DataCenter) (racks : List Rack)
    (s : MemoryStore) : History.Stores (creations key dc s racks) := by
  induction racks generalizing s with
  | nil => exact fun a ha => absurd ha List.not_mem_nil
  | cons r rest ih => exact List.forall_mem_cons.mpr ⟨⟨_, rfl⟩, ih _⟩

theorem stores_opening (key : ClusterKey) (dc : DataCenter) : History.Stores (opening key dc) :=
  List.forall_mem_cons.mpr ⟨⟨_, rfl⟩, List.forall_mem_singleton.mpr ⟨_, rfl⟩⟩

theorem stores_reads (key : ClusterKey) (v : Survey) : History.Stores (v.reads key) :=
  Survey.forall_mem_reads ⟨_, rfl⟩ ⟨_, rfl⟩ fun _ _ => ⟨_, rfl⟩

/-- What comes before a decision asks no sidecar, so the sidecars asked by a pass are those of its
decision. -/
theorem sidecars_history (key : ClusterKey) (v : Survey) (done : History) :
    History.sidecars (v.history key ++ done) = History.sidecars done := by
  unfold Survey.history
  rw [List.append_assoc, History.sidecars_append, (stores_reads key v).sidecars]
  rfl

/-- However a pass goes, it ends in one of the four ways. The ways say what was done step by step,
the ends what has come of it. -/
theorem Way.ended {o : Option (Except OperatorError Action)} {s' : MemoryStore}
    (hc : Way config key s h o s') : Ended config key s h o s' := by
  cases hc with
  | gone hdc => exact .gone hdc (List.forall_mem_singleton.mpr ⟨_, rfl⟩)
  | created hdc hm =>
    exact .created hdc hm (((stores_opening _ _).append (stores_lookUps _ _ _)).append
      (stores_creations _ _ _ _))
  | unplanned hdc hm => exact .overflowed hdc hm (stores_reads _ _).sidecars
  | @unsummed v hv hr =>
    have hh := sidecars_history key v []
    rw [List.append_nil] at hh
    exact .overflowed hr.dataCenter (missing_eq_nil hv hr) hh
  | @settled v hv hr _ _ _ done ha =>
    refine .settled hv hr (v.status _) rfl ?_
    rw [History.sidecars_concat rfl, sidecars_history]
    exact ha.asked

/-- So every pass that has run over a store has ended in one of them. -/
theorem ended_of_ran {h : History} {o : Option (Except OperatorError Action)} {s s' : MemoryStore}
    (hr : Program.Ran (run config key).run s h o s') : Ended config key s h o s' :=
  (way_of_ran hr).ended

/-- Where StatefulSets are missing, a pass creates them, and does nothing else but store its status.
-/
theorem created_of_ran {h : History} {o : Option (Except OperatorError Action)} {dc : DataCenter}
    {s s' : MemoryStore} (hr : Program.Ran (run config key).run s h o s')
    (hdc : s.dataCenters.find? ⟨key.ns, key.name⟩ = some dc) (hm : missing key dc s ≠ []) :
    s' = created key dc (served key dc s) (missing key dc s) := by
  cases ended_of_ran hr with
  | gone hnone =>
    rw [hdc] at hnone
    cases hnone
  | created hdc' =>
    cases hdc.symm.trans hdc'
    rfl
  | overflowed hdc' hm' =>
    cases hdc.symm.trans hdc'
    exact absurd hm' hm
  | settled hv hreads =>
    cases hdc.symm.trans hreads.dataCenter
    exact absurd (missing_eq_nil hv hreads) hm

end Ways

end Pass

end RackOperator
