import RackOperator.Proofs.Memory
import RackOperator.Proofs.Pass.Stages

/-!
# The ways of a pass over a store in memory

A store in memory answers each call in one way, so what a pass over one does is settled but for
what the sidecars answer. `Way config key s h o s'` lists the ways a pass begun over `s` can go
to its end, each with all it has done (`h`), its result and the store it leaves: there is no
DataCenter; StatefulSets are missing and are created; the counts found have no plan or the counts
reported no sum, and the pass crashes; or a decision is made, applied (`Applied`) and the status
is written behind it, or refused. `way_of_ran` opens the code of a pass once.
-/

namespace RackOperator.Pass

open Work

variable {config : Config} {key : ClusterKey} {s : MemoryStore}

/-- The StatefulSet stored for a rack of a DataCenter. -/
def stored? (key : ClusterKey) (dc : DataCenter) (s : MemoryStore) (r : Rack) :
    Option StatefulSet :=
  s.statefulSets.find? ⟨key.ns, dc.naming.statefulSetName r⟩

/-- The racks of a DataCenter that have no StatefulSet. -/
def missing (key : ClusterKey) (dc : DataCenter) (s : MemoryStore) : List Rack :=
  dc.racks.filter fun r => (stored? key dc s r).isNone

/-- The store once the Service is seen to. -/
def served (key : ClusterKey) (dc : DataCenter) (s : MemoryStore) : MemoryStore :=
  (s.perform (.ensureService key.ns dc.service)).2

/-- The store once StatefulSets are created for some racks. -/
def created (key : ClusterKey) (dc : DataCenter) (s : MemoryStore) (racks : List Rack) :
    MemoryStore :=
  racks.foldl (fun s r => (s.perform (.createStatefulSet key.ns (dc.initial r))).2) s

/-- The store after the status is written, or refused. -/
def reported (key : ClusterKey) (s : MemoryStore) (status : DataCenterStatus) :
    Except OperatorError Unit × MemoryStore :=
  s.perform (.replaceDataCenterStatus key.ns key.name status)

namespace Survey

/-- The change the decision makes. -/
def call? (v : Survey) (key : ClusterKey) : Option StoreCall :=
  match v.decision with
  | .converged true => some (.createTask key.ns v.dc.cleanupTask)
  | _ => (v.decision.written? v.observation).map (.replaceStatefulSet key.ns)

/-- The store once the decision's change is made. -/
def acted (v : Survey) (key : ClusterKey) (s : MemoryStore) : MemoryStore :=
  match v.call? key with
  | some call => (s.perform call).2
  | none => s

/-- The survey is what a store holds. -/
structure Reads (v : Survey) (key : ClusterKey) (s : MemoryStore) : Prop where
  dataCenter : s.dataCenters.find? ⟨key.ns, key.name⟩ = some v.dc
  found : ∀ p ∈ v.found, stored? key v.dc s p.1 = some p.2

/-- The counts found are those stored, in the order of the racks of the spec. -/
theorem counts_stored {v : Survey} (hv : v.Whole)
    (hf : ∀ p ∈ v.found, stored? key v.dc s p.1 = some p.2) :
    v.counts = v.dc.racks.map fun r =>
      (r, ((stored? key v.dc s r).map StatefulSet.replicas).getD 0) := by
  unfold counts
  rw [← hv.racks, List.map_map]
  refine List.map_congr_left fun p hp => ?_
  show (p.1, p.2.replicas) = (p.1, ((stored? key v.dc s p.1).map StatefulSet.replicas).getD 0)
  rw [hf p hp]
  rfl

end Survey

/-- Each rack with what a look-up of its StatefulSet answers. -/
def looked (key : ClusterKey) (dc : DataCenter) (s : MemoryStore) (racks : List Rack) :
    List (Rack × Option StatefulSet) :=
  racks.map fun r => (r, stored? key dc s r)

/-- The StatefulSets of some racks are created, one after the other. -/
def creations (key : ClusterKey) (dc : DataCenter) : MemoryStore → List Rack → History
  | _, [] => []
  | s, r :: rest =>
    ⟨.store (.createStatefulSet key.ns (dc.initial r)),
      (s.perform (.createStatefulSet key.ns (dc.initial r))).1⟩ ::
      creations key dc (s.perform (.createStatefulSet key.ns (dc.initial r))).2 rest

/-! ## What is done for a decision -/

/-- A StatefulSet that is there is replaced, and this put on record. -/
def replacing (key : ClusterKey) (s : MemoryStore) (sts : StatefulSet) (entry : AuditEntry) :
    History :=
  [⟨.store (.replaceStatefulSet key.ns sts),
      (.ok (s.keeping key.ns sts) : Except OperatorError StatefulSet)⟩, ⟨.audit key entry, ()⟩]

/-- What a pass does for its decision over a store, and what becomes of the status `st`. -/
inductive Applied (config : Config) (key : ClusterKey) (v : Survey) (s : MemoryStore)
    (st : DataCenterStatus) : Decision → History → DataCenterStatus → Prop
  | inconsistent (reason : String) :
    Applied config key v s st (.inconsistent reason) [⟨.audit key (.inconsistent reason), ()⟩]
      { st with lastErrorMessage := some reason }
  | waitForRacks (racks : List Rack) : Applied config key v s st (.waitForRacks racks) [] st
  | waitForMembers (ms : List String) : Applied config key v s st (.waitForMembers ms) [] st
  | updateRack (r : Rack) {g : RackGroup} (hg : v.observation.group? r = some g) :
    Applied config key v s st (.updateRack r)
      (replacing key s g.desired (.rackUpdated r.name v.generation)) st
  | scaleUp (r : Rack) (n : Int) {g : RackGroup} (hg : v.observation.group? r = some g) :
    Applied config key v s st (.scaleUp r n)
      (replacing key s (g.desired.setReplicas (Int32.ofInt n))
        (.rackScaled r.name g.existingReplicas n)) st
  | decommissioned (r : Rack) (m : Member) {tries : History}
    (h : Parting config m tries (.ok ())) :
    Applied config key v s st (.decommission r m)
      (tries ++ [⟨.audit key (.decommission m.name), ()⟩]) st
  | refused (r : Rack) (m : Member) {tries : History} {err : OperatorError}
    (h : Parting config m tries (.error err)) :
    Applied config key v s st (.decommission r m)
      (tries ++ [⟨.audit key (.decommissionFailed m.name err.message), ()⟩])
      { st with
        lastErrorMessage := some ("decommission of " ++ m.name ++ " failed: " ++ err.message) }
  | scaleDown (r : Rack) (n : Int) (m : Member) {g : RackGroup}
    (hg : v.observation.group? r = some g) :
    Applied config key v s st (.scaleDown r n m)
      (replacing key s (g.desired.setReplicas (Int32.ofInt n))
        (.rackScaled r.name g.existingReplicas n)) st
  | waitForDecommission (r : Rack) (m : Member) (status : NodeStatus) :
    Applied config key v s st (.waitForDecommission r m status) [] st
  | converged : Applied config key v s st (.converged false) [] { st with lastErrorMessage := none }
  | cleanup :
    Applied config key v s st (.converged true)
      [⟨.store (.createTask key.ns v.dc.cleanupTask),
          (s.perform (.createTask key.ns v.dc.cleanupTask)).1⟩,
        ⟨.audit key (.cleanupTriggered v.dc.cleanupTask.metadata.anyName), ()⟩]
      { st with lastErrorMessage := none }

/-- The status told, in the phase the decision brings. -/
def Survey.status (v : Survey) (told : DataCenterStatus) : DataCenterStatus :=
  { told with phase := v.decision.phase v.dc.previousPhase }

/-- What a pass does from its decision on. -/
def Survey.settle (v : Survey) (config : Config) (key : ClusterKey) (status : DataCenterStatus) :
    Work Action := do
  let status ← apply config key v.dc v.observation status v.decision
  let status := { status with phase := v.decision.phase v.dc.previousPhase }
  store (.replaceDataCenterStatus key.ns key.name status)
  return next config v.decision

/-- How a pass over a store goes, from its begin to its end. -/
inductive Way (config : Config) (key : ClusterKey) (s : MemoryStore) :
    History → Option (Except OperatorError Action) → MemoryStore → Prop
  /-- There is no DataCenter. -/
  | gone (hdc : s.dataCenters.find? ⟨key.ns, key.name⟩ = none) :
    Way config key s
      [⟨.store (.getDataCenter key.ns key.name), (.ok none : Except _ (Option DataCenter))⟩]
      (some (.ok .done)) s
  /-- StatefulSets were missing and are created. -/
  | created {dc : DataCenter} (hdc : s.dataCenters.find? ⟨key.ns, key.name⟩ = some dc)
    (hm : missing key dc s ≠ []) :
    Way config key s
      (opening key dc ++ (looked key dc s dc.racks).map (lookUp key dc.naming) ++
        creations key dc (served key dc s) (missing key dc s))
      (some (.ok .short)) (created key dc (served key dc s) (missing key dc s))
  /-- The counts found have no plan. -/
  | unplanned {v : Survey} (hdc : s.dataCenters.find? ⟨key.ns, key.name⟩ = some v.dc)
    (hm : missing key v.dc s = []) (hracks : v.found.map (·.1) = v.dc.racks)
    (hf : ∀ p ∈ v.found, stored? key v.dc s p.1 = some p.2)
    (hplan : Layout.planned? (SortedMap.ofList v.counts) v.dc.spec.replicas.toInt = none) :
    Way config key s (v.reads key) none (served key v.dc s)
  /-- The counts reported have no sum. -/
  | unsummed {v : Survey} (hv : v.Whole) (hr : v.Reads key s)
    (ho : (v.dc.status.getD {}).observed? v.observation v.dc.metadata.generation = none) :
    Way config key s (v.history key) none (served key v.dc s)
  /-- A decision was made and applied, and the status is written last. -/
  | settled {v : Survey} (hv : v.Whole) (hr : v.Reads key s) {observed told : DataCenterStatus}
    (ho : (v.dc.status.getD {}).observed? v.observation v.dc.metadata.generation = some observed)
    {done : History}
    (ha : Applied config key v (served key v.dc s) observed v.decision done told) :
    Way config key s
      (v.history key ++ done ++
        [⟨.store (.replaceDataCenterStatus key.ns key.name (v.status told)),
          (reported key (v.acted key (served key v.dc s)) (v.status told)).1⟩])
      (some ((reported key (v.acted key (served key v.dc s)) (v.status told)).1.map
        fun _ => next config v.decision))
      (reported key (v.acted key (served key v.dc s)) (v.status told)).2

/-! ## Up to the decision -/

variable {v : Survey}

theorem missing_eq_nil (hv : v.Whole) (hr : v.Reads key s) : missing key v.dc s = [] := by
  refine List.filter_eq_nil_iff.mpr fun r hmem => ?_
  rw [← hv.racks] at hmem
  obtain ⟨p, hp, rfl⟩ := List.mem_map.mp hmem
  rw [hr.found p hp]
  exact Bool.false_ne_true

/-- What is found of some racks follows from what is stored, so two surveys of one store find the
same. -/
theorem found_unique {f : Rack → Option StatefulSet} {found found' : List (Rack × StatefulSet)}
    (hracks : found'.map (·.1) = found.map (·.1)) (hf : ∀ p ∈ found, f p.1 = some p.2)
    (hf' : ∀ p ∈ found', f p.1 = some p.2) : found' = found := by
  have hlook : ∀ {l : List (Rack × StatefulSet)}, (∀ p ∈ l, f p.1 = some p.2) →
      (l.map (·.1)).filterMap (fun r => (f r).map (r, ·)) = l := by
    intro l hl
    rw [List.filterMap_map]
    refine (List.filterMap_congr fun p hp => ?_).trans List.filterMap_some
    show (f p.1).map (p.1, ·) = some p
    rw [hl p hp]
    rfl
  rw [← hlook hf', hracks, hlook hf]

/-- What is stored for a rack is looked up among the StatefulSets alone. -/
theorem stored?_of_eq {s s' : MemoryStore} (h : s'.statefulSets = s.statefulSets)
    (dc : DataCenter) : stored? key dc s' = stored? key dc s := by
  unfold stored?
  rw [h]

theorem statefulSets_served (dc : DataCenter) (s : MemoryStore) :
    (served key dc s).statefulSets = s.statefulSets :=
  MemoryStore.statefulSets_perform s rfl

theorem statefulSets_reported (s : MemoryStore) (status : DataCenterStatus) :
    (reported key s status).2.statefulSets = s.statefulSets :=
  MemoryStore.statefulSets_perform s rfl

/-- Creating the service leaves the StatefulSets, so the racks are found as before. -/
theorem found_served (hr : v.Reads key s) :
    ∀ p ∈ v.found, stored? key v.dc (served key v.dc s) p.1 = some p.2 := by
  rw [stored?_of_eq (statefulSets_served v.dc s)]
  exact hr.found

/-- The StatefulSet of one rack is created, and no other's, as racks of a DataCenter have names of
their own. -/
theorem stored?_createStatefulSet {dc : DataCenter} {first r : Rack} (hfirst : first ∈ dc.racks)
    (hr : r ∈ dc.racks) (s : MemoryStore) :
    stored? key dc (s.perform (.createStatefulSet key.ns (dc.initial first))).2 r =
      if first = r then some (s.keeping key.ns (dc.initial first)) else stored? key dc s r := by
  unfold stored?
  rw [MemoryStore.find?_createStatefulSet]
  by_cases he : first = r
  · rw [he, if_pos (rfl : r = r)]
    exact if_pos rfl
  · have hne : (dc.initial first).metadata.anyName ≠ dc.naming.statefulSetName r := fun hn =>
      he (Naming.statefulSetName_injOn hfirst hr hn)
    rw [if_neg fun h => hne (congrArg NamespacedName.name h), if_neg he]

/-- Once one rack has its StatefulSet, those that are still to get theirs have none, so the next can
be created too. -/
theorem missing_rest {dc : DataCenter} {first : Rack} {rest : List Rack}
    (hsub : ∀ r ∈ first :: rest, r ∈ dc.racks) (hnd : (first :: rest).Nodup)
    (hm : ∀ r ∈ first :: rest, stored? key dc s r = none) :
    ∀ r ∈ rest, stored? key dc
      (s.perform (.createStatefulSet key.ns (dc.initial first))).2 r = none := by
  intro r hr
  have hne : first ≠ r := fun he => (List.nodup_cons.mp hnd).1 (he ▸ hr)
  rw [stored?_createStatefulSet (hsub first List.mem_cons_self)
    (hsub r (List.mem_cons_of_mem _ hr)), if_neg hne]
  exact hm r (List.mem_cons_of_mem _ hr)

/-- The racks without a StatefulSet are of their DataCenter, each once, and have none stored. -/
theorem missing_spec (key : ClusterKey) (dc : DataCenter) (s : MemoryStore) :
    (∀ r ∈ missing key dc s, r ∈ dc.racks) ∧ (missing key dc s).Nodup ∧
      ∀ r ∈ missing key dc s, stored? key dc (served key dc s) r = none := by
  refine ⟨fun r hr => (List.mem_filter.mp hr).1, (Rack.nodup_all _).filter _, fun r hr => ?_⟩
  rw [stored?_of_eq (statefulSets_served dc s)]
  exact Option.isNone_iff_eq_none.mp (List.mem_filter.mp hr).2

theorem looked_served (dc : DataCenter) (s : MemoryStore) (racks : List Rack) :
    looked key dc (served key dc s) racks = looked key dc s racks := by
  unfold looked
  rw [stored?_of_eq (statefulSets_served dc s)]

theorem missing_looked (dc : DataCenter) (s : MemoryStore) :
    (Census.of (looked key dc s dc.racks)).missing = missing key dc s := by
  show ((dc.racks.map fun r => (r, stored? key dc s r)).filter fun p => p.2.isNone).map (·.1) = _
  rw [List.filter_map, List.map_map]
  exact List.map_id _

/-- Looking up every rack changes nothing and finds exactly what is stored. -/
theorem on_census (key : ClusterKey) (dc : DataCenter) (racks : List Rack)
    {Q : History → MemoryStore → Option (Except OperatorError Census) → Prop} {h : History}
    (hQ : Q (h ++ (looked key dc s racks).map (lookUp key dc.naming)) s
      (some (.ok (.of (looked key dc s racks))))) :
    (census key dc.naming racks).On Q h s := by
  -- The store stays as it is from look-up to look-up; only the history grows.
  induction racks generalizing h Q with
  | nil =>
    rw [show looked key dc s [] = [] from rfl, List.map_nil, List.append_nil] at hQ
    exact (on_pure _).mpr hQ
  | cons r rest ih =>
    unfold census
    refine (on_store_ok (.getStatefulSet key.ns (dc.naming.statefulSetName r))
      (v := stored? key dc s r) rfl _).mpr ((on_bind _ _).mpr (ih ?_))
    rw [← List.append_cons]
    cases hr : stored? key dc s r with
    | none =>
      unfold looked at hQ
      rw [List.map_cons, hr] at hQ
      exact (on_pure _).mpr hQ
    | some sts =>
      unfold looked at hQ
      rw [List.map_cons, hr] at hQ
      exact (on_pure _).mpr hQ

/-- The racks that are missing are created one by one over a store, and every creation is
acknowledged and noted in the trail. -/
theorem on_createMissing (dc : DataCenter) (racks : List Rack) (s : MemoryStore)
    {Q : History → MemoryStore → Option (Except OperatorError Unit) → Prop} {h : History}
    (hQ : Q (h ++ creations key dc s racks) (created key dc s racks) (some (.ok ()))) :
    (createMissing key dc (Layout.initialDistribution dc.spec.replicas.toInt dc.racks.length)
      racks).On Q h s := by
  induction racks generalizing h s Q with
  | nil =>
    rw [creations, List.append_nil] at hQ
    exact (on_pure _).mpr hQ
  | cons r rest ih =>
    have hok := MemoryStore.perform_createStatefulSet_ok s key.ns (dc.initial r)
    rw [creations, hok, List.append_cons] at hQ
    unfold createMissing
    exact (on_store_ok (.createStatefulSet key.ns (dc.initial r)) hok _).mpr (ih _ hQ)

/-! ## From the decision on -/

section Acts

variable {h : History}

/-- A StatefulSet that is replaced was found, so the replacement is acknowledged and what is stored
is the new one at the next version. -/
theorem perform_written (hv : v.Whole) {s : MemoryStore}
    (hf : ∀ p ∈ v.found, stored? key v.dc s p.1 = some p.2) {sts : StatefulSet}
    (hw : v.decision.written? v.observation = some sts) :
    (s.perform (.replaceStatefulSet key.ns sts)).1 =
      (.ok (s.keeping key.ns sts) : Except OperatorError StatefulSet) := by
  obtain ⟨p, hp, hname, -⟩ := Survey.written_cases hv hw
  have hfound : s.statefulSets.find? ⟨key.ns, sts.metadata.anyName⟩ = some p.2 := by
    rw [hname]
    exact hf p hp
  exact MemoryStore.perform_replaceStatefulSet_ok hfound

theorem acted_of_written {sts : StatefulSet}
    (hw : v.decision.written? v.observation = some sts) (s : MemoryStore) :
    v.acted key s = (s.perform (.replaceStatefulSet key.ns sts)).2 := by
  unfold Survey.acted Survey.call?
  rw [hw]
  cases hd : v.decision with
  | converged cleanup =>
    rw [hd] at hw
    cases hw
  | _ => rfl

theorem acted_of_cleanup (hc : v.decision = .converged true) (s : MemoryStore) :
    v.acted key s = (s.perform (.createTask key.ns v.dc.cleanupTask)).2 := by
  unfold Survey.acted Survey.call?
  rw [hc]

/-- A decision that neither writes a StatefulSet nor asks for a cleanup leaves the store as it is.
-/
theorem acted_of_idle (hw : v.decision.written? v.observation = none)
    (hc : v.decision ≠ .converged true) (s : MemoryStore) : v.acted key s = s := by
  unfold Survey.acted Survey.call?
  rw [hw]
  split
  next call h =>
    split at h
    next hd => exact absurd hd hc
    next => cases h
  next => rfl

/-- The rack of a decision that writes a StatefulSet is among those observed, so there is something
to write. -/
theorem exists_written (hv : v.Whole) (h : v.decision.writesStatefulSet = true) :
    ∃ sts, v.decision.written? v.observation = some sts := by
  have hacts : v.decision.acts = true := by
    unfold Decision.acts
    rw [h]
    rfl
  have hc := Survey.chosen_of_acts hacts
  generalize v.decision = d at hc h
  cases hc with
  | updateRack hr =>
    obtain ⟨p, hp, rfl, -⟩ := Survey.mem_racksIn hr
    refine ⟨(v.group p).desired, ?_⟩
    rw [Decision.written?, Observation.group?, Survey.find?_eq_view hv hp]
    rfl
  | scaleUp hr hg =>
    rw [Decision.written?, hg]
    exact ⟨_, rfl⟩
  | decommission => cases h
  | scaleDown hr hg =>
    rw [Decision.written?, hg]
    exact ⟨_, rfl⟩

theorem on_groupOf_bind {β : Type} {o : Observation} {r : Rack} {g : RackGroup}
    (hg : o.group? r = some g) (f : RackGroup → Work β)
    {Q : History → MemoryStore → Option (Except OperatorError β) → Prop} :
    On Q h s (groupOf key o r >>= f) ↔ (f g).On Q h s := by
  unfold groupOf
  rw [hg]
  exact Iff.rfl

/-- A StatefulSet is written, and the pass goes on with the one that is stored now. -/
theorem on_write_bind {β : Type} (hv : v.Whole)
    (hf : ∀ p ∈ v.found, stored? key v.dc s p.1 = some p.2) {sts : StatefulSet}
    (hw : v.decision.written? v.observation = some sts) (f : StatefulSet → Work β)
    {Q : History → MemoryStore → Option (Except OperatorError β) → Prop} :
    On Q h s (store (.replaceStatefulSet key.ns sts) >>= f) ↔
      (f (s.keeping key.ns sts)).On Q (h ++ [⟨.store (.replaceStatefulSet key.ns sts),
        (.ok (s.keeping key.ns sts) : Except OperatorError StatefulSet)⟩]) (v.acted key s) := by
  rw [acted_of_written hw]
  exact on_store_ok (.replaceStatefulSet key.ns sts) (perform_written hv hf hw) f

/-- Scaling looks the rack up, writes its new count, and notes it in the trail. -/
theorem on_scale_bind {β : Type} (hv : v.Whole)
    (hf : ∀ p ∈ v.found, stored? key v.dc s p.1 = some p.2) {r : Rack} {n : Int}
    (hw : v.decision.written? v.observation =
      (v.observation.group? r).map fun g => g.desired.setReplicas (Int32.ofInt n))
    (hsome : ∃ sts, v.decision.written? v.observation = some sts) (f : Unit → Work β)
    {Q : History → MemoryStore → Option (Except OperatorError β) → Prop}
    (hQ : ∀ g, v.observation.group? r = some g →
      (f ()).On Q (h ++ replacing key s (g.desired.setReplicas (Int32.ofInt n))
        (.rackScaled r.name g.existingReplicas n)) (v.acted key s)) :
    On Q h s (scale key v.observation r n >>= f) := by
  obtain ⟨sts, hsts⟩ := hsome
  obtain ⟨g, hg, rfl⟩ := Option.map_eq_some_iff.mp (hw.symm.trans hsts)
  refine (on_bind _ _).mpr ((on_groupOf_bind hg _).mpr ((on_write_bind hv hf hsts _).mpr ?_))
  intro r s' hs
  cases hs
  rw [List.append_assoc]
  exact hQ g hg

/-- Asking and pausing in turn, up to the first answer that is no error or to the last attempt. The
store is not looked at, so it is the same behind the attempts as before. -/
theorem on_attempts (m : Member) (more : Nat)
    {Q : History → MemoryStore → Option (Except OperatorError Unit) → Prop}
    (hQ : ∀ tries x, Asking config m more tries x → Q (h ++ tries) s (some x)) :
    Program.On Q h s (RetryPolicy.attempts (Work.sleep config.decommissionRetry.delay)
      (Program.effect (.request m .decommission)) more) := by
  -- The induction is on the attempts that are left.
  induction more generalizing h with
  | zero =>
    intro r s' hs
    cases hs
    cases r with
    | ok u => exact hQ [_] (.ok u) (.accepted 0)
    | error e => exact hQ [_] (.error e) (.spent e)
  | succ more ih =>
    refine (Program.on_bind _ _ _ _).mpr fun r s' hs => ?_
    cases hs
    cases r with
    | ok u => exact hQ [_] (.ok u) (.accepted _)
    | error e =>
      refine (Program.on_bind _ _ _ _).mpr fun u s' hs => ?_
      cases hs
      refine ih fun tries x ha => ?_
      rw [List.append_assoc, List.append_assoc]
      exact hQ _ x (.again e ha)

/-- Having a member leave touches no store: it connects, and asks as often as it may. -/
theorem on_decommission (m : Member)
    {Q : History → MemoryStore → Option (Except OperatorError Unit) → Prop}
    (hQ : ∀ tries x, Parting config m tries x → Q (h ++ tries) s (some x)) :
    (decommission config m).On Q h s := by
  refine (Program.on_bind _ _ _ _).mpr fun c s' hs => ?_
  cases hs
  cases c with
  | error e => exact hQ [_] (.error e) (.unreached e)
  | ok u =>
    refine on_attempts m _ fun tries x ha => ?_
    rw [List.append_assoc]
    exact hQ _ x (.reached ha)

/-- Whatever was decided, it is applied: the cases are those of the decision, and each says what was
done and what status is due. -/
theorem on_apply (hv : v.Whole) (hf : ∀ p ∈ v.found, stored? key v.dc s p.1 = some p.2)
    (st : DataCenterStatus)
    {Q : History → MemoryStore → Option (Except OperatorError DataCenterStatus) → Prop}
    (hQ : ∀ done told, Applied config key v s st v.decision done told →
      Q (h ++ done) (v.acted key s) (some (.ok told))) :
    (apply config key v.dc v.observation st v.decision).On Q h s := by
  have hsome := exists_written hv
  -- a decision that does nothing
  have hidle : ∀ told, v.decision.written? v.observation = none → v.decision ≠ .converged true →
      Applied config key v s st v.decision [] told → On Q h s (pure told) := by
    intro told hw hc ha
    have hq := hQ [] told ha
    rwa [List.append_nil, acted_of_idle hw hc] at hq
  -- an entry in the trail comes behind what was done
  have hnoted : ∀ done entry told,
      Applied config key v s st v.decision (done ++ [⟨.audit key entry, ()⟩]) told →
      On Q (h ++ done) (v.acted key s) (do audit key entry; return told) := by
    intro done entry told ha
    refine (on_audit_bind _ _ _).mpr ((on_pure _).mpr ?_)
    rw [List.append_assoc]
    exact hQ _ told ha
  cases hd : v.decision with
  | inconsistent reason =>
    have hq := hnoted [] (.inconsistent reason) { st with lastErrorMessage := some reason }
      (by rw [hd]; exact .inconsistent reason)
    rwa [List.append_nil, acted_of_idle (by rw [hd]; rfl) (by rw [hd]; simp)] at hq
  | waitForRacks racks =>
    rw [hd] at hidle
    exact hidle st rfl (by simp) (.waitForRacks racks)
  | waitForMembers ms =>
    rw [hd] at hidle
    exact hidle st rfl (by simp) (.waitForMembers ms)
  | updateRack r =>
    obtain ⟨sts, hsts⟩ := hsome (by rw [hd]; rfl)
    have hw := hsts
    rw [hd] at hw
    obtain ⟨g, hg, rfl⟩ := Option.map_eq_some_iff.mp hw
    refine (on_groupOf_bind hg _).mpr ((on_write_bind hv hf hsts _).mpr ?_)
    refine hnoted [_] (.rackUpdated r.name v.generation) st ?_
    rw [hd]
    exact .updateRack r hg
  | scaleUp r n =>
    have hsts := hsome (by rw [hd]; rfl)
    refine on_scale_bind hv hf (by rw [hd]; rfl) hsts _ fun g hg => (on_pure _).mpr (hQ _ _ ?_)
    rw [hd]
    exact .scaleUp r n hg
  | decommission r m =>
    have hstore : v.acted key s = s := acted_of_idle (by rw [hd]; rfl) (by rw [hd]; simp) s
    rw [hstore] at hnoted
    refine (on_ofProgram_bind _ _).mpr (on_decommission m fun tries x hp => ?_)
    cases x with
    | ok u =>
      refine hnoted _ _ st ?_
      rw [hd]
      exact .decommissioned r m hp
    | error e =>
      refine hnoted _ _ _ ?_
      rw [hd]
      exact .refused r m hp
  | scaleDown r n m =>
    have hsts := hsome (by rw [hd]; rfl)
    refine on_scale_bind hv hf (by rw [hd]; rfl) hsts _ fun g hg => (on_pure _).mpr (hQ _ _ ?_)
    rw [hd]
    exact .scaleDown r n m hg
  | waitForDecommission r m status =>
    rw [hd] at hidle
    exact hidle st rfl (by simp) (.waitForDecommission r m status)
  | converged cleanup =>
    cases cleanup with
    | false =>
      rw [hd] at hidle
      exact hidle { st with lastErrorMessage := none } rfl (by simp) .converged
    | true =>
      rw [acted_of_cleanup hd] at hnoted
      obtain ⟨task, hok, hname⟩ := s.perform_createTask_ok key.ns v.dc.cleanupTask
      refine (on_store_ok (.createTask key.ns v.dc.cleanupTask) hok _).mpr ?_
      refine hnoted [_] (.cleanupTriggered task.metadata.anyName)
        { st with lastErrorMessage := none } ?_
      have ha : Applied config key v s st (.converged true) _ _ := .cleanup
      rw [hok] at ha
      rw [hd, hname]
      exact ha

/-- The status is written last, and a pass succeeds exactly if this does. A DataCenter that has gone
by then makes it fail. -/
theorem on_report {s : MemoryStore} (status : DataCenterStatus) (next : Action)
    {Q : History → MemoryStore → Option (Except OperatorError Action) → Prop}
    (hQ : Q (h ++ [⟨.store (.replaceDataCenterStatus key.ns key.name status),
        (reported key s status).1⟩])
      (reported key s status).2 (some ((reported key s status).1.map fun _ => next))) :
    On Q h s (store (.replaceDataCenterStatus key.ns key.name status) >>= fun _ => pure next) := by
  refine (on_store_bind _ _).mpr ?_
  unfold reported at hQ
  cases hr : (s.perform (.replaceDataCenterStatus key.ns key.name status)).1 with
  | error e =>
    rw [hr] at hQ
    exact hQ
  | ok u =>
    rw [hr] at hQ
    exact hQ

/-- Once a decision is made, the pass applies it and then records the status, error or not. -/
theorem on_settle (config : Config) (hv : v.Whole)
    (hf : ∀ p ∈ v.found, stored? key v.dc s p.1 = some p.2)
    (st : DataCenterStatus)
    {Q : History → MemoryStore → Option (Except OperatorError Action) → Prop}
    (hQ : ∀ done told, Applied config key v s st v.decision done told →
      Q (h ++ done ++ [⟨.store (.replaceDataCenterStatus key.ns key.name (v.status told)),
          (reported key (v.acted key s) (v.status told)).1⟩])
        (reported key (v.acted key s) (v.status told)).2
        (some ((reported key (v.acted key s) (v.status told)).1.map
          fun _ => next config v.decision))) :
    (v.settle config key st).On Q h s :=
  (on_bind _ _).mpr (on_apply hv hf st fun done told ha => on_report _ _ (hQ done told ha))

/-- With every StatefulSet found, a pass decides and settles, unless a sum overflows and it crashes
before anything is written. -/
theorem on_converge {dc : DataCenter} {s : MemoryStore}
    (hdc : s.dataCenters.find? ⟨key.ns, key.name⟩ = some dc)
    {found : List (Rack × StatefulSet)} (hracks : found.map (·.1) = dc.racks)
    (hf : ∀ p ∈ found, stored? key dc s p.1 = some p.2) (hm : missing key dc s = []) :
    (converge config key dc found).On (fun h s' o => Way config key s h o s')
      (opening key dc ++ found.map fun p => lookUp key dc.naming (p.1, some p.2))
      (served key dc s) := by
  refine (on_orCrash_bind _ _).mpr ⟨fun planned hplan => ?_, fun hplan => ?_⟩
  swap
  · exact .unplanned (v := ⟨dc, found, {}, ⟨{}⟩⟩) hdc hm hracks hf hplan
  refine (on_register_bind _ _ _).mpr ((on_snapshot_bind _ _).mpr fun statuses => ?_)
  -- From the snapshot on, all that the pass reads is one survey.
  let v : Survey := ⟨dc, found, planned, statuses⟩
  have hv : v.Whole := ⟨hracks, hplan⟩
  have hr : v.Reads key s := ⟨hdc, hf⟩
  rw [List.append_assoc]
  show (orCrash ((v.dc.status.getD {}).observed? v.observation v.dc.metadata.generation) >>=
    v.settle config key).On (fun h s' o => Way config key s h o s') (v.history key)
      (served key v.dc s)
  refine (on_orCrash_bind _ _).mpr ⟨fun observed ho => ?_, .unsummed hv hr⟩
  exact on_settle config hv (found_served hr) observed fun done told ha => .settled hv hr ho ha

/-- A pass over a store goes one of these ways. Nothing more is said of a pass below than what its
way says. -/
theorem on_run (config : Config) (key : ClusterKey) (s : MemoryStore) :
    (run config key).On (fun h s' o => Way config key s h o s') [] s := by
  cases hdc : s.dataCenters.find? ⟨key.ns, key.name⟩ with
  | none =>
    exact (on_store_ok (.getDataCenter key.ns key.name) (v := none)
      (congrArg Except.ok hdc) _).mpr ((on_pure _).mpr (.gone hdc))
  | some dc =>
    refine (on_store_ok (.getDataCenter key.ns key.name) (v := some dc)
      (congrArg Except.ok hdc) _).mpr ?_
    refine (on_store_ok (.ensureService key.ns dc.service) (v := ())
      (MemoryStore.perform_ensureService_ok _ _ _) _).mpr ?_
    refine (on_bind _ _).mpr (on_census (s := served key dc s) key dc dc.racks ?_)
    rw [looked_served]
    let c := Census.of (looked key dc s dc.racks)
    have hmissing : c.missing = missing key dc s := missing_looked dc s
    show (if c.missing.isEmpty then converge config key dc c.existing
      else createMissing key dc
        (Layout.initialDistribution dc.spec.replicas.toInt dc.racks.length) c.missing
          >>= fun _ => pure .short).On _ _ _
    -- Either every rack was found, and the pass converges, or it creates those that are missing.
    by_cases hm : missing key dc s = []
    · have hall : looked key dc s dc.racks = c.existing.map fun p => (p.1, some p.2) :=
        Census.missing_nil (hmissing.trans hm)
      rw [hmissing, hm, if_pos List.isEmpty_nil, hall, List.map_map]
      refine on_converge hdc ?_ (fun p hp => ?_) hm
      · have hfst : (looked key dc s dc.racks).map (·.1) = dc.racks := by
          unfold looked
          rw [List.map_map]
          exact List.map_id _
        rw [hall, List.map_map] at hfst
        exact hfst
      · have hmem : (p.1, some p.2) ∈ looked key dc s dc.racks := by
          rw [hall]
          exact List.mem_map_of_mem (f := fun p : Rack × StatefulSet => (p.1, some p.2)) hp
        obtain ⟨r, -, he⟩ := List.mem_map.mp hmem
        obtain ⟨hr, hsts⟩ := Prod.mk.inj he
        rwa [hr] at hsts
    · rw [hmissing, if_neg (by rwa [List.isEmpty_iff])]
      exact (on_bind _ _).mpr (on_createMissing dc _ _ ((on_pure _).mpr (.created hdc hm)))

/-- A pass that has run over a store without interruption has gone one of its ways. -/
theorem way_of_ran {h : History} {o : Option (Except OperatorError Action)}
    {s s' : MemoryStore} (hr : Program.Ran (run config key).run s h o s') :
    Way config key s h o s' :=
  hr.on [] (on_run config key s)

end Acts

end RackOperator.Pass
