import RackOperator.Proofs.Pass.Layouts
import RackOperator.Proofs.Pass.Rollout
import RackOperator.Proofs.Pass.Scaling

/-!
# The cleanup behind a resize

When a rack has been grown or shrunk, data is left on nodes that do not own it any more, and a
cleanup task is to be created by the time the DataCenter is RUNNING again. All that tells a pass
of a resize is the phase stored by an earlier one, so the question is what can become of
that phase.

Once it has been stored nothing takes it back (`cleanup_of_resize`): no rack is behind any more
and none falls behind, so no pass rolls one (`Scaled`); a rack is still grown only where the
cleanup is due after growing as well; every other pass keeps the phase, and the pass that
converges creates the task before it stores a status, so a refused one does not matter.

But the pass that resizes stores the phase after the resize, and that write may be refused. If the
phase stored before was not one of scaling, the next pass finds the DataCenter converged with
nothing to clean up (`cleanup_lost`).
-/

namespace RackOperator

namespace Pass

open Relation (ReflTransGen)

variable {config : Config} {key : ClusterKey} {dc : DataCenter} {v : Survey}
  {s s' : MemoryStore}

/-- A StatefulSet was not built from a generation before the present one. -/
def UpToDate (dc : DataCenter) (sts : StatefulSet) : Prop :=
  ∀ r ∈ sts.recordedGeneration, ∀ c ∈ dc.metadata.generation.map Int64.toInt, c ≤ r

/-- What a resize leaves, and every later pass: no rack is behind, and none is to be grown unless
more than one node is wanted. -/
structure Scaled (key : ClusterKey) (dc : DataCenter) (s : MemoryStore) : Prop where
  current : ∀ r ∈ dc.racks, ∃ sts, stored? key dc s r = some sts ∧ UpToDate dc sts
  enough : 1 < dc.spec.replicas.toInt ∨ max dc.spec.replicas.toInt 0 ≤ (counts key dc s).sum

theorem Scaled.congr (hs : Scaled key dc s) (h : s'.statefulSets = s.statefulSets) :
    Scaled key dc s' := by
  have hstored : stored? key dc s' = stored? key dc s := stored?_of_eq h dc
  refine ⟨fun r hr => ?_, hs.enough.imp_right fun henough => ?_⟩
  · rw [hstored]
    exact hs.current r hr
  · unfold counts
    rw [hstored]
    exact henough

/-- A rack has been shrunk, or grown where more than one node is wanted. -/
def Resized (key : ClusterKey) (dc : DataCenter) (s s' : MemoryStore) : Prop :=
  ∃ r ∈ dc.racks, ∃ sts sts', stored? key dc s r = some sts ∧ stored? key dc s' r = some sts' ∧
    (sts'.replicas < sts.replicas ∨ sts.replicas < sts'.replicas ∧ 1 < dc.spec.replicas.toInt)

theorem Resized.congr {t t' : MemoryStore} (hr : Resized key dc s s')
    (h : t.statefulSets = s.statefulSets) (h' : t'.statefulSets = s'.statefulSets) :
    Resized key dc t t' := by
  unfold Resized
  rw [stored?_of_eq h, stored?_of_eq h']
  exact hr

/-- Where the StatefulSets stay as they are nothing is resized, so a resize is always the doing of a
pass that writes. -/
theorem not_resized (h : ∀ r ∈ dc.racks, ∀ sts, stored? key dc s r = some sts →
    stored? key dc s' r = some sts) : ¬Resized key dc s s' := by
  rintro ⟨r, hr, old, new, hold, hnew, hcount⟩
  cases (h r hr old hold).symm.trans hnew
  omega

/-- Whether the phase stored has a converged pass create a cleanup task. -/
def cleanupDue (dc : DataCenter) (phase : DataCenterPhase) : Prop :=
  Decision.cleanupDue phase dc.spec.replicas.toInt = true

/-- The creation of the cleanup task. -/
def cleanupOf (dc : DataCenter) : Mutation := .createTask dc.cleanupTask.metadata.anyName

/-! ## Counts and generations a survey has found -/

section Found

variable (hv : v.Whole) (hf : ∀ p ∈ v.found, stored? key v.dc s p.1 = some p.2)

include hv hf

theorem total_eq : v.total = (counts key v.dc s).sum := by
  unfold Survey.total
  rw [Survey.counts_stored hv hf, List.map_map]
  rfl

/-- Replacing one StatefulSet moves the total by the difference. The other racks are found under
names of their own, and keep their counts. -/
theorem sum_counts_replaced {p : Rack × StatefulSet} (hp : p ∈ v.found) {sts : StatefulSet}
    (hname : sts.metadata.anyName = v.dc.naming.statefulSetName p.1) :
    (counts key v.dc (s.perform (.replaceStatefulSet key.ns sts)).2).sum + p.2.replicas =
      (counts key v.dc s).sum + sts.replicas := by
  have hmem := hv.mem_racks hp
  have hnd : v.dc.racks.Nodup := Rack.nodup_all _
  unfold counts
  rw [← List.sum_map_erase _ hmem, ← List.sum_map_erase (l := v.dc.racks) _ hmem,
    stored?_replaced hv hf hp hname hmem, if_pos rfl, hf p hp]
  -- the other racks have the counts they had
  have hothers : ∀ r ∈ v.dc.racks.erase p.1,
      stored? key v.dc (s.perform (.replaceStatefulSet key.ns sts)).2 r = stored? key v.dc s r := by
    intro r hr
    obtain ⟨hne, hr⟩ := hnd.mem_erase_iff.mp hr
    rw [stored?_replaced hv hf hp hname hr, if_neg hne]
  rw [List.map_congr_left fun r hr => by rw [hothers r hr]]
  show sts.replicas + _ + p.2.replicas = p.2.replicas + _ + sts.replicas
  omega

omit hv hf in
/-- Where no rack is behind, those that keep their counts are up to date, since a rack at its count
is found behind or current. -/
theorem upToDate_found (hcurrent : v.observation.racksIn .behind = []) {p : Rack × StatefulSet}
    (hp : p ∈ v.found) (hkeeps : (v.group p).desiredReplicas = p.2.replicas) :
    UpToDate v.dc p.2 := by
  intro r hr c hc
  by_contra hlt
  have hmode : (v.view p).mode = .behind := by
    show RackMode.classify (v.group p).desiredReplicas p.2.replicas _ _ = _
    rw [hkeeps]
    exact RackMode.classify_behind_iff.mpr ⟨r, hr, c, hc, Int.not_le.mp hlt⟩
  have hbehind : p.1 ∈ v.observation.racksIn .behind :=
    List.mem_map.mpr ⟨v.view p, List.mem_filter.mpr
      ⟨Survey.mem_racks.mpr ⟨p, hp, rfl⟩, decide_eq_true hmode⟩, rfl⟩
  rw [hcurrent] at hbehind
  exact absurd hbehind List.not_mem_nil

/-- Where every StatefulSet is up to date no rack is behind, so nothing is rolled before the resize
is done. -/
theorem not_behind (hs : Scaled key v.dc s) : v.observation.racksIn .behind = [] := by
  refine List.eq_nil_iff_forall_not_mem.mpr fun r hr => ?_
  obtain ⟨p, hp, rfl, hm⟩ := Survey.mem_racksIn hr
  have hsame := RackMode.classify_behind hm
  change RackMode.classify (v.group p).desiredReplicas p.2.replicas _ _ = _ at hm
  change (v.group p).desiredReplicas = p.2.replicas at hsame
  rw [hsame] at hm
  obtain ⟨r, hr, c, hc, hlt⟩ := RackMode.classify_behind_iff.mp hm
  obtain ⟨sts, hsts, hcurrent⟩ := hs.current _ (hv.mem_racks hp)
  cases (hf p hp).symm.trans hsts
  have := hcurrent r hr c hc
  omega

/-- A rack that is given a StatefulSet built at the present generation is up to date, and the others
are if they were. -/
theorem current_replaced {p : Rack × StatefulSet} (hp : p ∈ v.found) {sts : StatefulSet}
    (hw : v.decision.written? v.observation = some sts)
    (hname : sts.metadata.anyName = v.dc.naming.statefulSetName p.1)
    (hothers : ∀ r ∈ v.dc.racks, r ≠ p.1 →
      ∃ sts, stored? key v.dc s r = some sts ∧ UpToDate v.dc sts) :
    ∀ r ∈ v.dc.racks, ∃ sts', stored? key v.dc (s.perform (.replaceStatefulSet key.ns sts)).2 r =
      some sts' ∧ UpToDate v.dc sts' := by
  intro r hr
  rw [stored?_replaced hv hf hp hname hr]
  by_cases he : r = p.1
  · refine ⟨_, if_pos he, fun g hg c hc => ?_⟩
    change g ∈ sts.recordedGeneration at hg
    rw [Survey.written_recorded hw] at hg
    cases Option.mem_unique hg hc
    exact Int.le_refl _
  · rw [if_neg he]
    exact hothers r hr he

/-- What a pass changes leaves the racks as a resize left them: up to date, and on their way to the
total that is wanted. -/
theorem scaled_acted (hs : Scaled key v.dc s) : Scaled key v.dc (v.acted key s) := by
  rcases acted_cases v key s with ⟨sts, hw, hacted⟩ | ⟨-, hacted⟩ | ⟨-, -, hacted⟩
  · obtain ⟨p, hp, hname, hmode⟩ := Survey.written_mode hv hw
    have hsum := sum_counts_replaced hv hf hp hname
    rw [hacted]
    refine ⟨current_replaced hv hf hp hw hname fun r hr _ => hs.current r hr,
      hs.enough.imp_right fun henough => ?_⟩
    -- A roll keeps the sum and a growth raises it; a shrink is chosen only above the wanted size.
    rcases hmode with ⟨-, -, hn⟩ | ⟨-, -, hn⟩ | ⟨-, hm, hn, -⟩
    · omega
    · omega
    · have hdown := (Survey.wanted_lt_of_scaleDown hv hp hm).1
      rw [total_eq hv hf] at hdown
      unfold Survey.wanted at hdown
      omega
  · rw [hacted]
    exact hs.congr (MemoryStore.statefulSets_perform s rfl)
  · rw [hacted]
    exact hs

/-- A cleanup that is due stays due, until a pass converges and creates it. The phases in between
are those of scaling or of waiting, which keep the memory of it. -/
theorem due_acted (hs : Scaled key v.dc s) (hdue : cleanupDue v.dc v.dc.previousPhase) :
    v.decision = .converged true ∨ cleanupDue v.dc (v.decision.phase v.dc.previousPhase) := by
  have hc := Survey.choice hv
  generalize v.decision = d at hc ⊢
  cases hc with
  | waitForRacks => exact .inr hdue
  | waitForMembers => exact .inr hdue
  -- No rack is behind, so nothing is left to roll.
  | updateRack hr =>
    rw [not_behind hv hf hs] at hr
    exact absurd hr List.not_mem_nil
  | scaleUp _ ht =>
    refine .inr (decide_eq_true (hs.enough.resolve_right fun henough => ?_))
    rw [total_eq hv hf] at ht
    unfold Survey.wanted at ht
    omega
  | scaleDown _ _ hphase =>
    rw [hphase]
    exact .inr rfl
  | converged =>
    left
    rw [show Decision.cleanupDue v.dc.previousPhase v.dc.spec.replicas.toInt = true from hdue]

/-- A pass that resizes a rack decides on a phase of scaling, and leaves the racks so that it stays:
none of them is behind, and none is still to be grown unless more than one node is wanted. -/
theorem scaled_of_resized (hr : Resized key v.dc s (v.acted key s)) :
    Scaled key v.dc (v.acted key s) ∧
      cleanupDue v.dc (v.decision.phase v.dc.previousPhase) := by
  rcases acted_cases v key s with ⟨sts, hw, hacted⟩ | ⟨-, hacted⟩ | ⟨-, -, hacted⟩
  · obtain ⟨r, hrack, old, new, hold, hnew, hcount⟩ := hr
    obtain ⟨p, hp, hname, hmode⟩ := Survey.written_mode hv hw
    have hsum := sum_counts_replaced hv hf hp hname
    rw [hacted] at hnew ⊢
    rw [stored?_replaced hv hf hp hname hrack] at hnew
    -- the rack resized is the one replaced
    obtain rfl : r = p.1 := by
      by_contra hne
      rw [if_neg hne, hold] at hnew
      cases hnew
      omega
    rw [if_pos rfl] at hnew
    cases hnew
    rw [hf p hp] at hold
    cases hold
    rw [MemoryStore.replicas_keeping] at hcount
    have hcurrent : v.observation.racksIn .behind = [] →
        (v.group p).desiredReplicas ≠ p.2.replicas →
        ∀ r ∈ v.dc.racks, ∃ sts',
          stored? key v.dc (s.perform (.replaceStatefulSet key.ns sts)).2 r = some sts' ∧
            UpToDate v.dc sts' := by
      intro hnone hresized
      refine current_replaced hv hf hp hw hname fun r hr hne => ?_
      rw [← hv.racks] at hr
      obtain ⟨q, hq, rfl⟩ := List.mem_map.mp hr
      refine ⟨q.2, hf q hq, upToDate_found hnone hq (by_contra fun hother => hne ?_)⟩
      exact Survey.eq_of_resized hv hq hp hother hresized
    rcases hmode with ⟨-, -, hn⟩ | ⟨hd, hm, hn⟩ | ⟨⟨m, hd⟩, hm, hn, -⟩
    · omega
    · have hmore : 1 < v.dc.spec.replicas.toInt := by omega
      have hlt : p.2.replicas < (v.group p).desiredReplicas := RackMode.classify_scaleUp hm
      have hnone := Survey.current_of_scales hv (by rw [hd]; exact .inl rfl)
      refine ⟨⟨hcurrent hnone (by omega), .inl hmore⟩, ?_⟩
      rw [hd]
      exact decide_eq_true hmore
    · have hdown := (Survey.wanted_lt_of_scaleDown hv hp hm).1
      rw [total_eq hv hf] at hdown
      unfold Survey.wanted at hdown
      have hlt : (v.group p).desiredReplicas < p.2.replicas := RackMode.classify_scaleDown hm
      have hnone := Survey.current_of_scales hv (by rw [hd]; exact .inr rfl)
      refine ⟨⟨hcurrent hnone (by omega), .inr (by omega)⟩, ?_⟩
      rw [hd]
      exact rfl
  · refine absurd hr (not_resized fun r _ sts hsts => ?_)
    rw [hacted, stored?_of_eq (MemoryStore.statefulSets_perform s rfl), hsts]
  · refine absurd hr (not_resized fun r _ sts hsts => ?_)
    rw [hacted, hsts]

end Found

/-! ## Passes and time -/

/-- What happens to a DataCenter while its spec stands. -/
inductive Tick (key : ClusterKey) : MemoryStore → MemoryStore → Prop
  /-- A pass. -/
  | pass {config : Config} {s s' : MemoryStore} {h : History}
    {o : Option (Except OperatorError Action)}
    (hr : Program.Ran (run config key).run s h o s') : Tick key s s'
  /-- The outside stores statuses of StatefulSets, and changes whatever else it likes but the
  DataCenter and the journal; also how many status writes are to be refused. -/
  | drift {s s' : MemoryStore}
    (hdc : s'.dataCenters.find? ⟨key.ns, key.name⟩ = s.dataCenters.find? ⟨key.ns, key.name⟩)
    (hsts : ∀ k, (s'.statefulSets.find? k).map StatefulSet.shape =
      (s.statefulSets.find? k).map StatefulSet.shape)
    (hjournal : s'.journal = s.journal) : Tick key s s'

/-- Since the journal was `j`, the cleanup task has been created, or it is still due. -/
def Awaits (key : ClusterKey) (dc : DataCenter) (j : List Mutation) (s : MemoryStore) : Prop :=
  ∃ status since, s.dataCenters.find? ⟨key.ns, key.name⟩ = some { dc with status } ∧
    s.journal = j ++ since ∧ (cleanupOf dc ∈ since ∨
      Scaled key dc s ∧ cleanupDue dc ({ dc with status } : DataCenter).previousPhase)

theorem scaled_status {status : Option DataCenterStatus} :
    Scaled key { dc with status } s ↔ Scaled key dc s :=
  ⟨fun hs => ⟨hs.current, hs.enough⟩, fun hs => ⟨hs.current, hs.enough⟩⟩

theorem awaits_status {status : Option DataCenterStatus} {j : List Mutation}
    (ha : Awaits key { dc with status } j s) : Awaits key dc j s := by
  obtain ⟨status', since, hdc, hj, hdone⟩ := ha
  exact ⟨status', since, hdc, hj, hdone.imp_right fun h => ⟨scaled_status.mp h.1, h.2⟩⟩

/-- Nor does what happens to the statuses of the StatefulSets between passes. -/
theorem Scaled.drift (hs : Scaled key dc s)
    (hsts : ∀ k, (s'.statefulSets.find? k).map StatefulSet.shape =
      (s.statefulSets.find? k).map StatefulSet.shape) : Scaled key dc s' := by
  have hcounts : counts key dc s' = counts key dc s := by
    refine List.map_congr_left fun r hr => congrArg (fun n : Option Int => n.getD 0) ?_
    have hshape := congrArg (Option.map StatefulSet.replicas)
      (hsts ⟨key.ns, dc.naming.statefulSetName r⟩)
    rwa [Option.map_map, Option.map_map] at hshape
  refine ⟨fun r hr => ?_, hs.enough.imp_right fun henough => ?_⟩
  · obtain ⟨old, hold, hcurrent⟩ := hs.current r hr
    have hshape := hsts ⟨key.ns, dc.naming.statefulSetName r⟩
    unfold stored? at hold
    rw [hold] at hshape
    obtain ⟨new, hnew, he⟩ := Option.map_eq_some_iff.mp hshape
    refine ⟨new, hnew, fun g hg c hc => hcurrent g ?_ c hc⟩
    change g ∈ old.shape.recordedGeneration
    rw [← he]
    exact hg
  · rw [hcounts]
    exact henough

/-- Whether the status is written or refused, the cleanup is due: the phase stored then is the new
one, or the one before, which made it due already. -/
theorem due_reported {status : DataCenterStatus} (hs : Scaled key dc s)
    (hdc : s.dataCenters.find? ⟨key.ns, key.name⟩ = some dc)
    (hold : (∃ u, (reported key s status).1 = .ok u) ∨ cleanupDue dc dc.previousPhase)
    (hnew : cleanupDue dc status.phase) :
    ∃ status', (reported key s status).2.dataCenters.find? ⟨key.ns, key.name⟩ =
        some { dc with status := status' } ∧
      Scaled key dc (reported key s status).2 ∧
        cleanupDue dc ({ dc with status := status' } : DataCenter).previousPhase := by
  have hscaled : Scaled key dc (reported key s status).2 :=
    hs.congr (statefulSets_reported s status)
  rcases hold with ⟨u, hok⟩ | hold
  · exact ⟨_, MemoryStore.find?_of_acknowledged hdc hok, hscaled, hnew⟩
  · rcases MemoryStore.find?_replaceDataCenterStatus_cases hdc status with h | h
    · exact ⟨dc.status, h, hscaled, hold⟩
    · exact ⟨_, h, hscaled, hnew⟩

/-- A pass leaves the cleanup due, or creates it. The cases are the ways a pass can go; one that
stops on a crash or before its decision has changed no phase and so leaves the cleanup as due as it
was. -/
theorem awaits_pass {j : List Mutation} {h : History} {o : Option (Except OperatorError Action)}
    (ha : Awaits key dc j s) (hr : Program.Ran (run config key).run s h o s') :
    Awaits key dc j s' := by
  obtain ⟨status, since, hdc, hj, hdone⟩ := ha
  obtain ⟨status', hdc'⟩ := hr.dataCenter hdc
  obtain ⟨more, hmore⟩ := hr.journal
  have hj' : s'.journal = j ++ (since ++ more) := by
    rw [← hmore, hj, List.append_assoc]
  rcases hdone with hcreated | ⟨hs, hdue⟩
  · exact ⟨_, _, hdc', hj', .inl (List.mem_append_left _ hcreated)⟩
  cases ended_of_ran hr with
  | gone hnone =>
    rw [hdc] at hnone
    cases hnone
  | created hdc₁ hm =>
    cases hdc.symm.trans hdc₁
    refine absurd (List.filter_eq_nil_iff.mpr fun r hr => ?_) hm
    obtain ⟨sts, hsts, -⟩ := (scaled_status.mpr hs).current r hr
    rw [hsts]
    exact Bool.false_ne_true
  | overflowed hdc₁ =>
    cases hdc.symm.trans hdc₁
    exact ⟨status, _, by rw [dataCenters_served]; exact hdc, hj',
      .inr ⟨hs.congr (statefulSets_served _ s), hdue⟩⟩
  | @settled v hv hreads new hphase hh =>
    have hvdc : v.dc = { dc with status } := Option.some.inj (hreads.dataCenter.symm.trans hdc)
    suffices hd : Awaits key { dc with status } _ _ from awaits_status hd
    have hs' : Scaled key { dc with status } s := scaled_status.mpr hs
    have hdue' : cleanupDue { dc with status } ({ dc with status } : DataCenter).previousPhase :=
      hdue
    rw [← hvdc] at hs' hdue' ⊢
    obtain ⟨status', hdc'⟩ := hr.dataCenter hreads.dataCenter
    have hf := found_served hreads
    have hserved : Scaled key v.dc (served key v.dc s) :=
      hs'.congr (statefulSets_served v.dc s)
    obtain ⟨service, hservice, -⟩ := journal_served key v.dc s
    rcases due_acted hv hf hserved hdue' with hconverged | hnew
    · -- the task is created before the status is written
      obtain ⟨more, hmore⟩ := (v.acted key (served key v.dc s)).journal_perform
        (.replaceDataCenterStatus key.ns key.name new)
      have hcreated : (v.acted key (served key v.dc s)).journal =
          (served key v.dc s).journal ++ [cleanupOf v.dc] := by
        rw [acted_of_cleanup hconverged]
        rfl
      refine ⟨status', since ++ (service ++ ([cleanupOf v.dc] ++ more)), hdc', ?_, .inl ?_⟩
      · unfold reported
        rw [← hmore, hcreated, hservice, hj]
        simp only [List.append_assoc]
      · simp
    · rw [← hphase] at hnew
      obtain ⟨status'', hdc'', hdone⟩ := due_reported (scaled_acted hv hf hserved)
        (dataCenter_acted hreads) (.inr hdue') hnew
      exact ⟨status'', _, hdc'', hj', .inr hdone⟩

/-- Whatever lies between two passes leaves a cleanup due that is due. -/
theorem awaits_tick {j : List Mutation} (ha : Awaits key dc j s) (ht : Tick key s s') :
    Awaits key dc j s' := by
  cases ht with
  | pass hr => exact awaits_pass ha hr
  | drift hdc hsts hjournal =>
    obtain ⟨status, since, hdc₁, hj, hdone⟩ := ha
    exact ⟨status, since, hdc.trans hdc₁, hjournal.trans hj,
      hdone.imp_right fun h => ⟨h.1.drift hsts, h.2⟩⟩

/-- A pass that resizes a rack leaves the cleanup due, if its status is stored or the phase stored
before made it due already. -/
theorem awaits_of_resize {h : History} {o : Option (Except OperatorError Action)}
    (hdc : s.dataCenters.find? ⟨key.ns, key.name⟩ = some dc)
    (hr : Program.Ran (run config key).run s h o s') (hresized : Resized key dc s s')
    (hnoted : (∃ a, o = some (.ok a)) ∨ cleanupDue dc dc.previousPhase) :
    Awaits key dc s'.journal s' := by
  cases ended_of_ran hr with
  | gone hnone =>
    rw [hdc] at hnone
    cases hnone
  | created hdc' hm =>
    cases hdc.symm.trans hdc'
    -- a pass that creates StatefulSets leaves the others
    refine absurd hresized (not_resized fun r hrack sts hsts => ?_)
    have hn : r ∉ missing key dc s := fun hmem => by
      have hnone := (List.mem_filter.mp hmem).2
      rw [hsts] at hnone
      cases hnone
    refine (stored?_created_of_notMem key _ (fun r h => (List.mem_filter.mp h).1) hrack hn
      _).trans ?_
    rw [stored?_of_eq (statefulSets_served dc s), hsts]
  | overflowed hdc' =>
    cases hdc.symm.trans hdc'
    refine absurd hresized (not_resized fun r hrack sts hsts => ?_)
    rw [stored?_of_eq (statefulSets_served dc s), hsts]
  | @settled v hv hreads new hphase hh =>
    cases hdc.symm.trans hreads.dataCenter
    have hf := found_served hreads
    have hacted : Resized key v.dc (served key v.dc s) (v.acted key (served key v.dc s)) :=
      hresized.congr (statefulSets_served v.dc s) (statefulSets_reported _ _).symm
    obtain ⟨hs, hdue⟩ := scaled_of_resized hv hf hacted
    rw [← hphase] at hdue
    have hstored : (∃ u, (reported key (v.acted key (served key v.dc s)) new).1 = .ok u) ∨
        cleanupDue v.dc v.dc.previousPhase := by
      refine hnoted.imp_left fun ⟨a, ha⟩ => ?_
      cases hok : (reported key (v.acted key (served key v.dc s)) new).1 with
      | ok u => exact ⟨u, rfl⟩
      | error e =>
        rw [hok] at ha
        cases ha
    obtain ⟨status, hdc', hdone⟩ := due_reported hs (dataCenter_acted hreads) hstored hdue
    exact ⟨status, [], hdc', (List.append_nil _).symm, .inr hdone⟩

/-- **No resize loses its cleanup**, once the phase is stored. A pass shrinks a rack, or grows one
where more than one node is wanted, and its status is stored, or the phase stored before made
the cleanup due already. Whatever passes follow while the spec stands, whatever happens to the
StatefulSets' statuses between them and however many status writes are refused: when the
DataCenter is RUNNING the cleanup task has been created since. -/
theorem cleanup_of_resize {s₀ s₁ : MemoryStore} {h : History}
    {o : Option (Except OperatorError Action)}
    (hdc : s₀.dataCenters.find? ⟨key.ns, key.name⟩ = some dc)
    (hr : Program.Ran (run config key).run s₀ h o s₁) (hresized : Resized key dc s₀ s₁)
    (hnoted : (∃ a, o = some (.ok a)) ∨ cleanupDue dc dc.previousPhase)
    (hticks : ReflTransGen (Tick key) s₁ s) {dc' : DataCenter}
    (hdc' : s.dataCenters.find? ⟨key.ns, key.name⟩ = some dc')
    (hrunning : dc'.previousPhase = .running) :
    ∃ since, s.journal = s₁.journal ++ since ∧ cleanupOf dc ∈ since := by
  have hawaits : Awaits key dc s₁.journal s := by
    clear hdc'
    induction hticks with
    | refl => exact awaits_of_resize hdc hr hresized hnoted
    | tail _ ht ih => exact awaits_tick ih ht
  obtain ⟨status, since, hstored, hj, hcreated | ⟨-, hdue⟩⟩ := hawaits
  · exact ⟨since, hj, hcreated⟩
  · -- the phase RUNNING makes no cleanup due
    cases hdc'.symm.trans hstored
    rw [hrunning] at hdue
    cases hdue

/-! ## A rack that is grown -/

/-- Two racks, of which the second is to be given its pod, in a store that refuses some status
writes. -/
def ungrown (refused : Nat) : MemoryStore :=
  { (growing.world smallKey fun _ => .normal).store with refusedStatusWrites := refused }

/-- The example's racks can be read, and the store they are in answers every look-up of the survey.
-/
theorem ungrown_read (refused : Nat) : growing.Reads smallKey (ungrown refused) :=
  ⟨growing_reads.dataCenter, growing_reads.found⟩

/-- The second rack when it has been given its pod, and this has started. -/
def grownSet (version : String) : StatefulSet :=
  let sts := (small 1 2 2).statefulSet (.new 1) 1
  { sts with
    metadata := { sts.metadata with ns := some "n", resourceVersion := some version }
    status := some (Fixture.rolledOut 1) }

/-- What a pass reads then. -/
def grown (version : String) (status : Option DataCenterStatus) : Survey where
  dc := { small 1 2 2 with status }
  found := [(.new 0, smallSet 1 0), (.new 1, grownSet version)]
  planned := growing.planned
  statuses := .ofList [("c-d-rack1-0", .normal), ("c-d-rack2-0", .normal)]

theorem grown_whole (version : String) (status : Option DataCenterStatus) :
    (grown version status).Whole where
  racks := rfl
  plan := by
    have hcounts : (grown version status).counts = [(.new 0, 1), (.new 1, 1)] := by
      simp only [Survey.counts, grown, List.map_cons, List.map_nil, replicas_smallSet]
      rfl
    rw [hcounts]
    rfl

set_option maxRecDepth 4000 in
/-- With the second rack grown everything has converged, and the phase before says whether a cleanup
goes with it. -/
theorem grown_decision (version : String) (status : Option DataCenterStatus) :
    (grown version status).decision =
      .converged (Decision.cleanupDue (grown version status).dc.previousPhase 2) := by
  cbv

theorem grown_observed (version : String) (status : Option DataCenterStatus) : ∃ status',
    ((grown version status).dc.status.getD {}).observed? (grown version status).observation
      (grown version status).dc.metadata.generation = some status' :=
  Survey.exists_observed (grown_whole version status) rfl rfl _ _

/-- The store when the rack has been grown and the status is to be written. -/
def regrown (refused : Nat) : MemoryStore :=
  growing.acted smallKey (served smallKey growing.dc (ungrown refused))

/-- The store behind the pass is written out, so that look-ups in it can be settled one by one. -/
theorem regrown_eq (refused : Nat) : regrown refused =
    ((served smallKey growing.dc (ungrown refused)).perform
      (.replaceStatefulSet "n" ((small 1 2 2).statefulSet (.new 1) 1))).2 :=
  acted_of_written growing_written _

theorem dataCenter_regrown (refused : Nat) :
    (regrown refused).dataCenters.find? smallKey = some (small 1 2 2) :=
  dataCenter_acted (ungrown_read refused)

theorem refused_regrown (refused : Nat) : (regrown refused).refusedStatusWrites = refused :=
  refused_acted smallKey growing growing.dc (ungrown refused)

/-- The second rack as it is stored then. -/
def regrownSet (refused : Nat) : StatefulSet :=
  (served smallKey growing.dc (ungrown refused)).keeping "n" ((small 1 2 2).statefulSet (.new 1) 1)

/-- Of the two racks only the one that is grown has another StatefulSet than before. -/
theorem stored_regrown (refused : Nat) {r : Rack} (hr : r ∈ (small 1 2 2).racks) :
    stored? smallKey (small 1 2 2) (regrown refused) r =
      if r = .new 1 then some (regrownSet refused)
      else stored? smallKey (small 1 2 2) (ungrown refused) r := by
  rw [regrown_eq]
  let rack : Rack × StatefulSet := (.new 1, Fixture.readyStatefulSet (small 1 1 1) (.new 1) 0)
  have hfound : rack ∈ growing.found := List.mem_cons_of_mem _ List.mem_cons_self
  have hname : ((small 1 2 2).statefulSet (.new 1) 1).metadata.anyName =
      growing.dc.naming.statefulSetName (.new 1) := rfl
  have hreplaced := stored?_replaced growing_whole (found_served (ungrown_read refused)) hfound
    hname hr
  rwa [stored?_of_eq (statefulSets_served growing.dc _)] at hreplaced

/-- The pass that grows the rack, up to its status, which is stored or refused as the store has it.
-/
theorem ran_growing (config : Config) (refused : Nat) :
    ∃ h, ∃ status : DataCenterStatus, status.phase = .scalingUp ∧
      Program.Ran (run config smallKey).run (ungrown refused) h
        (some ((reported smallKey (regrown refused) status).1.map fun _ => .short))
        (reported smallKey (regrown refused) status).2 := by
  obtain ⟨status, ho⟩ := growing_observed
  obtain ⟨h, status', hphase, hr⟩ :=
    ran_of_reads config growing_whole (ungrown_read refused) ho
  rw [growing_decision] at hphase hr
  exact ⟨h, status', hphase, hr⟩

/-- That pass does resize a rack: its count has changed from one store to the other. -/
theorem resized_growing (refused : Nat) (status : DataCenterStatus) :
    Resized smallKey (small 1 2 2) (ungrown refused)
      (reported smallKey (regrown refused) status).2 := by
  have hmem : Rack.new 1 ∈ (small 1 2 2).racks := List.mem_cons_of_mem _ List.mem_cons_self
  have hold := (ungrown_read refused).found _ (List.mem_cons_of_mem _ List.mem_cons_self)
  have hnew : stored? smallKey (small 1 2 2) (reported smallKey (regrown refused) status).2
      (.new 1) = some (regrownSet refused) := by
    rw [stored?_of_eq (statefulSets_reported _ _)]
    exact (stored_regrown refused hmem).trans (if_pos rfl)
  refine ⟨.new 1, hmem, _, _, hold, hnew, .inr ⟨?_, by decide⟩⟩
  unfold regrownSet
  rw [MemoryStore.replicas_keeping]
  decide

/-- The grown rack is reported to have started; nothing else happens. -/
def started (s : MemoryStore) (version : String) : MemoryStore :=
  { s with
    statefulSets := s.statefulSets.insert
      ⟨"n", (small 1 2 2).naming.statefulSetName (.new 1)⟩ (grownSet version) }

/-- Time passes until the grown rack is ready, and then a pass reads it so. -/
theorem grown_read (refused : Nat) {s : MemoryStore} {status : Option DataCenterStatus}
    (hsts : s.statefulSets = (regrown refused).statefulSets)
    (hdc : s.dataCenters.find? smallKey = some { small 1 2 2 with status }) :
    ∃ version, Tick smallKey s (started s version) ∧
      (grown version status).Reads smallKey (started s version) := by
  let version := (served smallKey growing.dc (ungrown refused)).nextVersion
  -- The two racks as the growing pass has left them: the second is rewritten, the first untouched.
  have hsecond : stored? smallKey (small 1 2 2) s (.new 1) = some (regrownSet refused) := by
    rw [stored?_of_eq hsts, stored_regrown refused (List.mem_cons_of_mem _ List.mem_cons_self)]
    exact if_pos rfl
  have hfirst : stored? smallKey (small 1 2 2) s (.new 0) = some (smallSet 1 0) := by
    rw [stored?_of_eq hsts, stored_regrown refused List.mem_cons_self, if_neg (by decide)]
    exact (ungrown_read refused).found _ List.mem_cons_self
  -- What happens between the passes is that the second rack reports its pod; its shape stays.
  refine ⟨version, .drift rfl (fun k => ?_) rfl, hdc, fun p hp => ?_⟩
  · show ((s.statefulSets.insert _ _).find? k).map _ = _
    rw [SortedMap.find?_insert]
    split
    next he =>
      rw [← he]
      exact (congrArg (Option.map StatefulSet.shape) hsecond).symm
    next => rfl
  · show (s.statefulSets.insert _ _).find? _ = _
    rw [SortedMap.find?_insert]
    rcases List.mem_cons.mp hp with rfl | hp
    · rw [if_neg fun he => secondRack_name _ (congrArg NamespacedName.name he)]
      exact hfirst
    · cases List.mem_singleton.mp hp
      exact if_pos rfl

/-- The pass that finds the rack grown converges, and its status is stored. It creates the cleanup
exactly if the phase stored before was one of scaling up. -/
theorem ran_grown (config : Config) {s : MemoryStore} {version : String}
    {old : Option DataCenterStatus} (hr : (grown version old).Reads smallKey s)
    (hrefused : s.refusedStatusWrites = 0) :
    ∃ h, ∃ status : DataCenterStatus, status.phase = .running ∧
      Program.Ran (run config smallKey).run s h (some (.ok (.after config.requeueInterval)))
        (reported smallKey ((grown version old).acted smallKey
          (served smallKey (small 1 2 2) s)) status).2 ∧
      (reported smallKey ((grown version old).acted smallKey (served smallKey (small 1 2 2) s))
        status).2.dataCenters.find? smallKey = some { small 1 2 2 with status := some status } := by
  obtain ⟨status, ho⟩ := grown_observed version old
  obtain ⟨h, status', hphase, hran⟩ := ran_of_reads config (grown_whole version old) hr ho
  have hdc :
      ((grown version old).acted smallKey (served smallKey (small 1 2 2) s)).dataCenters.find?
        smallKey = some (grown version old).dc := dataCenter_acted hr
  -- Nothing is refused any more, so this status is stored.
  have hzero := (refused_acted smallKey (grown version old) (small 1 2 2) s).trans hrefused
  have hok : (reported smallKey ((grown version old).acted smallKey
      (served smallKey (grown version old).dc s)) status').1 = .ok () :=
    MemoryStore.perform_replaceDataCenterStatus_ok hdc hzero status'
  rw [hok, grown_decision] at hran
  rw [grown_decision] at hphase
  exact ⟨h, status', hphase, hran, MemoryStore.find?_replaceDataCenterStatus hdc hzero status'⟩

/-- The rack is grown, the status stored and the cleanup task created, so the conditions under which
a resize is sure of its cleanup are met by a run. -/
theorem grown_rack_cleaned : ∃ s₀ s₁ s h dc',
    s₀.dataCenters.find? smallKey = some (small 1 2 2) ∧
      Program.Ran (run {} smallKey).run s₀ h (some (.ok .short)) s₁ ∧
      Resized smallKey (small 1 2 2) s₀ s₁ ∧ ReflTransGen (Tick smallKey) s₁ s ∧
      s.dataCenters.find? smallKey = some dc' ∧ dc'.previousPhase = .running ∧
      ∃ since, s.journal = s₁.journal ++ since ∧ cleanupOf (small 1 2 2) ∈ since := by
  -- First the pass that grows the rack, whose status is stored.
  obtain ⟨h, status, -, hr⟩ := ran_growing {} 0
  have hok : (reported smallKey (regrown 0) status).1 = .ok () :=
    MemoryStore.perform_replaceDataCenterStatus_ok (dataCenter_regrown 0) (refused_regrown 0) status
  rw [hok] at hr
  have hdc₁ : (reported smallKey (regrown 0) status).2.dataCenters.find? smallKey =
      some { small 1 2 2 with status := some status } :=
    MemoryStore.find?_replaceDataCenterStatus (dataCenter_regrown 0) (refused_regrown 0) status
  -- Then the rack becomes ready, and the next pass converges.
  obtain ⟨version, htick, hread⟩ := grown_read 0 (statefulSets_reported _ _) hdc₁
  have hrefused : (reported smallKey (regrown 0) status).2.refusedStatusWrites = 0 :=
    MemoryStore.refusedStatusWrites_perform (refused_regrown 0) _
  obtain ⟨h', status', hphase, hr', hdc⟩ := ran_grown {} hread hrefused
  have hticks := (ReflTransGen.single htick).tail (.pass hr')
  have hresized := resized_growing 0 status
  have hdc₀ : (ungrown 0).dataCenters.find? smallKey = some (small 1 2 2) :=
    (ungrown_read 0).dataCenter
  have hrunning : ({ small 1 2 2 with status := some status' } : DataCenter).previousPhase =
      .running := hphase
  have hnoted : ∃ a,
      some (Except.map (fun _ => Action.short) (.ok () : Except OperatorError Unit)) =
        some (.ok a) := ⟨_, rfl⟩
  have hcreated := cleanup_of_resize hdc₀ hr hresized (.inl hnoted) hticks hdc hrunning
  exact ⟨_, _, _, h, _, hdc₀, hr, hresized, hticks, hdc, hrunning, hcreated⟩

/-- Neither the Service nor the status is a task, so what is created before and behind a decision is
not mistaken for a cleanup. -/
theorem createTask_mem_served {name : String} (h : .createTask name ∈ (served key dc s).journal) :
    .createTask name ∈ s.journal := by
  obtain ⟨service, hj, hservice⟩ := journal_served key dc s
  rw [hj] at h
  refine (List.mem_append.mp h).resolve_right fun hmem => ?_
  rcases hservice with rfl | rfl
  · exact absurd hmem List.not_mem_nil
  · cases List.mem_singleton.mp hmem

theorem createTask_mem_reported {name : String} {status : DataCenterStatus}
    (h : .createTask name ∈ (reported key s status).2.journal) : .createTask name ∈ s.journal := by
  rcases reported_cases key s status .short with ⟨-, hj⟩ | ⟨-, hj, -⟩
  · rw [hj] at h
    refine (List.mem_append.mp h).resolve_right fun hmem => ?_
    cases List.mem_singleton.mp hmem
  · rwa [hj] at h

/-- The pass that grows the rack creates no task, whether its status is stored or refused. -/
theorem not_created_regrown (refused : Nat) (name : String) :
    .createTask name ∉ (regrown refused).journal := by
  intro hmem
  have hfound : (served smallKey growing.dc (ungrown refused)).statefulSets.find?
      ⟨"n", (small 1 2 2).naming.statefulSetName (.new 1)⟩ = some _ :=
    found_served (ungrown_read refused) _ (List.mem_cons_of_mem _ List.mem_cons_self)
  rw [regrown_eq, MemoryStore.journal_replaceStatefulSet hfound] at hmem
  rcases List.mem_append.mp hmem with hmem | hmem
  · exact absurd (createTask_mem_served hmem) List.not_mem_nil
  · cases List.mem_singleton.mp hmem

/-- **A cleanup that is lost.** The status of the pass that grows the rack is refused, so the phase
stored is still the RUNNING of before. The rack starts, and the next pass finds everything
converged and stores RUNNING; no task has been created. -/
theorem cleanup_lost : ∃ s₀ s₁ s₂ s₃ h h' e dc', let config : Config := { requeueInterval := 60 }
    s₀.dataCenters.find? smallKey = some (small 1 2 2) ∧
      Program.Ran (run config smallKey).run s₀ h (some (.error e)) s₁ ∧
      Resized smallKey (small 1 2 2) s₀ s₁ ∧ Tick smallKey s₁ s₂ ∧
      Program.Ran (run config smallKey).run s₂ h' (some (.ok (.after config.requeueInterval))) s₃ ∧
      s₃.dataCenters.find? smallKey = some dc' ∧ dc'.previousPhase = .running ∧
      ∀ name, .createTask name ∉ s₃.journal := by
  obtain ⟨h, status, -, hr⟩ := ran_growing { requeueInterval := 60 } 1
  have hrefusal : reported smallKey (regrown 1) status =
      ((.error (MemoryStore.conflict "d") : Except OperatorError Unit),
        { regrown 1 with refusedStatusWrites := (regrown 1).refusedStatusWrites - 1 }) :=
    MemoryStore.perform_refused (by rw [refused_regrown]; exact Nat.one_pos) _ _ _
  have hresized := resized_growing 1 status
  rw [hrefusal] at hr hresized
  obtain ⟨version, htick, hread⟩ := grown_read 1 (s := { regrown 1 with
    refusedStatusWrites := (regrown 1).refusedStatusWrites - 1 }) rfl (dataCenter_regrown 1)
  obtain ⟨h', status', hphase, hr', hdc⟩ := ran_grown { requeueInterval := 60 } hread
    (by show (regrown 1).refusedStatusWrites - 1 = 0; rw [refused_regrown])
  refine ⟨_, _, _, _, h, h', _, _, (ungrown_read 1).dataCenter, hr, hresized, htick, hr', hdc,
    hphase, fun name hmem => ?_⟩
  -- nothing is due after RUNNING
  have hidle : (grown version none).decision = .converged false := grown_decision version none
  have hmem' := createTask_mem_reported hmem
  rw [acted_of_idle (by rw [hidle]; rfl) (by rw [hidle]; simp)] at hmem'
  have hgrown := createTask_mem_served hmem'
  exact not_created_regrown 1 name hgrown

end Pass

end RackOperator
