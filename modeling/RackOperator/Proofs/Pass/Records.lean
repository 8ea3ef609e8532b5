import RackOperator.Proofs.Pass.Rollout

/-!
# What a pass records

The journal of a store in memory lists its changes. A pass over an existing DataCenter adds
the creation of its Service, if there was none, and then either the creation of the missing
StatefulSets and nothing else, or at most one change and the status behind it
(`one_change_status_last`). A pass that does not succeed leaves the DataCenter as it was.
-/

namespace RackOperator.Pass

variable {config : Config} {key : ClusterKey} {dc : DataCenter} {v : Survey}

/-- One StatefulSet replaced, one task created, or nothing. -/
def OneAtMost (change : List Mutation) : Prop :=
  change = [] ∨ (∃ name n, change = [.replaceStatefulSet name n]) ∨
    ∃ name, change = [.createTask name]

/-- The creation of a rack's StatefulSet. -/
def creationOf (dc : DataCenter) (r : Rack) : Mutation :=
  .createStatefulSet (dc.naming.statefulSetName r) (dc.initial r).replicas

/-- Creating the StatefulSets of racks that have none records their creations, in order. -/
theorem journal_created (racks : List Rack) (hsub : ∀ r ∈ racks, r ∈ dc.racks)
    (hnd : racks.Nodup) (s : MemoryStore) (hm : ∀ r ∈ racks, stored? key dc s r = none) :
    (created key dc s racks).journal = s.journal ++ racks.map (creationOf dc) := by
  induction racks generalizing s with
  | nil => exact (List.append_nil _).symm
  | cons r rest ih =>
    have hstored := missing_rest hsub hnd hm
    have hfirst : (s.perform (.createStatefulSet key.ns (dc.initial r))).2.journal =
        s.journal ++ [creationOf dc r] :=
      MemoryStore.journal_createStatefulSet (hm r List.mem_cons_self)
    show (created key dc (s.perform (.createStatefulSet key.ns (dc.initial r))).2 rest).journal = _
    rw [ih (fun r' h => hsub r' (List.mem_cons_of_mem _ h)) (List.nodup_cons.mp hnd).2 _ hstored,
      hfirst,
      List.append_assoc]
    rfl

theorem dataCenters_created (racks : List Rack) (s : MemoryStore) :
    (created key dc s racks).dataCenters = s.dataCenters := by
  induction racks generalizing s with
  | nil => rfl
  | cons r rest ih =>
    exact (ih _).trans (MemoryStore.dataCenters_perform _ (by simp)).1

/-- The Service is created, or was there. -/
theorem journal_served (key : ClusterKey) (dc : DataCenter) (s : MemoryStore) :
    ∃ service, (served key dc s).journal = s.journal ++ service ∧
      (service = [] ∨ service = [.createService dc.naming.stem]) := by
  rcases MemoryStore.journal_ensureService s key.ns dc.service with h | h
  · exact ⟨[], h.trans (List.append_nil _).symm, .inl rfl⟩
  · exact ⟨_, h, .inr rfl⟩

theorem dataCenters_served (dc : DataCenter) (s : MemoryStore) :
    (served key dc s).dataCenters = s.dataCenters :=
  (MemoryStore.dataCenters_perform _ (by simp)).1

/-- A decision's change is at most one, and none if it asks sidecars. How often a sidecar is asked
is bounded too, by the attempts that the settings allow. -/
theorem journal_acted (hv : v.Whole) {s : MemoryStore}
    (hf : ∀ p ∈ v.found, stored? key v.dc s p.1 = some p.2) {es : List Effect}
    (ha : Asked config v.decision es) :
    ∃ change, (v.acted key s).journal = s.journal ++ change ∧ OneAtMost change ∧
      (es ≠ [] → change = [] ∧ ∃ m, ∃ n ≤ max config.decommissionMaxAttempts 1,
        es = .connect m :: List.replicate n (.request m .decommission)) := by
  rcases acted_cases v key s with ⟨sts, hw, hacted⟩ | ⟨hc, hacted⟩ | ⟨-, -, hacted⟩
  · obtain ⟨p, hp, hname, -⟩ := Survey.written_cases hv hw
    have hfound : s.statefulSets.find? ⟨key.ns, sts.metadata.anyName⟩ = some p.2 := by
      rw [hname]
      exact hf p hp
    -- Only a decommission asks sidecars, and that writes nothing.
    have hasked : es = [] := by
      cases hd : v.decision with
      | decommission r m =>
        rw [hd] at hw
        cases hw
      | _ =>
        rw [hd] at ha
        exact ha
    refine ⟨[.replaceStatefulSet sts.metadata.anyName sts.replicas], ?_,
      .inr (.inl ⟨_, _, rfl⟩), fun h => absurd hasked h⟩
    rw [hacted, MemoryStore.journal_replaceStatefulSet hfound]
  · rw [hc] at ha
    refine ⟨[.createTask v.dc.cleanupTask.metadata.anyName], ?_, .inr (.inr ⟨_, rfl⟩),
      fun h => absurd ha h⟩
    rw [hacted]
    rfl
  · refine ⟨[], ?_, .inl rfl, fun h => ⟨rfl, ?_⟩⟩
    · rw [hacted, List.append_nil]
    · cases hd : v.decision with
      | decommission r m =>
        rw [hd] at ha
        exact ⟨m, ha⟩
      | _ =>
        rw [hd] at ha
        exact absurd ha h

theorem dataCenters_acted (v : Survey) (s : MemoryStore) :
    (v.acted key s).dataCenters = s.dataCenters := by
  rcases acted_cases v key s with ⟨sts, -, hacted⟩ | ⟨-, hacted⟩ | ⟨-, -, hacted⟩
  · rw [hacted]
    exact (MemoryStore.dataCenters_perform _ (by simp)).1
  · rw [hacted]
    rfl
  · rw [hacted]

/-- No status write is refused before the last. -/
theorem refused_acted (key : ClusterKey) (v : Survey) (dc : DataCenter) (s : MemoryStore) :
    (v.acted key (served key dc s)).refusedStatusWrites = s.refusedStatusWrites := by
  have hserved : (served key dc s).refusedStatusWrites = s.refusedStatusWrites :=
    (MemoryStore.dataCenters_perform _ (by simp)).2
  rcases acted_cases v key (served key dc s) with ⟨sts, -, hacted⟩ | ⟨-, hacted⟩ | ⟨-, -, hacted⟩
  · rw [hacted, (MemoryStore.dataCenters_perform _ (by simp)).2, hserved]
  · rw [hacted, (MemoryStore.dataCenters_perform _ (by simp)).2, hserved]
  · rw [hacted, hserved]

/-- The DataCenter read is there when the status is written. -/
theorem dataCenter_acted {s : MemoryStore} (hr : v.Reads key s) :
    (v.acted key (served key v.dc s)).dataCenters.find? ⟨key.ns, key.name⟩ = some v.dc := by
  rw [dataCenters_acted, dataCenters_served]
  exact hr.dataCenter

/-- A pass that has decided succeeds exactly if its status write is recorded. -/
theorem reported_cases (key : ClusterKey) (s : MemoryStore) (status : DataCenterStatus)
    (next : Action) :
    (∃ a, some ((reported key s status).1.map fun _ => next) = some (.ok a)) ∧
        (reported key s status).2.journal = s.journal ++ [.dataCenterStatus key.name status] ∨
      (¬∃ a, some ((reported key s status).1.map fun _ => next) = some (.ok a)) ∧
        (reported key s status).2.journal = s.journal ∧
        (reported key s status).2.dataCenters = s.dataCenters := by
  unfold reported
  rcases MemoryStore.replaceDataCenterStatus_cases s key.ns key.name status
    with ⟨hok, hjournal⟩ | ⟨⟨e, herror⟩, hjournal, hdcs⟩
  · refine .inl ⟨⟨next, ?_⟩, hjournal⟩
    rw [hok]
    rfl
  · refine .inr ⟨?_, hjournal, hdcs⟩
    rw [herror]
    exact fun ⟨a, ha⟩ => by cases ha

/-- One change at most, and the status last. A pass over an existing DataCenter records the creation
of its Service, if at all, and then: if StatefulSets are missing, their creations in rack order, and
it does nothing else; otherwise at most one change, and the status exactly if it succeeds. Sidecars
are asked only where nothing is changed: one member, no more often than is allowed. A pass that does
not succeed leaves the DataCenter as it was. -/
theorem one_change_status_last {s s' : MemoryStore} {h : History}
    {o : Option (Except OperatorError Action)}
    (hdc : s.dataCenters.find? ⟨key.ns, key.name⟩ = some dc)
    (hr : Program.Ran (run config key).run s h o s') :
    ∃ service rest, s'.journal = s.journal ++ service ++ rest ∧
      (service = [] ∨ service = [.createService dc.naming.stem]) ∧
      (missing key dc s ≠ [] →
        rest = (missing key dc s).map (creationOf dc) ∧ o = some (.ok .short) ∧
          History.registrations h = [] ∧ History.sidecars h = []) ∧
      (missing key dc s = [] →
        ∃ change status, rest = change ++ status ∧ OneAtMost change ∧
          ((∃ a, o = some (.ok a)) ∧ (∃ st, status = [.dataCenterStatus key.name st]) ∨
            (¬∃ a, o = some (.ok a)) ∧ status = []) ∧
          (History.sidecars h ≠ [] → change = [] ∧
            ∃ m, ∃ n ≤ max config.decommissionMaxAttempts 1,
              History.sidecars h = .connect m :: List.replicate n (.request m .decommission))) ∧
      ((¬∃ a, o = some (.ok a)) → s'.dataCenters = s.dataCenters) := by
  -- The four ways a finished pass can have gone; only the last one reaches a decision.
  cases ended_of_ran hr with
  | gone hnone hh =>
    rw [hdc] at hnone
    cases hnone
  | created hdc' hm hh =>
    cases hdc.symm.trans hdc'
    obtain ⟨service, hservice, hone⟩ := journal_served key dc s
    refine ⟨service, (missing key dc s).map (creationOf dc), ?_, hone, fun _ =>
      ⟨rfl, rfl, hh.registrations, hh.sidecars⟩, fun h => absurd h hm, fun h => absurd ⟨_, rfl⟩ h⟩
    obtain ⟨hsub, hnd, hnone⟩ := missing_spec key dc s
    rw [← hservice]
    exact journal_created _ hsub hnd _ hnone
  | overflowed hdc' hm hh =>
    cases hdc.symm.trans hdc'
    obtain ⟨service, hservice, hone⟩ := journal_served key dc s
    have hfail : ¬∃ a, (none : Option (Except OperatorError Action)) = some (.ok a) :=
      fun ⟨a, ha⟩ => by cases ha
    refine ⟨service, [], ?_, hone, fun h => absurd hm h, fun _ =>
      ⟨[], [], rfl, .inl rfl, .inr ⟨hfail, rfl⟩, fun h => absurd hh h⟩, fun _ =>
      dataCenters_served dc s⟩
    rw [hservice, List.append_nil]
  | @settled v hv hreads status hphase hh =>
    cases hdc.symm.trans hreads.dataCenter
    obtain ⟨service, hservice, hone⟩ := journal_served key v.dc s
    have hf : ∀ p ∈ v.found, stored? key v.dc (served key v.dc s) p.1 = some p.2 := by
      rw [stored?_of_eq (statefulSets_served v.dc s)]
      exact hreads.found
    -- What the decision wrote comes first; the status after it is written or refused.
    obtain ⟨change, hchange, honce, hasked⟩ := journal_acted hv hf hh
    rcases reported_cases key (v.acted key (served key v.dc s)) status (next config v.decision)
      with ⟨hok, hjournal⟩ | ⟨hfail, hjournal, hdcs⟩
    · refine ⟨service, change ++ [.dataCenterStatus key.name status], ?_, hone,
        fun h => absurd (missing_eq_nil hv hreads) h, fun _ => ⟨change, _, rfl, honce,
          .inl ⟨hok, _, rfl⟩, hasked⟩, fun h => absurd hok h⟩
      rw [hjournal, hchange, hservice, List.append_assoc, List.append_assoc]
    · refine ⟨service, change, ?_, hone, fun h => absurd (missing_eq_nil hv hreads) h, fun _ =>
        ⟨change, [], (List.append_nil _).symm, honce, .inr ⟨hfail, rfl⟩, hasked⟩, fun _ => ?_⟩
      · rw [hjournal, hchange, hservice]
      · exact hdcs.trans ((dataCenters_acted v _).trans (dataCenters_served v.dc s))

theorem growing_reads :
    growing.Reads smallKey (growing.world smallKey fun _ => .normal).store :=
  have hs : growing.Stands smallKey (growing.world smallKey fun _ => .normal) :=
    stands_world growing_whole growing_statuses
  ⟨hs.dataCenter, hs.found⟩

/-- The journal of a pass that gives the second of two racks its pod. -/
theorem journal_growing : ∃ h status s',
    Program.Ran (run {} smallKey).run (growing.world smallKey fun _ => .normal).store h
        (some (.ok .short)) s' ∧
      s'.journal = [.createService "c-d", .replaceStatefulSet "c-d-rack2" 1,
        .dataCenterStatus "d" status] := by
  obtain ⟨observed, ho⟩ := growing_observed
  have hreads := growing_reads
  obtain ⟨h, status, -, hr⟩ := ran_of_reads {} growing_whole hreads ho
  generalize hstore : (growing.world smallKey fun _ => .normal).store = s at hreads hr ⊢
  have hok : (reported smallKey (growing.acted smallKey (served smallKey growing.dc s))
      status).1 = .ok () :=
    MemoryStore.perform_replaceDataCenterStatus_ok (dataCenter_acted hreads)
      ((refused_acted smallKey growing growing.dc s).trans (hstore ▸ rfl)) status
  rw [hok, growing_decision] at hr
  have hserved : (served smallKey growing.dc s).journal = [.createService "c-d"] := by
    rw [← hstore]
    rfl
  have hfound : (served smallKey growing.dc s).statefulSets.find?
      ⟨"n", (small 1 2 2).naming.statefulSetName (.new 1)⟩ = some _ :=
    found_served hreads _ (List.mem_cons_of_mem _ List.mem_cons_self)
  have hname : ((small 1 2 2).statefulSet (.new 1) 1).metadata.anyName = "c-d-rack2" := by
    decide +kernel
  refine ⟨h, status, _, hr, ?_⟩
  -- The world refuses nothing, so the second case cannot be.
  rcases reported_cases smallKey (growing.acted smallKey (served smallKey growing.dc s)) status
    .short with ⟨-, hj⟩ | ⟨hfail, -⟩
  · rw [hj, acted_of_written growing_written, MemoryStore.journal_replaceStatefulSet hfound,
      hserved, hname]
    rfl
  · rw [hok] at hfail
    exact absurd ⟨_, rfl⟩ hfail

/-- Over a store with a DataCenter of three racks and nothing else, a pass records the creation of
the three StatefulSets last. Over one in which a rack is to be given its pod it records the new
count of that rack and the status, and asks no sidecar. -/
theorem changes_recorded :
    (let dc := small 1 4 3
    let s : MemoryStore := { dataCenters := SortedMap.insert {} ⟨"n", "d"⟩ dc }
    ∃ h s' before, Program.Ran (run {} ⟨"n", "d"⟩).run s h (some (.ok .short)) s' ∧
      s'.journal = before ++ dc.racks.map (creationOf dc)) ∧
    ∃ h status s', Program.Ran (run {} smallKey).run
        (growing.world smallKey fun _ => .normal).store h (some (.ok .short)) s' ∧
      s'.journal = [.createService "c-d", .replaceStatefulSet "c-d-rack2" 1,
        .dataCenterStatus "d" status] ∧ History.sidecars h = [] := by
  constructor
  · intro dc s
    obtain ⟨h, hr⟩ := Program.ran_run (run {} ⟨"n", "d"⟩).run (w := { store := s }) rfl
    have hdc : s.dataCenters.find? ⟨"n", "d"⟩ = some dc :=
      (SortedMap.find?_insert _ _ _ _).trans (if_pos rfl)
    have hmissing : missing ⟨"n", "d"⟩ dc s = dc.racks :=
      List.filter_eq_self.mpr fun r _ => rfl
    obtain ⟨service, rest, hjournal, -, hcreated, -⟩ := one_change_status_last hdc hr
    rw [hmissing] at hcreated
    obtain ⟨rfl, ho, -⟩ := hcreated (List.cons_ne_nil _ _)
    rw [ho] at hr
    exact ⟨h, _, s.journal ++ service, hr, hjournal⟩
  · obtain ⟨h, status, s', hr, hjournal⟩ := journal_growing
    obtain ⟨service, rest, hadded, hservice, -, hdecided, -⟩ :=
      one_change_status_last growing_reads.dataCenter hr
    obtain ⟨change, last, rfl, -, hlast, hasked⟩ :=
      hdecided (missing_eq_nil growing_whole growing_reads)
    refine ⟨h, status, s', hr, hjournal, by_contra fun hne => ?_⟩
    -- with a sidecar asked there would be no change between the Service and the status
    obtain ⟨rfl, -⟩ := hasked hne
    rw [hjournal] at hadded
    rcases hservice with rfl | rfl
    · rcases hlast with ⟨-, st, rfl⟩ | ⟨-, rfl⟩
      · cases hadded
      · cases hadded
    · rcases hlast with ⟨-, st, rfl⟩ | ⟨-, rfl⟩
      · cases hadded
      · cases hadded

end RackOperator.Pass
