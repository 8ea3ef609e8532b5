import RackOperator.Proofs.Deeds
import RackOperator.Proofs.Pass.Ends
import RackOperator.Proofs.Pass.Plans

/-!
# The trail of a pass

What a pass over a store in memory does is listed by `Way`, and here each way is read twice, for its
deeds and for its events. Reads are neither. A StatefulSet that is created stands in place of none
(`faithful_creations`), so only what is done for the decision is left (`faithful_applied`). A
replacement keeps the count if the rack is rolled and changes it by one if the rack is scaled, which
`Survey.written_mode` knows; a member is asked to leave by one sequence of calls, and its last
answer is what the event is about (`Parting.faithful`). The status write at the end is no deed, so
it does not matter whether it is refused (`faithful_reported`).
-/

namespace RackOperator

theorem DataCenter.rackName_statefulSet (dc : DataCenter) (r : Rack) (n : Int32) :
    (dc.statefulSet r n).rackName = r.name := by
  show (SortedMap.find? (dc.naming.labels.insert rackLabel r.name) rackLabel).getD "" = r.name
  rw [SortedMap.find?_insert, if_pos rfl]
  rfl

namespace Pass

variable {config : Config} {key : ClusterKey} {s s' : MemoryStore} {v : Survey}

/-! ## A member asked to leave -/

/-- Attempts to have a member leave come to what the last of them answered, and are no deeds one by
one. -/
theorem Asking.outcome (key : ClusterKey) {m : Member} {more : Nat} {tries : History}
    {x : Except OperatorError Unit} (h : Asking config m more tries x)
    (answer : Except OperatorError Unit) (s : MemoryStore) :
    History.outcome answer tries = x ∧ (Errand.pass key).deeds s tries = [] ∧
      (∀ time, History.events time tries = []) ∧ History.after s tries = s := by
  induction h generalizing answer with
  | accepted more => exact ⟨rfl, rfl, fun _ => rfl, rfl⟩
  | spent err => exact ⟨rfl, rfl, fun _ => rfl, rfl⟩
  | again err h ih => exact ih _

/-- A member asked to leave is told of by what came of it: one event, however many attempts there
were. -/
theorem Parting.faithful {m : Member} {tries : History} {x : Except OperatorError Unit}
    (h : Parting config m tries x) {entry : AuditEntry}
    (hentry : ∀ time, entry.event time key = (Deed.parted m.name x).event time key)
    (s : MemoryStore) : (Errand.pass key).Faithful s (tries ++ [⟨.audit key entry, ()⟩]) s := by
  have hread : (Errand.pass key).deeds s tries = [.parted m.name x] ∧
      (∀ time, History.events time tries = []) ∧ History.after s tries = s := by
    cases h with
    | unreached err => exact ⟨rfl, fun _ => rfl, rfl⟩
    | reached h =>
      obtain ⟨hx, hd, he, ha⟩ := h.outcome key (.ok ()) s
      refine ⟨?_, he, ha⟩
      show [Deed.parted m.name (History.outcome (.ok ()) _)] ++ (Errand.pass key).deeds s _ = _
      rw [hx, hd]
      rfl
  obtain ⟨hd, he, ha⟩ := hread
  refine ⟨?_, fun time => ?_⟩
  · rw [History.after_append, ha]
    rfl
  · rw [History.events_append, he, Errand.deeds_append (Errand.apart_of_no_more rfl _ _), hd]
    exact congrArg (fun e => [e]) (hentry time)

/-! ## What is only looked at -/

theorem idle_lookUp (naming : Naming) (p : Rack × Option StatefulSet) (s : MemoryStore) :
    (Errand.pass key).Idle s (lookUp key naming p) :=
  ⟨rfl, fun _ => rfl, fun _ => rfl⟩

theorem idle_opening (key : ClusterKey) (dc : DataCenter) :
    ∀ a ∈ opening key dc, ∀ s, (Errand.pass key).Idle s a :=
  List.forall_mem_cons.mpr ⟨fun _ => ⟨rfl, fun _ => rfl, fun _ => rfl⟩,
    List.forall_mem_singleton.mpr fun _ => ⟨rfl, fun _ => rfl, fun _ => rfl⟩⟩

theorem after_lookUps (naming : Naming) (looked : List (Rack × Option StatefulSet))
    (s : MemoryStore) : History.after s (looked.map (lookUp key naming)) = s := by
  induction looked with
  | nil => rfl
  | cons p rest ih => exact ih

/-- The DataCenter, its Service and some StatefulSets are looked at, none of which is told of. -/
theorem faithful_looks (key : ClusterKey) (dc : DataCenter)
    (looked : List (Rack × Option StatefulSet)) (s : MemoryStore) :
    (Errand.pass key).Faithful s (opening key dc ++ looked.map (lookUp key dc.naming))
      (served key dc s) := by
  have hopening := Errand.Faithful.of_idle (idle_opening key dc) s
  have hlooks := Errand.Faithful.of_idle (e := .pass key)
    (List.forall_mem_map.mpr fun p _ => idle_lookUp dc.naming p) (served key dc s)
      (h := looked.map (lookUp key dc.naming))
  rw [after_lookUps] at hlooks
  exact hopening.append (Errand.apart_of_none rfl _ _) hlooks

theorem faithful_reads (v : Survey) (s : MemoryStore) :
    (Errand.pass key).Faithful s (v.reads key) (served key v.dc s) := by
  have hlooks := faithful_looks key v.dc (v.found.map fun p => (p.1, some p.2)) s
  rw [List.map_map] at hlooks
  exact hlooks

/-- Up to a decision nothing is done that would have to be told. -/
theorem faithful_history (v : Survey) (s : MemoryStore) :
    (Errand.pass key).Faithful s (v.history key) (served key v.dc s) := by
  refine (faithful_reads v s).append (Errand.apart_of_no_more rfl _ _)
    (Errand.Faithful.of_idle (h := [⟨.register key v.members, ()⟩,
      ⟨.snapshot v.members, v.statuses⟩]) ?_ _)
  exact List.forall_mem_cons.mpr ⟨fun _ => ⟨rfl, fun _ => rfl, fun _ => rfl⟩,
    List.forall_mem_singleton.mpr fun _ => ⟨rfl, fun _ => rfl, fun _ => rfl⟩⟩

/-! ## What is done for a decision -/

/-- A StatefulSet that is replaced is told of by what the replacement comes to: a roll if the count
stays, and a scaling up or down if it does not. -/
theorem faithful_replacing (hf : ∀ p ∈ v.found, stored? key v.dc s p.1 = some p.2)
    {p : Rack × StatefulSet} (hp : p ∈ v.found) {sts : StatefulSet}
    (hname : sts.metadata.anyName = v.dc.naming.statefulSetName p.1) {entry : AuditEntry}
    (hentry : ∀ time, entry.event time key = (Deed.ofReplacement p.2 sts).event time key) :
    (Errand.pass key).Faithful s (replacing key s sts entry)
      (s.perform (.replaceStatefulSet key.ns sts)).2 := by
  refine .told (d := Deed.ofReplacement p.2 sts) ?_ rfl (fun _ => rfl) hentry
  have hfound : s.statefulSets.find? ⟨key.ns, sts.metadata.anyName⟩ = some p.2 := by
    rw [hname]
    exact hf p hp
  show (s.statefulSets.find? ⟨key.ns, sts.metadata.anyName⟩).toList.map _ = _
  rw [hfound]
  rfl

/-- What a decision writes is labelled with the rack it was made for, which is how a deed is known
to be about that rack. -/
theorem Survey.rackName_of_group? {r : Rack} {g : RackGroup} (hg : v.observation.group? r = some g)
    {sts : StatefulSet} (hmeta : sts.metadata = g.desired.metadata) : sts.rackName = r.name := by
  obtain ⟨x, hx, rfl⟩ := Option.map_eq_some_iff.mp hg
  obtain ⟨hmem, rfl⟩ := Observation.find?_eq_some hx
  obtain ⟨p, -, rfl⟩ := mem_racks.mp hmem
  unfold StatefulSet.rackName
  rw [hmeta]
  exact v.dc.rackName_statefulSet p.1 _

/-- A rack that is moved to another count is told of with the counts before and after. The count
before is the one found in the survey, which is the one stored when the write is done. -/
theorem faithful_scaled (hv : v.Whole) (hf : ∀ p ∈ v.found, stored? key v.dc s p.1 = some p.2)
    {r : Rack} {n : Int} {g : RackGroup} (hg : v.observation.group? r = some g)
    (hd : v.decision = .scaleUp r n ∨ ∃ m, v.decision = .scaleDown r n m) :
    (Errand.pass key).Faithful s (replacing key s (g.desired.setReplicas (Int32.ofInt n))
      (.rackScaled r.name g.existingReplicas n)) (v.acted key s) := by
  have hw : v.decision.written? v.observation =
      some (g.desired.setReplicas (Int32.ofInt n)) := by
    rcases hd with hd | ⟨m, hd⟩
    · rw [hd]
      exact congrArg (Option.map _) hg
    · rw [hd]
      exact congrArg (Option.map _) hg
  have hrack : (g.desired.setReplicas (Int32.ofInt n)).rackName = r.name :=
    Survey.rackName_of_group? hg rfl
  obtain ⟨p, hp, hname, hmode⟩ := Survey.written_mode hv hw
  -- the count written is the one decided on, and another than the one found
  have hn : r = p.1 ∧ (g.desired.setReplicas (Int32.ofInt n)).replicas = n ∧
      n ≠ p.2.replicas := by
    rcases hmode with ⟨hd', -⟩ | ⟨hd', -, hn⟩ | ⟨⟨m, hd'⟩, -, hn, -⟩
    · rcases hd with hd | ⟨m, hd⟩ <;> cases hd.symm.trans hd'
    · rcases hd with hd | ⟨m, hd⟩ <;> cases hd.symm.trans hd'
      exact ⟨rfl, hn, by omega⟩
    · rcases hd with hd | ⟨m, hd⟩ <;> cases hd.symm.trans hd'
      exact ⟨rfl, hn, by omega⟩
  obtain ⟨rfl, hn, hne⟩ := hn
  cases (Survey.group?_eq_group hv hp).symm.trans hg
  rw [acted_of_written hw]
  refine faithful_replacing hf hp hname fun time => ?_
  unfold Deed.ofReplacement
  rw [hn, if_neg hne, hrack]
  rfl

/-- Whatever was decided, the trail tells what was done about it. The cases are the decisions: those
that write tell of the write, a decommission of its outcome, and a wait tells nothing. -/
theorem faithful_applied (hv : v.Whole) (hf : ∀ p ∈ v.found, stored? key v.dc s p.1 = some p.2)
    {st told : DataCenterStatus} {done : History}
    (ha : Applied config key v s st v.decision done told) :
    (Errand.pass key).Faithful s done (v.acted key s) := by
  have hidle : v.decision.written? v.observation = none → v.decision ≠ .converged true →
      (Errand.pass key).Faithful s [] (v.acted key s) := by
    intro hw hc
    rw [acted_of_idle hw hc]
    exact .nil _ s
  -- By the decision: it writes a StatefulSet, has a member leave, creates a cleanup, or does
  -- nothing.
  generalize hd : v.decision = d at ha hidle
  cases ha with
  | inconsistent reason => exact absurd hd (Survey.decision_ne_inconsistent hv reason)
  | waitForRacks racks => exact hidle rfl (by simp)
  | waitForMembers ms => exact hidle rfl (by simp)
  | waitForDecommission r m status => exact hidle rfl (by simp)
  | converged => exact hidle rfl (by simp)
  | @updateRack r g hg =>
    have hw : v.decision.written? v.observation = some g.desired := by
      rw [hd]
      exact congrArg (Option.map _) hg
    obtain ⟨p, hp, hname, hmode⟩ := Survey.written_mode hv hw
    -- A roll keeps the count, which is what tells its deed from a scaling.
    have hn : g.desired.replicas = p.2.replicas := by
      rcases hmode with ⟨-, -, hn⟩ | ⟨hd', -⟩ | ⟨⟨m, hd'⟩, -⟩
      · exact hn
      · cases hd.symm.trans hd'
      · cases hd.symm.trans hd'
    rw [acted_of_written hw]
    refine faithful_replacing hf hp hname fun time => ?_
    unfold Deed.ofReplacement
    rw [if_pos hn, Survey.rackName_of_group? hg rfl, Survey.written_recorded hw]
    rfl
  | scaleUp r n hg => exact faithful_scaled hv hf hg (.inl hd)
  | scaleDown r n m hg => exact faithful_scaled hv hf hg (.inr ⟨m, hd⟩)
  | decommissioned r m hp =>
    rw [acted_of_idle (by rw [hd]; rfl) (by rw [hd]; simp)]
    exact hp.faithful (fun _ => rfl) s
  | refused r m hp =>
    rw [acted_of_idle (by rw [hd]; rfl) (by rw [hd]; simp)]
    exact hp.faithful (fun _ => rfl) s
  | cleanup =>
    rw [acted_of_cleanup hd]
    exact .told (d := .tidied v.dc.cleanupTask.metadata.anyName) rfl rfl (fun _ => rfl) fun _ => rfl

/-! ## The whole pass -/

/-- A StatefulSet that is created stands in place of none, and each creation is told of once. -/
theorem faithful_creations {dc : DataCenter} (racks : List Rack)
    (hsub : ∀ r ∈ racks, r ∈ dc.racks) (hnd : racks.Nodup) (s : MemoryStore)
    (hm : ∀ r ∈ racks, stored? key dc s r = none) :
    (Errand.pass key).Faithful s (creations key dc s racks) (created key dc s racks) := by
  induction racks generalizing s with
  | nil => exact .nil _ s
  | cons r rest ih =>
    have hfirst : (Errand.pass key).Idle s ⟨.store (.createStatefulSet key.ns (dc.initial r)),
        (s.perform (.createStatefulSet key.ns (dc.initial r))).1⟩ := by
      refine ⟨Answered.deeds_store_eq_nil ?_ _, fun _ => rfl, fun _ => rfl⟩
      show (stored? key dc s r).toList.map _ = []
      rw [hm r List.mem_cons_self]
      rfl
    have hrest := ih (fun r' h => hsub r' (List.mem_cons_of_mem _ h)) (List.nodup_cons.mp hnd).2 _
      (missing_rest hsub hnd hm)
    exact (Errand.Faithful.idle hfirst).append (Errand.apart_of_none rfl _ _) hrest

theorem faithful_reported (s : MemoryStore) (status : DataCenterStatus) :
    (Errand.pass key).Faithful s
      [⟨.store (.replaceDataCenterStatus key.ns key.name status), (reported key s status).1⟩]
      (reported key s status).2 :=
  .idle ⟨Answered.deeds_store_eq_nil rfl _, fun _ => rfl, fun _ => rfl⟩

/-- However a pass goes, its trail is that of its deeds. The cases are the ways it can go. -/
theorem Way.faithful {h : History} {o : Option (Except OperatorError Action)}
    (hw : Way config key s h o s') : (Errand.pass key).Faithful s h s' := by
  cases hw with
  | gone hdc => exact .idle ⟨rfl, fun _ => rfl, fun _ => rfl⟩
  | @created dc hdc hm =>
    obtain ⟨hsub, hnd, hnone⟩ := missing_spec key dc s
    exact (faithful_looks key dc _ s).append
      (Errand.apart_of_no_more (stores_creations _ _ _ _).sidecars _ _)
      (faithful_creations _ hsub hnd _ hnone)
  | @unplanned v => exact faithful_reads v s
  | @unsummed v hv hr => exact faithful_history v s
  | @settled v hv hr _ told _ done ha =>
    have hquiet : History.sidecars (v.history key) = [] := by
      have hh := sidecars_history key v []
      rwa [List.append_nil] at hh
    exact ((faithful_history v s).append (Errand.apart_of_none hquiet _ _)
      (faithful_applied hv (found_served hr) ha)).append (Errand.apart_of_no_more rfl _ _)
      (faithful_reported _ _)

end Pass

end RackOperator
