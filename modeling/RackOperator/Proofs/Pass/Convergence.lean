import RackOperator.Proofs.Pass.Cleanup

/-!
# How many writes it takes to converge

While the spec of a DataCenter stands, passes bring its racks to it. How far there is to go is a
number that reads off the store (`distance`): the racks left behind by the generation, and the
replicas between the total there is and the one wanted. A pass writes at most one StatefulSet, and
then the number is lower: the StatefulSet written records the present generation, so its rack is
not behind any more, and its count is the one found or one nearer to the total wanted
(`lowers_replaced`). What happens outside between passes may change everything else, the phase that
is stored and the statuses that are reported among it, and does not change the number
(`lowers_of_same`).

So a run of passes of any length writes no more StatefulSets than the number at its start, the
total goes toward the one wanted and never past it, and a rack that has been rolled is not behind
and is not rolled again (`writes_le_distance`).
-/

namespace RackOperator

namespace Pass

variable {config : Config} {key : ClusterKey} {dc dc' : DataCenter} {v : Survey}
  {s s' : MemoryStore}

/-! ## How far there is to go -/

/-- The replicas of all racks. -/
def total (key : ClusterKey) (dc : DataCenter) (s : MemoryStore) : Int := (counts key dc s).sum

/-- The replicas wanted. -/
def wanted (dc : DataCenter) : Int := max dc.spec.replicas.toInt 0

/-- The racks that record a generation before that of their DataCenter. -/
def behind (key : ClusterKey) (dc : DataCenter) (s : MemoryStore) : List Rack :=
  dc.racks.filter fun r => ∃ sts ∈ stored? key dc s r, ∃ g ∈ sts.recordedGeneration,
    ∃ c ∈ dc.metadata.generation.map Int64.toInt, g < c

/-- The racks behind, and the replicas there are too few or too many. -/
def distance (key : ClusterKey) (dc : DataCenter) (s : MemoryStore) : Nat :=
  (behind key dc s).length + (total key dc s - wanted dc).natAbs

/-- A number goes toward another, or stays, and does not pass it. -/
def Toward (goal a b : Int) : Prop := a ≤ b ∧ b ≤ goal ∨ goal ≤ b ∧ b ≤ a

/-- The changes that wrote a StatefulSet. -/
def writes (changes : List Mutation) : Nat := changes.countP Mutation.isStatefulSetWrite

/-- What a pass rests on in a DataCenter is as it was; its status may be another, and so may all
other metadata. -/
structure SameSpec (dc dc' : DataCenter) : Prop where
  spec : dc'.spec = dc.spec
  generation : dc'.metadata.generation = dc.metadata.generation
  ns : dc'.metadata.ns = dc.metadata.ns

/-- The DataCenter is stored with its spec, and all its racks are there. -/
structure Present (key : ClusterKey) (dc : DataCenter) (s : MemoryStore) : Prop where
  dataCenter : ∃ dc', s.dataCenters.find? ⟨key.ns, key.name⟩ = some dc' ∧ SameSpec dc dc'
  racks : ∀ r ∈ dc.racks, ∃ sts, stored? key dc s r = some sts

/-- What may happen outside between two passes: whatever leaves the spec of the DataCenter, and the
count and the recorded generation of each of its racks. -/
structure Drift (key : ClusterKey) (dc : DataCenter) (s s' : MemoryStore) : Prop where
  dataCenter : ∃ dc', s'.dataCenters.find? ⟨key.ns, key.name⟩ = some dc' ∧ SameSpec dc dc'
  racks : ∀ r ∈ dc.racks,
    (stored? key dc s' r).map (fun sts => (sts.replicas, sts.recordedGeneration)) =
      (stored? key dc s r).map fun sts => (sts.replicas, sts.recordedGeneration)

/-- The replicas each StatefulSet of a namespace asks for, by name. -/
def replicasIn (key : ClusterKey) (s : MemoryStore) (name : String) : Option Int :=
  (s.statefulSets.find? ⟨key.ns, name⟩).map (·.replicas)

/-- The StatefulSets that some changes roll, given the replicas each asks for before them: those
replaced by one that asks for as many as the one it stands in for. -/
def rolls (replicas : String → Option Int) : List Mutation → List String
  | [] => []
  | .createStatefulSet name n :: rest => rolls (Function.update replicas name (some n)) rest
  | .replaceStatefulSet name n :: rest =>
    (if replicas name = some n then [name] else []) ++
      rolls (Function.update replicas name (some n)) rest
  | _ :: rest => rolls replicas rest

/-- One leg of a run: the store in front of it, what was added to the journal, and the store behind
it. -/
structure Leg where
  before : MemoryStore
  changes : List Mutation
  after : MemoryStore

/-- The StatefulSets a leg rolls. -/
def Leg.rolled (key : ClusterKey) (leg : Leg) : List String :=
  rolls (replicasIn key leg.before) leg.changes

/-- A run: passes over the DataCenter of a key, in any number, and drift between them. A pass
ends however it may: with its status stored or refused, or in a crash. -/
inductive Trail (key : ClusterKey) (dc : DataCenter) : MemoryStore → List Leg → Prop
  | nil (s : MemoryStore) : Trail key dc s []
  | pass {config : Config} {s s' : MemoryStore} {h : History}
    {o : Option (Except OperatorError Action)} {changes : List Mutation} {legs : List Leg}
    (hr : Program.Ran (run config key).run s h o s') (hj : s'.journal = s.journal ++ changes)
    (ht : Trail key dc s' legs) : Trail key dc s (⟨s, changes, s'⟩ :: legs)
  | drift {s s' : MemoryStore} {legs : List Leg} (hd : Drift key dc s s')
    (ht : Trail key dc s' legs) : Trail key dc s (⟨s, [], s'⟩ :: legs)

/-- What a leg does to the distance, with the changes it makes and the store behind it. -/
structure Lowers (key : ClusterKey) (dc : DataCenter) (s : MemoryStore) (changes : List Mutation)
    (s' : MemoryStore) : Prop where
  less : writes changes + distance key dc s' ≤ distance key dc s
  toward : Toward (wanted dc) (total key dc s) (total key dc s')
  /-- No rack falls behind. -/
  sublist : (behind key dc s').Sublist (behind key dc s)
  /-- A rack that is rolled was behind and is not any more. -/
  once : rolls (replicasIn key s) changes = [] ∨ ∃ r ∈ behind key dc s, r ∉ behind key dc s' ∧
    rolls (replicasIn key s) changes = [dc.naming.statefulSetName r]

/-! ## What these rest on -/

theorem SameSpec.racks (h : SameSpec dc dc') : dc'.racks = dc.racks := by
  unfold DataCenter.racks
  rw [h.spec]

theorem SameSpec.naming (h : SameSpec dc dc') : dc'.naming = dc.naming := by
  unfold DataCenter.naming ObjectMeta.nsOrEmpty
  rw [h.spec, h.ns]

/-- They name their StatefulSets alike, and so find the same stored. -/
theorem SameSpec.stored? (h : SameSpec dc dc') :
    Pass.stored? key dc' s = Pass.stored? key dc s := by
  unfold Pass.stored?
  rw [h.naming]

theorem SameSpec.total (h : SameSpec dc dc') : Pass.total key dc' s = Pass.total key dc s := by
  unfold Pass.total counts
  rw [h.racks, h.stored?]

theorem SameSpec.wanted (h : SameSpec dc dc') : Pass.wanted dc' = Pass.wanted dc := by
  unfold Pass.wanted
  rw [h.spec]

/-- The racks that are behind are told by the spec and the generation, whatever the status says. -/
theorem SameSpec.behind (h : SameSpec dc dc') : Pass.behind key dc' s = Pass.behind key dc s := by
  unfold Pass.behind
  rw [h.racks, h.stored?, h.generation]

/-- A rack is behind if its StatefulSet is stored and not up to date. -/
theorem mem_behind {r : Rack} : r ∈ behind key dc s ↔ r ∈ dc.racks ∧
    ∃ sts, stored? key dc s r = some sts ∧ ¬UpToDate dc sts := by
  unfold behind UpToDate
  simp only [List.mem_filter, decide_eq_true_eq, Option.mem_def]
  push Not
  rfl

theorem nodup_behind (key : ClusterKey) (dc : DataCenter) (s : MemoryStore) :
    (behind key dc s).Nodup := (Rack.nodup_all _).filter _

theorem writes_append (changes changes' : List Mutation) :
    writes (changes ++ changes') = writes changes + writes changes' := List.countP_append

/-- Changes that write no StatefulSet do not matter to what is rolled after them, as they leave the
counts that later replacements are compared with. -/
theorem rolls_idle_append {idle : List Mutation} (h : writes idle = 0)
    (replicas : String → Option Int) (changes : List Mutation) :
    rolls replicas (idle ++ changes) = rolls replicas changes := by
  induction idle with
  | nil => rfl
  | cons m rest ih =>
    have hrest : writes rest = 0 := by
      unfold writes at h ⊢
      rw [List.countP_cons] at h
      omega
    cases m with
    | createStatefulSet name n => exact absurd h (by simp [writes, Mutation.isStatefulSetWrite])
    | replaceStatefulSet name n => exact absurd h (by simp [writes, Mutation.isStatefulSetWrite])
    | _ => exact ih hrest

/-- Changes that write no StatefulSet add nothing to what was rolled before them. -/
theorem rolls_append_idle {idle : List Mutation} (h : writes idle = 0)
    (replicas : String → Option Int) (changes : List Mutation) :
    rolls replicas (changes ++ idle) = rolls replicas changes := by
  induction changes generalizing replicas with
  | nil =>
    have hidle := rolls_idle_append h replicas []
    rwa [List.append_nil] at hidle
  | cons m rest ih =>
    cases m with
    | createStatefulSet name n => exact ih _
    | replaceStatefulSet name n => exact congrArg (_ ++ ·) (ih _)
    | _ => exact ih replicas

theorem rolls_of_idle {idle : List Mutation} (h : writes idle = 0)
    (replicas : String → Option Int) : rolls replicas idle = [] :=
  rolls_append_idle h replicas []

/-! ## What a pass does to the distance -/

/-- Where the counts and the recorded generations stay, the distance does, and no write may be
counted. That is what a pass comes to which creates a task, asks a member to leave or waits. -/
theorem lowers_of_same (h : ∀ r ∈ dc.racks,
      (stored? key dc s' r).map (fun sts => (sts.replicas, sts.recordedGeneration)) =
        (stored? key dc s r).map fun sts => (sts.replicas, sts.recordedGeneration))
    {changes : List Mutation} (hw : writes changes = 0) : Lowers key dc s changes s' := by
  have htotal : total key dc s' = total key dc s := by
    unfold total counts
    congr 1
    refine List.map_congr_left fun r hr => congrArg (fun n : Option Int => n.getD 0) ?_
    have hcount := congrArg (Option.map Prod.fst) (h r hr)
    rwa [Option.map_map, Option.map_map] at hcount
  -- A rack is behind by the generation its StatefulSet records, which has stayed.
  have hbehind : behind key dc s' = behind key dc s := by
    refine List.filter_congr fun r hr => ?_
    have hmark := h r hr
    cases hs : stored? key dc s r with
    | none =>
      rw [hs, Option.map_none, Option.map_eq_none_iff] at hmark
      rw [hmark]
    | some sts =>
      rw [hs] at hmark
      obtain ⟨sts', hs', he⟩ := Option.map_eq_some_iff.mp hmark
      simp [hs', (Prod.mk.inj he).2]
  refine ⟨?_, ?_, ?_, .inl (rolls_of_idle hw _)⟩
  · unfold distance
    rw [hw, htotal, hbehind]
    omega
  · rw [htotal]
    unfold Toward
    omega
  · rw [hbehind]

theorem total_of_eq (h : s'.statefulSets = s.statefulSets) (dc : DataCenter) :
    total key dc s' = total key dc s := by
  unfold total counts
  rw [stored?_of_eq h]

theorem behind_of_eq (h : s'.statefulSets = s.statefulSets) (dc : DataCenter) :
    behind key dc s' = behind key dc s := by
  unfold behind
  rw [stored?_of_eq h]

/-- The distance is told by the StatefulSets, so changes of anything else before and behind do not
matter. A pass sees to the Service first and to its status last. -/
theorem Lowers.between {changes first last : List Mutation} {t t' : MemoryStore}
    (hl : Lowers key dc s changes s') (h : t.statefulSets = s.statefulSets)
    (h' : t'.statefulSets = s'.statefulSets) (hfirst : writes first = 0) (hlast : writes last = 0) :
    Lowers key dc t (first ++ changes ++ last) t' := by
  obtain ⟨hless, htoward, hsub, honce⟩ := hl
  -- What stands in front and behind writes no StatefulSet, so it neither counts nor rolls.
  have hrolls : rolls (replicasIn key t) (first ++ changes ++ last) =
      rolls (replicasIn key s) changes := by
    rw [rolls_append_idle hlast, rolls_idle_append hfirst]
    unfold replicasIn
    rw [h]
  rw [← total_of_eq h, ← total_of_eq h'] at htoward
  rw [← behind_of_eq h, ← behind_of_eq h'] at hsub honce
  rw [← hrolls] at honce
  refine ⟨?_, htoward, hsub, honce⟩
  unfold distance at hless ⊢
  rw [writes_append, writes_append, hfirst, hlast, total_of_eq h, total_of_eq h', behind_of_eq h,
    behind_of_eq h']
  omega

section Found

variable (hv : v.Whole) (hf : ∀ p ∈ v.found, stored? key v.dc s p.1 = some p.2)

include hv hf

/-- A rack whose StatefulSet is replaced is not behind, and the others are if they were: what is
written records the present generation. -/
theorem behind_replaced {p : Rack × StatefulSet} (hp : p ∈ v.found) {sts : StatefulSet}
    (hw : v.decision.written? v.observation = some sts)
    (hname : sts.metadata.anyName = v.dc.naming.statefulSetName p.1) :
    behind key v.dc (s.perform (.replaceStatefulSet key.ns sts)).2 =
      (behind key v.dc s).erase p.1 := by
  rw [(nodup_behind key v.dc s).erase_eq_filter]
  unfold behind
  rw [List.filter_filter]
  refine List.filter_congr fun r hr => ?_
  rw [stored?_replaced hv hf hp hname hr]
  by_cases he : r = p.1
  · -- what is written records the present generation
    have hkept : (s.keeping key.ns sts).recordedGeneration = v.generation := by
      show sts.recordedGeneration = v.generation
      exact Survey.written_recorded hw
    unfold Survey.generation at hkept
    simp only [he, if_true, Option.mem_def, Option.some.injEq, exists_eq_left', hkept]
    cases v.dc.metadata.generation <;> simp
  · simp [he]

/-- A StatefulSet that is replaced moves the total by the difference of the two counts. -/
theorem total_replaced {p : Rack × StatefulSet} (hp : p ∈ v.found) {sts : StatefulSet}
    (hname : sts.metadata.anyName = v.dc.naming.statefulSetName p.1) :
    total key v.dc (s.perform (.replaceStatefulSet key.ns sts)).2 + p.2.replicas =
      total key v.dc s + sts.replicas :=
  sum_counts_replaced hv hf hp hname

/-- A rack found behind is among those behind, since the survey reads the generations that are
stored. -/
theorem mem_behind_of_mode {p : Rack × StatefulSet} (hp : p ∈ v.found)
    (hm : (v.view p).mode = .behind) : p.1 ∈ behind key v.dc s := by
  have hsame : (v.group p).desiredReplicas = p.2.replicas := RackMode.classify_behind hm
  have hmode : RackMode.classify (v.group p).desiredReplicas p.2.replicas _ _ = .behind := hm
  rw [hsame] at hmode
  obtain ⟨g, hg, c, hc, hlt⟩ := RackMode.classify_behind_iff.mp hmode
  refine List.mem_filter.mpr ⟨hv.mem_racks hp, decide_eq_true ?_⟩
  exact ⟨p.2, hf p hp, g, hg, c, hc, hlt⟩

/-- A pass that writes a StatefulSet lowers the distance by one at least: it rolls a rack that was
behind, or moves a count by one toward what is wanted. -/
theorem lowers_replaced {sts : StatefulSet} (hw : v.decision.written? v.observation = some sts) :
    Lowers key v.dc s [.replaceStatefulSet sts.metadata.anyName sts.replicas]
      (s.perform (.replaceStatefulSet key.ns sts)).2 := by
  obtain ⟨p, hp, hname, hmode⟩ := Survey.written_mode hv hw
  have hbehind := behind_replaced hv hf hp hw hname
  have htotal := total_replaced hv hf hp hname
  have hfound : v.total = total key v.dc s := total_eq hv hf
  have hone : writes [.replaceStatefulSet sts.metadata.anyName sts.replicas] = 1 := rfl
  -- it is rolled if it keeps the count it was found with
  have hrolls : rolls (replicasIn key s)
      [.replaceStatefulSet sts.metadata.anyName sts.replicas] =
        if p.2.replicas = sts.replicas then [v.dc.naming.statefulSetName p.1] else [] := by
    have hold : replicasIn key s (v.dc.naming.statefulSetName p.1) = some p.2.replicas :=
      congrArg (Option.map StatefulSet.replicas) (hf p hp)
    unfold rolls
    rw [hname, hold]
    simp [rolls]
  generalize (s.perform (.replaceStatefulSet key.ns sts)).2 = s' at hbehind htotal ⊢
  have hsub : (behind key v.dc s').Sublist (behind key v.dc s) := by
    rw [hbehind]
    exact List.erase_sublist
  have hlen := hsub.length_le
  rcases hmode with ⟨hd, hm, hn⟩ | ⟨hd, hm, hn⟩ | ⟨⟨m, hd⟩, hm, hn, -⟩
  · -- the rack was behind
    have hmem := mem_behind_of_mode hv hf hp hm
    have hless : (behind key v.dc s').length + 1 = (behind key v.dc s).length := by
      have hpos := List.length_pos_of_mem hmem
      rw [hbehind, List.length_erase_of_mem hmem]
      omega
    refine ⟨?_, ?_, hsub, .inr ⟨p.1, hmem, ?_, hrolls.trans (if_pos hn.symm)⟩⟩
    · unfold distance
      omega
    · unfold Toward
      omega
    · rw [hbehind]
      exact (nodup_behind key v.dc s).not_mem_erase
  · -- the total was too low
    have hlt : v.total < wanted v.dc := Survey.lt_wanted_of_scaleUp hv hp hm
    refine ⟨?_, ?_, hsub, .inl (hrolls.trans (if_neg (by omega)))⟩
    · unfold distance
      omega
    · unfold Toward
      omega
  · -- the total was too high
    have hlt : wanted v.dc < v.total := (Survey.wanted_lt_of_scaleDown hv hp hm).1
    refine ⟨?_, ?_, hsub, .inl (hrolls.trans (if_neg (by omega)))⟩
    · unfold distance
      omega
    · unfold Toward
      omega

end Found

/-- What a decision changes lowers the distance by one for each StatefulSet written. A decision that
writes none leaves it. -/
theorem lowers_acted (hv : v.Whole) (hf : ∀ p ∈ v.found, stored? key v.dc s p.1 = some p.2) :
    ∃ changes, (v.acted key s).journal = s.journal ++ changes ∧
      Lowers key v.dc s changes (v.acted key s) := by
  -- Only the first of the three replaces a StatefulSet; a cleanup task and a wait leave all counts.
  rcases acted_cases v key s with ⟨sts, hw, hacted⟩ | ⟨hd, hacted⟩ | ⟨hw, -, hacted⟩
  · obtain ⟨p, hp, hname, -⟩ := Survey.written_mode hv hw
    have hfound : s.statefulSets.find? ⟨key.ns, sts.metadata.anyName⟩ = some p.2 := by
      rw [hname]
      exact hf p hp
    rw [hacted]
    exact ⟨_, MemoryStore.journal_replaceStatefulSet hfound, lowers_replaced hv hf hw⟩
  · rw [hacted]
    have hsame : (s.perform (.createTask key.ns v.dc.cleanupTask)).2.statefulSets =
        s.statefulSets := MemoryStore.statefulSets_perform s rfl
    refine ⟨[cleanupOf v.dc], rfl, lowers_of_same (fun r _ => ?_) rfl⟩
    rw [stored?_of_eq hsame]
  · rw [hacted]
    exact ⟨[], (List.append_nil _).symm, lowers_of_same (fun _ _ => rfl) rfl⟩

/-- Seeing to the Service writes no StatefulSet, be the Service created or there already. -/
theorem writes_served (key : ClusterKey) (dc : DataCenter) (s : MemoryStore) :
    ∃ changes, (served key dc s).journal = s.journal ++ changes ∧ writes changes = 0 := by
  obtain ⟨service, hj, rfl | rfl⟩ := journal_served key dc s
  · exact ⟨_, hj, rfl⟩
  · exact ⟨_, hj, rfl⟩

/-- The status is no StatefulSet either, whether it is stored or refused. -/
theorem writes_reported (key : ClusterKey) (s : MemoryStore) (status : DataCenterStatus) :
    ∃ changes, (reported key s status).2.journal = s.journal ++ changes ∧ writes changes = 0 := by
  rcases reported_cases key s status .short with ⟨-, hj⟩ | ⟨-, hj, -⟩
  · exact ⟨_, hj, rfl⟩
  · exact ⟨[], hj.trans (List.append_nil _).symm, rfl⟩

/-- A pass over a DataCenter whose racks are all there lowers the distance by one for each
StatefulSet it writes, however it ends. -/
theorem lowers_pass {h : History} {o : Option (Except OperatorError Action)}
    (hdc : s.dataCenters.find? ⟨key.ns, key.name⟩ = some dc)
    (hracks : ∀ r ∈ dc.racks, ∃ sts, stored? key dc s r = some sts)
    (hr : Program.Ran (run config key).run s h o s') :
    ∃ changes, s'.journal = s.journal ++ changes ∧ Lowers key dc s changes s' := by
  -- Of the four ways to end, the DataCenter is there and so are its racks, which leaves two.
  cases ended_of_ran hr with
  | gone hnone =>
    rw [hdc] at hnone
    cases hnone
  | created hdc' hm =>
    cases hdc.symm.trans hdc'
    refine absurd (List.filter_eq_nil_iff.mpr fun r hr => ?_) hm
    obtain ⟨sts, hsts⟩ := hracks r hr
    rw [hsts]
    exact Bool.false_ne_true
  | overflowed hdc' =>
    cases hdc.symm.trans hdc'
    obtain ⟨changes, hj, hw⟩ := writes_served key dc s
    refine ⟨changes, hj, lowers_of_same (fun r _ => ?_) hw⟩
    rw [stored?_of_eq (statefulSets_served dc s)]
  | @settled v hv hreads status =>
    cases hdc.symm.trans hreads.dataCenter
    obtain ⟨service, hservice, hnone⟩ := writes_served key v.dc s
    obtain ⟨change, hchange, hlowers⟩ := lowers_acted hv (found_served hreads)
    obtain ⟨last, hlast, hnone'⟩ := writes_reported key (v.acted key (served key v.dc s)) status
    -- Neither the Service in front nor the status behind writes a StatefulSet.
    refine ⟨service ++ change ++ last, ?_, hlowers.between (statefulSets_served v.dc s).symm
      (statefulSets_reported _ _) hnone hnone'⟩
    rw [hlast, hchange, hservice, List.append_assoc, List.append_assoc, List.append_assoc]

/-! ## Runs -/

/-- The distance is to a spec, so it may be reckoned with any DataCenter of that spec. -/
theorem SameSpec.lowers {changes : List Mutation} (h : SameSpec dc dc')
    (hl : Lowers key dc' s changes s') : Lowers key dc s changes s' := by
  obtain ⟨hless, htoward, hsub, honce⟩ := hl
  unfold distance at hless
  rw [h.total, h.total, h.wanted] at htoward
  rw [h.behind, h.behind] at hsub honce
  rw [h.naming] at honce
  rw [h.behind, h.behind, h.total, h.total, h.wanted] at hless
  exact ⟨hless, htoward, hsub, honce⟩

/-- A pass leaves the spec of the DataCenter and the racks where they are, so the next one starts
from the same racks. -/
theorem Present.pass {h : History} {o : Option (Except OperatorError Action)}
    (hp : Present key dc s) (hr : Program.Ran (run config key).run s h o s') :
    Present key dc s' := by
  obtain ⟨⟨dc', hdc', hsame⟩, hracks⟩ := hp
  constructor
  · obtain ⟨status, hstatus⟩ := hr.dataCenter hdc'
    exact ⟨_, hstatus, hsame.spec, hsame.generation, hsame.ns⟩
  · intro r hrack
    refine Option.isSome_iff_exists.mp (hr.keeps (I := fun s => (stored? key dc s r).isSome)
      (fun s₁ call hsome => ?_) ?_)
    · exact s₁.isSome_find?_perform call hsome
    · exact Option.isSome_iff_exists.mpr (hracks r hrack)

theorem Present.drift (hp : Present key dc s) (hd : Drift key dc s s') : Present key dc s' := by
  refine ⟨hd.dataCenter, fun r hr => ?_⟩
  obtain ⟨sts, hsts⟩ := hp.racks r hr
  have hmark := hd.racks r hr
  rw [hsts] at hmark
  obtain ⟨sts', hsts', -⟩ := Option.map_eq_some_iff.mp hmark
  exact ⟨sts', hsts'⟩

/-- The pass of a trail lowers the distance, by as much as it has written to the journal. -/
theorem Present.lowers_pass {h : History} {o : Option (Except OperatorError Action)}
    {changes : List Mutation} (hp : Present key dc s)
    (hr : Program.Ran (run config key).run s h o s') (hj : s'.journal = s.journal ++ changes) :
    Lowers key dc s changes s' := by
  obtain ⟨⟨dc', hdc', hsame⟩, hracks⟩ := hp
  have hracks' : ∀ r ∈ dc'.racks, ∃ sts, stored? key dc' s r = some sts := by
    rw [hsame.racks, hsame.stored?]
    exact hracks
  obtain ⟨changes', hj', hlowers⟩ := Pass.lowers_pass hdc' hracks' hr
  rw [List.append_cancel_left (hj.symm.trans hj')]
  exact hsame.lowers hlowers

/-- What the legs of a run make of the distance at its start. -/
structure Within (key : ClusterKey) (dc : DataCenter) (s : MemoryStore) (legs : List Leg) :
    Prop where
  writes : (legs.map fun leg => writes leg.changes).sum ≤ distance key dc s
  totals : ((s :: legs.map (·.after)).map (total key dc)).Pairwise (Toward (wanted dc))
  /-- Only racks that were behind are rolled. -/
  behind : ∀ name ∈ legs.flatMap (·.rolled key), ∃ r ∈ behind key dc s,
    dc.naming.statefulSetName r = name
  once : (legs.flatMap (·.rolled key)).Nodup

/-- One more leg in front: it has lowered the distance by what it wrote, and what is left is enough
for the legs behind it. -/
theorem Within.cons {changes : List Mutation} {legs : List Leg}
    (hl : Lowers key dc s changes s') (hw : Within key dc s' legs) :
    Within key dc s (⟨s, changes, s'⟩ :: legs) := by
  obtain ⟨hless, htoward, hsub, honce⟩ := hl
  refine ⟨?_, ?_, ?_, ?_⟩
  · have hrest := hw.writes
    rw [List.map_cons, List.sum_cons]
    show Pass.writes changes + _ ≤ _
    omega
  · rw [List.map_cons]
    refine List.pairwise_cons.mpr ⟨?_, hw.totals⟩
    have hhead := (List.pairwise_cons.mp hw.totals).1
    intro n hn
    rcases List.mem_cons.mp hn with rfl | hn
    · exact htoward
    · have hnext := hhead n hn
      unfold Toward at htoward hnext ⊢
      omega
  · intro name hname
    rw [List.flatMap_cons] at hname
    rcases List.mem_append.mp hname with hfirst | hlater
    · unfold Leg.rolled at hfirst
      rcases honce with hnil | ⟨r, hr, -, hone⟩
      · rw [hnil] at hfirst
        exact absurd hfirst List.not_mem_nil
      · rw [hone] at hfirst
        exact ⟨r, hr, (List.mem_singleton.mp hfirst).symm⟩
    · obtain ⟨r, hr, he⟩ := hw.behind name hlater
      exact ⟨r, hsub.subset hr, he⟩
  · rw [List.flatMap_cons, Leg.rolled]
    rcases honce with hnil | ⟨r, hr, hcured, hone⟩
    · rw [hnil]
      exact hw.once
    · rw [hone]
      refine List.nodup_cons.mpr ⟨fun hagain => ?_, hw.once⟩
      -- a rack that is rolled again would be behind again
      obtain ⟨q, hq, he⟩ := hw.behind _ hagain
      rw [Naming.statefulSetName_injOn (mem_behind.mp (hsub.subset hq)).1 (mem_behind.mp hr).1 he]
        at hq
      exact hcured hq

/-- Every trail keeps within the distance it begins with. The induction is on the trail, from its
first leg. -/
theorem within_of_trail {legs : List Leg} (hp : Present key dc s) (ht : Trail key dc s legs) :
    Within key dc s legs := by
  induction ht with
  | nil s =>
    refine ⟨Nat.zero_le _, List.pairwise_singleton _ _, ?_, List.nodup_nil⟩
    intro name hname
    exact absurd hname List.not_mem_nil
  | pass hr hj _ ih => exact .cons (hp.lowers_pass hr hj) (ih (hp.pass hr))
  | drift hd _ ih => exact .cons (lowers_of_same hd.racks rfl) (ih (hp.drift hd))

/-- **Bounded, monotone convergence.** Over a DataCenter whose racks all have their StatefulSets,
whatever their counts are, passes and drift in any number write no more StatefulSets than there are
racks behind and replicas too few or too many; the total goes toward the one wanted and never past
it; and only racks that were behind are rolled, none of them twice. -/
theorem writes_le_distance {legs : List Leg}
    (hdc : s.dataCenters.find? ⟨key.ns, key.name⟩ = some dc)
    (hracks : ∀ r ∈ dc.racks, ∃ sts, stored? key dc s r = some sts) (ht : Trail key dc s legs) :
    (legs.map fun leg => writes leg.changes).sum ≤
        (behind key dc s).length + ((counts key dc s).sum - max dc.spec.replicas.toInt 0).natAbs ∧
      ((s :: legs.map (·.after)).map fun s => (counts key dc s).sum).Pairwise
        (Toward (max dc.spec.replicas.toInt 0)) ∧
      (∀ name ∈ legs.flatMap (·.rolled key), ∃ r ∈ behind key dc s,
        dc.naming.statefulSetName r = name) ∧
      (legs.flatMap (·.rolled key)).Nodup := by
  have hw := within_of_trail ⟨⟨dc, hdc, rfl, rfl, rfl⟩, hracks⟩ ht
  exact ⟨hw.writes, hw.totals, hw.behind, hw.once⟩

/-- The pass that grows the second of two racks writes one StatefulSet, and the status. -/
theorem writes_growing (status : DataCenterStatus) : ∃ changes,
    (reported smallKey (regrown 0) status).2.journal = (ungrown 0).journal ++ changes ∧
      writes changes = 1 := by
  obtain ⟨service, hservice, hnone⟩ := writes_served smallKey growing.dc (ungrown 0)
  obtain ⟨last, hlast, hnone'⟩ := writes_reported smallKey (regrown 0) status
  have hfound : (served smallKey growing.dc (ungrown 0)).statefulSets.find?
      ⟨"n", (small 1 2 2).naming.statefulSetName (.new 1)⟩ = some _ :=
    found_served (ungrown_read 0) _ (List.mem_cons_of_mem _ List.mem_cons_self)
  let sts := (small 1 2 2).statefulSet (.new 1) 1
  refine ⟨service ++ [.replaceStatefulSet sts.metadata.anyName sts.replicas] ++ last, ?_, ?_⟩
  · rw [hlast, regrown_eq, MemoryStore.journal_replaceStatefulSet hfound, hservice,
      List.append_assoc, List.append_assoc, List.append_assoc]
  · rw [writes_append, writes_append, hnone, hnone']
    rfl

/-- It finds one replica in all, and leaves two. -/
theorem counts_growing (status : DataCenterStatus) :
    counts smallKey (small 1 2 2) (ungrown 0) = [1, 0] ∧
      counts smallKey (small 1 2 2) (reported smallKey (regrown 0) status).2 = [1, 1] := by
  have hfound := (ungrown_read 0).found
  have hold₀ := hfound _ List.mem_cons_self
  have hold₁ := hfound _ (List.mem_cons_of_mem _ List.mem_cons_self)
  have hnew₀ := stored_regrown 0 (r := .new 0) List.mem_cons_self
  have hnew₁ := stored_regrown 0 (r := .new 1) (List.mem_cons_of_mem _ List.mem_cons_self)
  unfold counts
  rw [stored?_of_eq (statefulSets_reported _ _)]
  constructor
  · show [((stored? _ growing.dc _ _).map _).getD 0, ((stored? _ growing.dc _ _).map _).getD 0] = _
    rw [hold₀, hold₁]
    rfl
  · show [((stored? _ _ _ _).map _).getD 0, ((stored? _ _ _ _).map _).getD 0] = _
    rw [hnew₀, hnew₁, if_neg (by decide), if_pos rfl]
    exact congrArg (fun found => [(found.map StatefulSet.replicas).getD 0, _]) hold₀

/-- Two racks of which the second is to be given its pod: it takes one write, and the total goes
from one to two. -/
theorem growing_within : ∃ changes s', let dc := small 1 2 2
    let s := ungrown 0
    s.dataCenters.find? smallKey = some dc ∧
      (∀ r ∈ dc.racks, ∃ sts, stored? smallKey dc s r = some sts) ∧
      Trail smallKey dc s [⟨s, changes, s'⟩] ∧ writes changes = 1 ∧
      (counts smallKey dc s).sum = 1 ∧ (counts smallKey dc s').sum = 2 ∧
      writes changes ≤
        (behind smallKey dc s).length + ((counts smallKey dc s).sum - 2).natAbs ∧
      Toward 2 (counts smallKey dc s).sum (counts smallKey dc s').sum := by
  obtain ⟨h, status, -, hr⟩ := ran_growing {} 0
  obtain ⟨changes, hj, hone⟩ := writes_growing status
  obtain ⟨hbefore, hafter⟩ := counts_growing status
  have hread := ungrown_read 0
  have hracks : ∀ r ∈ (small 1 2 2).racks, ∃ sts, stored? smallKey (small 1 2 2) (ungrown 0) r =
      some sts := by
    intro r hr
    have hmem : r ∈ growing.found.map (·.1) := by
      rw [growing_whole.racks]
      exact hr
    obtain ⟨p, hp, rfl⟩ := List.mem_map.mp hmem
    exact ⟨p.2, hread.found p hp⟩
  -- One leg is enough, and the theorem speaks of its two ends.
  have ht : Trail smallKey (small 1 2 2) (ungrown 0) [⟨ungrown 0, changes, _⟩] :=
    .pass hr hj (.nil _)
  obtain ⟨hwrites, htotals, -⟩ := writes_le_distance hread.dataCenter hracks ht
  exact ⟨changes, _, hread.dataCenter, hracks, ht, hone, congrArg List.sum hbefore,
    congrArg List.sum hafter, hwrites, List.rel_of_pairwise_cons htotals List.mem_cons_self⟩

end Pass

end RackOperator
