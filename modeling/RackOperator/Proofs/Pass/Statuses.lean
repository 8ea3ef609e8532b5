import RackOperator.Proofs.Pass.Scaling
import RackOperator.Proofs.Pass.Ways

/-!
# What a status tells

A pass writes one status. All of it but the phase and the error is recomputed from what the pass has
read: `Survey.Recorded` says each field in terms of the survey, in which the status stored before
does not occur, and the fields are determined by it (`Survey.Recorded.agrees`). The error is that of
the status before, unless the pass has news of it (`News`): a decommission that failed or an
inconsistency replaces it, and convergence drops it.

`Told config key h status v news` holds of a status written behind the history `h`. That a pass
writes no other (`holds_run_tells`) does not depend on how its effects are answered.
-/

namespace RackOperator

/-- Whether an effect writes the status of a DataCenter. -/
def Effect.writesStatus : Effect → Bool
  | .store (.replaceDataCenterStatus ..) => true
  | _ => false

/-- Whether a decision leaves the error as it is. -/
def Decision.silent : Decision → Bool
  | inconsistent _ => false
  | decommission .. => false
  | converged _ => false
  | _ => true

namespace Layout

/-- A sum that is had fits, as every step of it is checked. -/
theorem fits_of_sumFrom? {is : List Int} {start total : Int} (hs : fits start = true)
    (h : sumFrom? start is = some total) : fits total = true := by
  induction is generalizing start with
  | nil =>
    cases h
    exact hs
  | cons i rest ih =>
    unfold sumFrom? at h
    split at h
    next hfits => exact ih hfits h
    next => cases h

/-- A sum that is had is the sum of the numbers, and fits. -/
theorem sum?_spec {is : List Int} {total : Int} (h : sum? is = some total) :
    total = is.sum ∧ -2 ^ 31 ≤ total ∧ total < 2 ^ 31 := by
  have hsum := sumFrom?_eq h
  have hfits := fits_of_sumFrom? (by decide) h
  simp only [fits, Bool.and_eq_true, decide_eq_true_eq] at hfits
  exact ⟨by omega, by omega, by omega⟩

/-- It is kept as it is in 32 bits. -/
theorem toInt_sum? {is : List Int} {total : Int} (h : sum? is = some total) :
    (Int32.ofInt total).toInt = is.sum := by
  obtain ⟨he, hl, hu⟩ := sum?_spec h
  rw [Int32.toInt_ofInt_of_le hl hu, he]

end Layout

namespace DataCenterStatus

/-- Two statuses that differ in their phase and their error at most. -/
def Agrees (a b : DataCenterStatus) : Prop :=
  { a with phase := b.phase, lastErrorMessage := b.lastErrorMessage } = b

/-- What is put in place of what a status said: the sums of the counters, the entries of racks and
pods and the generation. The phase and the error stay. -/
theorem observed?_eq_some {st observed : DataCenterStatus} {o : Observation}
    {generation : Option Int64} (h : st.observed? o generation = some observed) :
    ∃ replicas ready, Layout.sum? (o.groups.map (·.statusReplicas)) = some replicas ∧
      Layout.sum? (o.groups.map (·.readyReplicas)) = some ready ∧
      observed = { st with
        replicas := Int32.ofInt replicas
        readyReplicas := Int32.ofInt ready
        joinedReplicas := Int32.ofNat
          ((o.members.map (podEntry o)).filter fun p => p.mode = .normal).length
        rackStatuses := o.groups.map (rackEntry o)
        podStatuses := o.members.map (podEntry o)
        observedGeneration := generation } := by
  unfold observed? at h
  obtain ⟨replicas, hreplicas, h⟩ := Option.bind_eq_some_iff.mp h
  obtain ⟨ready, hready, h⟩ := Option.bind_eq_some_iff.mp h
  cases h
  exact ⟨replicas, ready, hreplicas, hready, rfl⟩

end DataCenterStatus

namespace Pass

variable {config : Config} {key : ClusterKey} {v : Survey} {h : History}

/-! ## What is observed -/

namespace Survey

/-- The racks are observed as they were found, in rack order. -/
theorem racks_observation (hv : v.Whole) : v.observation.racks = v.found.map v.view := by
  have hsorted : v.groups.Pairwise fun a b => decide (¬b.rack < a.rack) = true := by
    refine List.pairwise_map.mpr ((List.pairwise_map.mp hv.pairwise_counts).imp fun {p q} hlt => ?_)
    exact decide_eq_true (Rack.not_lt_of_lt hlt)
  unfold observation Observation.ofGroups
  rw [List.mergeSort_of_pairwise hsorted]
  exact List.map_map

theorem groups_observation (hv : v.Whole) : v.observation.groups = v.found.map v.group := by
  unfold Observation.groups
  rw [racks_observation hv, List.map_map]
  rfl

/-- A status can be made where the counters that the StatefulSets report add up to numbers that fit.
-/
theorem exists_observed (hv : v.Whole) {replicas ready : Int}
    (hreplicas : Layout.sum? (v.found.map fun p => (v.group p).statusReplicas) = some replicas)
    (hready : Layout.sum? (v.found.map fun p => (v.group p).readyReplicas) = some ready)
    (st : DataCenterStatus) (generation : Option Int64) :
    ∃ observed, st.observed? v.observation generation = some observed := by
  unfold DataCenterStatus.observed?
  rw [groups_observation hv, List.map_map, List.map_map]
  exact ⟨_, Option.bind_eq_some_iff.mpr ⟨replicas, hreplicas,
    Option.bind_eq_some_iff.mpr ⟨ready, hready, rfl⟩⟩⟩

/-- A rack is told ready if its StatefulSet is. -/
theorem isReady_observation (hv : v.Whole) {p : Rack × StatefulSet} (hp : p ∈ v.found) :
    v.observation.isReady p.1 = p.2.isReady := by
  refine Bool.eq_iff_iff.mpr (List.any_eq_true.trans ⟨fun ⟨x, hx, hready⟩ => ?_, fun hready => ?_⟩)
  · obtain ⟨q, hq, rfl⟩ := mem_racks.mp hx
    obtain ⟨hrack, hready⟩ := Bool.and_eq_true_iff.mp hready
    rwa [List.inj_on_of_nodup_map hv.nodup_racks hq hp (of_decide_eq_true hrack)] at hready
  · exact ⟨v.view p, mem_racks.mpr ⟨p, hp, rfl⟩,
      Bool.and_eq_true_iff.mpr ⟨decide_eq_true rfl, hready⟩⟩

/-- The mode of a rack found. -/
def modeOf (v : Survey) (p : Rack × StatefulSet) : RackMode :=
  .classify (v.group p).desired.replicas p.2.replicas p.2.recordedGeneration v.generation

/-- What a status says of a rack found: its name, its counts and whether it is ready. -/
theorem rackEntry_group (hv : v.Whole) {p : Rack × StatefulSet} (hp : p ∈ v.found) :
    DataCenterStatus.rackEntry v.observation (v.group p) =
      { name := p.1.name, ready := p.2.isReady, mode := v.modeOf p,
        replicas := p.2.replicas32 } := by
  have hmode : v.observation.modeOf? p.1 = some (v.modeOf p) := by
    unfold Observation.modeOf?
    rw [find?_eq_view hv hp]
    rfl
  show RackStatus.mk p.1.name (v.observation.isReady p.1)
    ((v.observation.modeOf? p.1).getD .unknown) p.2.replicas32 = _
  rw [isReady_observation hv hp, hmode]
  rfl

/-- What a status says of the members of a rack found, by ordinal. -/
def podsOf (v : Survey) (p : Rack × StatefulSet) : List PodStatus :=
  (List.range p.2.replicas.toNat).map fun o : Nat =>
    { podName := v.dc.naming.podName p.1 o
      mode := (v.statuses.statuses.find? (v.dc.naming.podName p.1 o)).getD .unknown }

/-- All of a status but its phase and its error, as it follows from what a pass has read. -/
structure Recorded (v : Survey) (status : DataCenterStatus) : Prop where
  replicas : status.replicas.toInt =
    (v.found.map fun p => (p.2.status.map fun s => s.replicas.toInt).getD 0).sum
  readyReplicas : status.readyReplicas.toInt =
    (v.found.map fun p => ((p.2.status.bind (·.readyReplicas)).map Int32.toInt).getD 0).sum
  rackStatuses : status.rackStatuses = v.found.map fun p =>
    { name := p.1.name, ready := p.2.isReady, mode := v.modeOf p, replicas := p.2.replicas32 }
  podStatuses : status.podStatuses = v.found.flatMap v.podsOf
  joinedReplicas : status.joinedReplicas =
    Int32.ofNat (status.podStatuses.countP fun p => p.mode = .normal)
  /-- The number does not overflow where no count is negative. -/
  joined : (∀ p ∈ v.found, 0 ≤ p.2.replicas) →
    status.joinedReplicas.toInt = status.podStatuses.countP fun p => p.mode = .normal
  observedGeneration : status.observedGeneration = v.dc.metadata.generation

/-- Counts that are not negative have no more members than fit, so their number is written as it is.
-/
theorem length_podsOf_lt (hv : v.Whole) (hnn : ∀ p ∈ v.found, 0 ≤ p.2.replicas) :
    (v.found.flatMap v.podsOf).length < 2 ^ 31 := by
  obtain ⟨total, ht, -⟩ := Option.map_eq_some_iff.mp hv.plan
  rw [SortedMap.ofList_eq_mk hv.pairwise_counts] at ht
  obtain ⟨hsum, -, hu⟩ := Layout.sum?_spec ht
  have hlength : ((v.found.flatMap v.podsOf).length : Int) = total := by
    rw [hsum, List.length_flatMap, Nat.cast_list_sum, List.map_map]
    show _ = (v.counts.map (·.2)).sum
    unfold counts
    rw [List.map_map]
    refine congrArg List.sum (List.map_congr_left fun p hp => ?_)
    show ((v.podsOf p).length : Int) = p.2.replicas
    rw [podsOf, List.length_map, List.length_range]
    exact Int.toNat_of_nonneg (hnn p hp)
  omega

/-- What is observed is recorded: each field of the status is the one the survey gives. Nothing of
the status before is left in it but the fields that no observation touches. -/
theorem recorded_of_observed (hv : v.Whole) {st observed : DataCenterStatus}
    (ho : st.observed? v.observation v.dc.metadata.generation = some observed) :
    v.Recorded observed := by
  obtain ⟨replicas, ready, hreplicas, hready, rfl⟩ := DataCenterStatus.observed?_eq_some ho
  have hgroups := groups_observation hv
  -- The entries of the pods are made rack by rack, and so are those a survey gives.
  have hpods : v.observation.members.map (DataCenterStatus.podEntry v.observation) =
      v.found.flatMap v.podsOf := by
    unfold Observation.members
    rw [racks_observation hv, List.flatMap_map, List.map_flatMap]
    refine congrArg (List.flatMap · v.found) (funext fun p => ?_)
    exact List.map_map
  have hjoined : ((v.observation.members.map (DataCenterStatus.podEntry v.observation)).filter
      fun p => p.mode = .normal).length =
        (v.found.flatMap v.podsOf).countP fun p => p.mode = .normal := by
    rw [hpods, List.countP_eq_length_filter]
  rw [hgroups, List.map_map] at hreplicas hready
  refine ⟨Layout.toInt_sum? hreplicas, Layout.toInt_sum? hready, ?_, hpods, ?_, fun hnn => ?_, rfl⟩
  · dsimp only
    rw [hgroups, List.map_map]
    exact List.map_congr_left fun p hp => rackEntry_group hv hp
  · dsimp only
    rw [hjoined, hpods]
  · dsimp only
    rw [hjoined, hpods]
    -- The number of pods that have joined is kept in 32 bits.
    exact Int32.toInt_ofNat_of_lt
      (Nat.lt_of_le_of_lt List.countP_le_length (length_podsOf_lt hv hnn))

/-- Nothing is said of the phase and the error, which are not read off the survey. -/
theorem Recorded.with_error {status : DataCenterStatus} (hr : v.Recorded status)
    (phase : DataCenterPhase) (error : Option String) :
    v.Recorded { status with phase, lastErrorMessage := error } :=
  ⟨hr.replicas, hr.readyReplicas, hr.rackStatuses, hr.podStatuses, hr.joinedReplicas, hr.joined,
    hr.observedGeneration⟩

/-- What is recorded does not depend on the status stored before, but for phase and error. -/
theorem Recorded.agrees {previous : Option DataCenterStatus} {a b : DataCenterStatus}
    (ha : Recorded { v with dc := { v.dc with status := previous } } a) (hb : v.Recorded b) :
    a.Agrees b := by
  have hpods : a.podStatuses = b.podStatuses := ha.podStatuses.trans hb.podStatuses.symm
  have hjoined : a.joinedReplicas = b.joinedReplicas := by
    rw [ha.joinedReplicas, hb.joinedReplicas, hpods]
  have hreplicas := Int32.toInt_inj.mp (ha.replicas.trans hb.replicas.symm)
  have hready := Int32.toInt_inj.mp (ha.readyReplicas.trans hb.readyReplicas.symm)
  have hracks : a.rackStatuses = b.rackStatuses := ha.rackStatuses.trans hb.rackStatuses.symm
  have hgeneration : a.observedGeneration = b.observedGeneration :=
    ha.observedGeneration.trans hb.observedGeneration.symm
  unfold DataCenterStatus.Agrees
  cases a
  cases b
  simp_all

end Survey

/-! ## What becomes of the error -/

/-- What a pass has to say of the error. -/
inductive News
  | quiet
  | failed (message : String)
  | converged
deriving DecidableEq

/-- The error then. -/
def News.tell (error : Option String) : News → Option String
  | quiet => error
  | failed message => some message
  | converged => none

/-- What a decision is news of, once all this is done for it. -/
inductive Brings (config : Config) (key : ClusterKey) : Decision → History → News → Prop
  | inconsistent (reason : String) (done : History) :
    Brings config key (.inconsistent reason) done (.failed reason)
  | refused (r : Rack) (m : Member) {tries : History} {err : OperatorError}
    (h : Parting config m tries (.error err)) :
    Brings config key (.decommission r m)
      (tries ++ [⟨.audit key (.decommissionFailed m.name err.message), ()⟩])
      (.failed ("decommission of " ++ m.name ++ " failed: " ++ err.message))
  | decommissioned (r : Rack) (m : Member) {tries : History}
    (h : Parting config m tries (.ok ())) :
    Brings config key (.decommission r m)
      (tries ++ [⟨.audit key (.decommission m.name), ()⟩]) .quiet
  | converged (cleanup : Bool) (done : History) :
    Brings config key (.converged cleanup) done .converged
  | silent {d : Decision} (hd : d.silent = true) (done : History) :
    Brings config key d done .quiet

/-- What was done tells what it was news of, as the last request decides. So one history cannot be
told as a success by one reading and as a failure by another. -/
theorem Brings.unique {d : Decision} {done : History} {n n' : News}
    (hn : Brings config key d done n) (hn' : Brings config key d done n') : n = n' := by
  cases hn with
  | inconsistent reason done =>
    cases hn' with
    | inconsistent => rfl
    | silent hd => cases hd
  | @refused r m tries err hp =>
    -- the entry in the trail comes last and names the error
    generalize he : tries ++ [_] = done at hn'
    cases hn' with
    | @refused _ _ _ err' =>
      have hlast := congrArg (List.map Answered.effect) (List.append_inj' he rfl).2
      have hentry := (Effect.audit.inj (List.cons.inj hlast).1).2
      rw [(AuditEntry.decommissionFailed.inj hentry).2]
    | decommissioned =>
      have hlast := (List.append_inj' he rfl).2
      cases hlast
    | silent hd => cases hd
  | @decommissioned r m tries hp =>
    generalize he : tries ++ [_] = done at hn'
    cases hn' with
    | refused =>
      have hlast := (List.append_inj' he rfl).2
      cases hlast
    | decommissioned => rfl
    | silent hd => cases hd
  | converged cleanup done =>
    cases hn' with
    | converged => rfl
    | silent hd => cases hd
  | silent hd done =>
    cases hn' with
    | silent => rfl
    | _ => cases hd

/-- A status written behind a history: it tells what the survey has read and the news that a
decision applied brought, and no status was written before it. -/
structure Told (config : Config) (key : ClusterKey) (h : History) (status : DataCenterStatus)
    (v : Survey) (news : News) : Prop where
  whole : v.Whole
  behind : ∃ done, h = v.history key ++ done ∧ Brings config key v.decision done news
  recorded : v.Recorded status
  error : status.lastErrorMessage = news.tell (v.dc.status.getD {}).lastErrorMessage
  first : ∀ a ∈ h, a.effect.writesStatus = false

/-- What a status tells can be told from the history, so a reader of the history needs no more. -/
theorem Told.unique {status : DataCenterStatus} {v v' : Survey} {n n' : News}
    (ht : Told config key h status v n) (ht' : Told config key h status v' n') :
    v = v' ∧ n = n' := by
  obtain ⟨done, hh, hn⟩ := ht.behind
  obtain ⟨done', hh', hn'⟩ := ht'.behind
  obtain rfl := Survey.eq_of_history ht.whole ht'.whole ⟨done, hh.symm⟩ ⟨done', hh'.symm⟩
  obtain rfl := List.append_cancel_left (hh.symm.trans hh')
  exact ⟨rfl, hn.unique hn'⟩

/-! ## No other status is written -/

/-- Whatever status is written is that of the DataCenter, and tells something. -/
def Tells (config : Config) (key : ClusterKey) (h : History) (e : Effect) : Prop :=
  ∀ ns name status, e = .store (.replaceDataCenterStatus ns name status) →
    ns = key.ns ∧ name = key.name ∧ ∃ v news, Told config key h status v news

theorem tells_of_not_status {e : Effect} (he : e.writesStatus = false) :
    Tells config key h e := by
  rintro ns name status rfl
  cases he

theorem forall_writesStatus_history (key : ClusterKey) (v : Survey) :
    ∀ a ∈ v.history key, a.effect.writesStatus = false :=
  Survey.forall_mem_history (Survey.forall_mem_reads rfl rfl fun _ _ => rfl) rfl rfl

/-- What is done for a decision is no status write, and brings news of the error. -/
def Applies (config : Config) (key : ClusterKey) (v : Survey) (st : DataCenterStatus)
    (h : History) (told : DataCenterStatus) : Prop :=
  ∃ done news, h = v.history key ++ done ∧ Brings config key v.decision done news ∧
    (∀ a ∈ done, a.effect.writesStatus = false) ∧
    told = { st with lastErrorMessage := news.tell st.lastErrorMessage }

section Walk

theorem Asking.not_writesStatus {m : Member} {more : Nat} {tries : History}
    {x : Except OperatorError Unit} (ha : Asking config m more tries x) :
    ∀ a ∈ tries, a.effect.writesStatus = false := by
  induction ha with
  | accepted => exact List.forall_mem_singleton.mpr rfl
  | spent => exact List.forall_mem_singleton.mpr rfl
  | again err h ih => exact List.forall_mem_cons.mpr ⟨rfl, List.forall_mem_cons.mpr ⟨rfl, ih⟩⟩

theorem Parting.not_writesStatus {m : Member} {tries : History} {x : Except OperatorError Unit}
    (hp : Parting config m tries x) : ∀ a ∈ tries, a.effect.writesStatus = false := by
  cases hp with
  | unreached => exact List.forall_mem_singleton.mpr rfl
  | reached ha => exact List.forall_mem_cons.mpr ⟨rfl, ha.not_writesStatus⟩

open Work

theorem holds_scale_silent (hd : v.decision.silent = true) (r : Rack) (n : Int)
    (st : DataCenterStatus) :
    (scale key v.observation r n >>= fun _ => pure st).Holds (Tells config key)
      (Applies config key v st) (v.history key) := by
  refine (holds_bind _ _).mpr ((holds_bind _ _).mpr ((holds_groupOf _ _).mpr fun g _ => ?_))
  refine (holds_store_bind _ _).mpr ⟨tells_of_not_status rfl, fun sts => ?_⟩
  refine (holds_audit _ _).mpr ⟨tells_of_not_status rfl, fun u => (holds_pure _).mpr ?_⟩
  exact ⟨_, .quiet, List.append_assoc .., .silent hd _,
    List.forall_mem_cons.mpr ⟨rfl, List.forall_mem_singleton.mpr rfl⟩, rfl⟩

/-- Whatever was decided, it is applied, and no status is written meanwhile. The status that follows
is then the first one since the survey, and can be laid to its account. -/
theorem holds_apply_applies (v : Survey) (st : DataCenterStatus) :
    (apply config key v.dc v.observation st v.decision).Holds (Tells config key)
      (Applies config key v st) (v.history key) := by
  have hnone : v.decision.silent = true → Applies config key v st (v.history key) st := fun hd =>
    ⟨[], .quiet, (List.append_nil _).symm, .silent hd _, fun a ha => absurd ha List.not_mem_nil,
      rfl⟩
  -- By the decision: what was inconsistent or refused is news of a failure, convergence is news of
  -- that, and the rest is quiet.
  cases hd : v.decision with
  | inconsistent reason =>
    refine (holds_bind _ _).mpr ((holds_audit _ _).mpr ⟨tells_of_not_status rfl, fun u => ?_⟩)
    refine (holds_pure _).mpr ⟨_, .failed reason, rfl, ?_, List.forall_mem_singleton.mpr rfl, rfl⟩
    rw [hd]
    exact .inconsistent reason _
  | waitForRacks racks => exact (holds_pure _).mpr (hnone (by rw [hd]; rfl))
  | waitForMembers members => exact (holds_pure _).mpr (hnone (by rw [hd]; rfl))
  | updateRack r =>
    refine (holds_bind _ _).mpr ((holds_groupOf _ _).mpr fun g _ => ?_)
    refine (holds_store_bind _ _).mpr ⟨tells_of_not_status rfl, fun sts => ?_⟩
    refine (holds_bind _ _).mpr ((holds_audit _ _).mpr ⟨tells_of_not_status rfl, fun u => ?_⟩)
    exact (holds_pure _).mpr ⟨_, .quiet, List.append_assoc .., .silent (by rw [hd]; rfl) _,
      List.forall_mem_cons.mpr ⟨rfl, List.forall_mem_singleton.mpr rfl⟩, rfl⟩
  | scaleUp r n => exact holds_scale_silent (by rw [hd]; rfl) r n st
  | decommission r m =>
    refine (holds_bind _ _).mpr ((holds_ofProgram _).mpr ?_)
    refine holds_decommission (tells_of_not_status rfl)
      (fun _ _ => ⟨tells_of_not_status rfl, tells_of_not_status rfl⟩) fun tries x hp => ?_
    have hno := hp.not_writesStatus
    cases x with
    | ok u =>
      refine (holds_bind _ _).mpr ((holds_audit _ _).mpr ⟨tells_of_not_status rfl, fun u => ?_⟩)
      refine (holds_pure _).mpr ⟨_, .quiet, List.append_assoc .., ?_,
        List.forall_mem_append.mpr ⟨hno, List.forall_mem_singleton.mpr rfl⟩, rfl⟩
      rw [hd]
      exact .decommissioned r m hp
    | error e =>
      refine (holds_bind _ _).mpr ((holds_audit _ _).mpr ⟨tells_of_not_status rfl, fun u => ?_⟩)
      refine (holds_pure _).mpr ⟨_, .failed _, List.append_assoc .., ?_,
        List.forall_mem_append.mpr ⟨hno, List.forall_mem_singleton.mpr rfl⟩, rfl⟩
      rw [hd]
      exact .refused r m hp
  | scaleDown r n m => exact holds_scale_silent (by rw [hd]; rfl) r n st
  | waitForDecommission r m s => exact (holds_pure _).mpr (hnone (by rw [hd]; rfl))
  | converged cleanup =>
    have hnews : ∀ done, Brings config key v.decision done .converged := by
      rw [hd]
      exact .converged cleanup
    cases cleanup with
    | false =>
      exact (holds_pure _).mpr ⟨[], .converged, (List.append_nil _).symm, hnews _,
        fun a ha => absurd ha List.not_mem_nil, rfl⟩
    | true =>
      refine (holds_store_bind _ _).mpr ⟨tells_of_not_status rfl, fun task => ?_⟩
      refine (holds_bind _ _).mpr ((holds_audit _ _).mpr ⟨tells_of_not_status rfl, fun u => ?_⟩)
      exact (holds_pure _).mpr ⟨_, .converged, List.append_assoc .., hnews _,
        List.forall_mem_cons.mpr ⟨rfl, List.forall_mem_singleton.mpr rfl⟩, rfl⟩

/-- The status written behind a decision applied tells what was observed and what came of it. -/
theorem told_of_applies (hv : v.Whole) {observed told : DataCenterStatus}
    (ho : (v.dc.status.getD {}).observed? v.observation v.dc.metadata.generation = some observed)
    (ha : Applies config key v observed h told) :
    ∃ news, Told config key h (v.status told) v news := by
  obtain ⟨done, news, hh, hn, hno, rfl⟩ := ha
  have herror : observed.lastErrorMessage = (v.dc.status.getD {}).lastErrorMessage := by
    obtain ⟨_, _, -, -, rfl⟩ := DataCenterStatus.observed?_eq_some ho
    rfl
  refine ⟨news, hv, ⟨done, hh, hn⟩, (Survey.recorded_of_observed hv ho).with_error _ _, ?_, ?_⟩
  · rw [← herror]
    rfl
  · rw [hh]
    exact List.forall_mem_append.mpr ⟨forall_writesStatus_history key v, hno⟩

/-- A pass writes no status but one that tells, however it is answered. -/
theorem holds_run_tells (config : Config) (key : ClusterKey) :
    (run config key).Holds (Tells config key) (fun _ _ => True) [] := by
  refine holds_run_of (tells_of_not_status rfl) (fun _ => tells_of_not_status rfl)
    (fun _ _ _ _ _ => tells_of_not_status rfl) (fun _ _ _ _ _ _ _ => tells_of_not_status rfl)
    fun dc found hfound => holds_converge_of hfound (fun _ _ => tells_of_not_status rfl)
      (fun _ _ => tells_of_not_status rfl) fun v hv observed ho => ?_
  refine Work.Holds.mono (fun _ _ h => h) (fun h told ha => ?_) (holds_apply_applies v observed)
  rintro ns name status he
  cases he
  exact ⟨rfl, rfl, v, told_of_applies hv ho ha⟩

end Walk

end Pass

end RackOperator
