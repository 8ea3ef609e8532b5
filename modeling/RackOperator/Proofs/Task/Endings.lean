import RackOperator.Proofs.Task.AtMostOnce
import RackOperator.Proofs.Task.Calls

/-!
# How an advance of a task ends

An advance over a store in memory finds the members of its DataCenter (`live`) and goes on with
the entries of its task, or with the first ones (`begun`). `Finished` says what has become of
the task when it is over: who was called and in which order, what every entry is then, and that
the phase is SUCCEED or FAILED.

The phase is never RUNNING again, since an entry is left open only behind a call that failed
(`Walked.exists_failed`): entries that were RUNNING, or wait for a pod that is gone, fail before
anybody is called (`Stale`), and those left WAITING are called, unless a call in front of theirs
fails. `finishes_task` reads the code of an advance once around the calls.
-/

namespace RackOperator

open Work

/-- Whether a kind stops at the first call that fails. -/
def TaskKind.stopsAtFailure : TaskKind → Bool
  | backup _ => true
  | repair _ => true
  | _ => false

namespace Advance

/-- The racks of a DataCenter that have a StatefulSet, each with its replicas. -/
def counts (ns : String) (naming : Naming) (s : MemoryStore) (racks : List Rack) :
    List (Rack × Int) :=
  racks.filterMap fun r =>
    (s.statefulSets.find? ⟨ns, naming.statefulSetName r⟩).map fun sts => (r, sts.replicas)

/-- The members a DataCenter has in a store. -/
def live (ns : String) (dc : DataCenter) (s : MemoryStore) : List Member :=
  (counts ns dc.naming s (Rack.all dc.spec.racks.toInt.toNat)).flatMap fun p =>
    dc.naming.members p.1 p.2

/-- The entries a task goes on with: those it has, or else one for each member selected. -/
def begun (kind : TaskKind) (live : List Member) (statuses : StatusSnapshot) (pods : Progress) :
    Progress :=
  if pods.isEmpty then
    SortedMap.ofList ((kind.select live statuses).map fun m => (m.name, .waiting))
  else pods

/-- The members that are there and whose entry is WAITING. -/
def waiting (live : List Member) (pods : Progress) : List Member :=
  live.filter fun m => pods.find? m.name = some .waiting

/-- What a task that calls its members one at a time has to ask of one of them. A backup asks for a
backup, so that the status of the response decides the call. -/
inductive Demands (run : Run) (m : Member) : SidecarRequest → Prop
  | cleanup {spec : CleanupSpec} (h : run.kind = .cleanup spec) :
    Demands run m (.cleanup spec.keyspace)
  | backup {spec : BackupSpec} (h : run.kind = .backup spec) :
    Demands run m (.backup {
      snapshotTag := run.key.name
      provider := spec.provider
      bucket := spec.bucket
      clusterId := run.datacenter
      backupId := m.name })
  | repair {spec : RepairSpec} (h : run.kind = .repair spec) :
    Demands run m (.repair spec.keyspace)
  | rebuild {spec : RebuildSpec} (h : run.kind = .rebuild spec) :
    Demands run m (.rebuild spec.sourceDc spec.keyspace)

/-- What an advance has come to that found these members live and went on from these entries. -/
structure Finished (run : Run) (live : List Member) (first : Progress) (h : History)
    (final : TaskStatus) : Prop where
  /-- The task has ended, never to be RUNNING again. -/
  ended : final.phase = .succeed ∨ final.phase = .failed
  finishTime : ∃ t, final.finishTime = some t
  succeeded : final.phase = .succeed ↔ ∀ pod p, final.pods.find? pod = some p → p = .succeed
  /-- The members to be called are in order and have pods of their own. -/
  inOrder : (waiting live first).Pairwise Member.Precedes
  distinct : ((waiting live first).map (·.name)).Nodup
  /-- They are called in that order, each at most once. -/
  called : h.calls.map (·.member) <+: waiting live first
  all : run.kind.stopsAtFailure = false → h.calls.map (·.member) = waiting live first
  /-- A kind that stops does so behind the first call that fails, and nowhere else. -/
  stops : run.kind.stopsAtFailure = true → (∀ c ∈ h.calls.dropLast, c.succeeded = true) ∧
    (h.calls.map (·.member) = waiting live first ∨
      ∃ c, h.calls.getLast? = some c ∧ c.succeeded = false)
  /-- A replication asks all of them at once for a flush, every other kind one at a time for what
  it has to ask. -/
  asked : ∀ e ∈ h.sidecars, ∃ m ∈ waiting live first,
    (∃ spec, run.kind = .replication spec) ∧ e = .requestAll (waiting live first) (.flush none) ∨
    (∀ spec, run.kind ≠ .replication spec) ∧
      (e = .connect m ∨ ∃ r, e = .request m r ∧ Demands run m r)
  /-- The entry of a pod that was called says how. -/
  entered : ∀ c ∈ h.calls,
    final.pods.find? c.member.name = some (if c.succeeded then .succeed else .failed)
  /-- Entries that were RUNNING fail. -/
  interrupted : ∀ pod, first.find? pod = some .running → final.pods.find? pod = some .failed
  /-- Entries that wait for a pod that is gone fail. -/
  gone : ∀ pod, first.find? pod = some .waiting → pod ∉ live.map (·.name) →
    final.pods.find? pod = some .failed
  /-- Every other entry is as it was. -/
  kept : ∀ pod, (∀ c ∈ h.calls, c.member.name ≠ pod) → first.find? pod ≠ some .running →
    ¬(first.find? pod = some .waiting ∧ pod ∉ live.map (·.name)) →
      final.pods.find? pod = first.find? pod

/-! ## The phase of a task -/

section Phase

variable {pods : Progress} {pod : String}

theorem aggregate_of_failed (h : pods.find? pod = some .failed) : aggregate pods = .failed := by
  unfold aggregate
  rw [if_pos]
  exact List.any_eq_true.mpr ⟨_, SortedMap.mem_values.mpr ⟨pod, h⟩, rfl⟩

/-- A task succeeds if all its entries have, and so does one that has none. -/
theorem aggregate_of_succeed (h : ∀ pod p, pods.find? pod = some p → p = .succeed) :
    aggregate pods = .succeed := by
  have hvalue : ∀ p ∈ pods.values, p = .succeed := fun p hp =>
    (SortedMap.mem_values.mp hp).elim fun pod hpod => h pod p hpod
  unfold aggregate
  rw [if_neg, if_neg]
  · intro hany
    obtain ⟨p, hp, hopen⟩ := List.any_eq_true.mp hany
    rw [hvalue p hp] at hopen
    cases hopen
  · intro hany
    obtain ⟨p, hp, hfailed⟩ := List.any_eq_true.mp hany
    rw [hvalue p hp] at hfailed
    cases hfailed

/-- Where an entry that has not ended comes with one that failed, there are two ends: all entries
have succeeded, or some entry has failed. -/
theorem aggregate_cases (h : ∀ pod p, pods.find? pod = some p → p.isTerminal = false →
      ∃ pod', pods.find? pod' = some .failed) :
    (∀ pod p, pods.find? pod = some p → p = .succeed) ∧ aggregate pods = .succeed ∨
      (∃ pod, pods.find? pod = some .failed) ∧ aggregate pods = .failed := by
  by_cases hf : ∃ pod, pods.find? pod = some .failed
  · exact .inr ⟨hf, aggregate_of_failed hf.choose_spec⟩
  · have hall : ∀ pod p, pods.find? pod = some p → p = .succeed := by
      intro pod p hp
      cases p with
      | succeed => rfl
      | failed => exact absurd ⟨pod, hp⟩ hf
      | waiting => exact absurd (h pod _ hp rfl) hf
      | running => exact absurd (h pod _ hp rfl) hf
    exact .inl ⟨hall, aggregate_of_succeed hall⟩

end Phase

/-! ## Entries that can make no progress -/

section Stale

variable {names : List String} {pod : String} {p : TaskPhase}

/-- An entry was RUNNING when the advance began, or waits for a pod that is gone. -/
def Stale (names : List String) (pod : String) (p : TaskPhase) : Prop :=
  p = .running ∨ p = .waiting ∧ pod ∉ names

/-- An entry that is RUNNING, or that waits for a pod which is gone, fails when the task is resumed.
-/
theorem settled_of_stale (h : Stale names pod p) : settled names pod p = .failed := by
  rcases h with rfl | ⟨rfl, hgone⟩
  · rfl
  · have hout : names.contains pod = false :=
      Bool.eq_false_iff.mpr fun hc => hgone (List.contains_iff_mem.mp hc)
    unfold settled staleReason?
    dsimp only
    rw [hout]
    rfl

theorem settled_of_not_stale (h : ¬Stale names pod p) : settled names pod p = p := by
  unfold settled staleReason?
  cases p with
  | running => exact absurd (.inl rfl) h
  | waiting =>
    have hin : names.contains pod = true :=
      List.contains_iff_mem.mpr (by_contra fun hn => h (.inr ⟨rfl, hn⟩))
    dsimp only
    rw [hin]
    rfl
  | _ => rfl

/-- What still waits waited before, for a pod that is there. These are the members to be called. -/
theorem settled_eq_waiting : settled names pod p = .waiting ↔ p = .waiting ∧ pod ∈ names := by
  by_cases hs : Stale names pod p
  · rw [settled_of_stale hs]
    refine ⟨nofun, fun ⟨hp, hin⟩ => ?_⟩
    rcases hs with hr | ⟨-, hgone⟩
    · cases hp.symm.trans hr
    · exact absurd hin hgone
  · rw [settled_of_not_stale hs]
    refine ⟨fun hp => ⟨hp, by_contra fun hn => hs (.inr ⟨hp, hn⟩)⟩, And.left⟩

/-- Resuming settles the entries one by one, each by its own pod and phase. -/
theorem find?_failStale (st : TaskStatus) (members : List Member) (pod : String) :
    (failStale st members).pods.find? pod =
      (st.pods.find? pod).map (settled (members.map (·.name)) pod) :=
  SortedMap.find?_mapWithKey _ _ _

/-- Once the stale entries have failed, those who wait are the live members that waited. -/
theorem pending_failStale (st : TaskStatus) (members : List Member) :
    pending (failStale st members) members = waiting members st.pods := by
  refine List.filter_congr fun m hm => decide_eq_decide.mpr ?_
  rw [find?_failStale, Option.map_eq_some_iff]
  constructor
  · rintro ⟨p, hp, hw⟩
    rw [hp, (settled_eq_waiting.mp hw).1]
  · exact fun hp => ⟨_, hp, settled_eq_waiting.mpr ⟨rfl, List.mem_map_of_mem hm⟩⟩

end Stale

/-! ## What the calls leave behind -/

/-- A kind walks members one at a time, stopping at failures if it is one to stop. The two ways in
which the source says so agree. -/
theorem failFast_eq {kind : TaskKind} {config : Config} {pacing : Nat} {failFast : Bool}
    (h : kind.execution config = .sequential pacing failFast) : failFast = kind.stopsAtFailure := by
  cases kind with
  | replication spec => cases h
  | _ =>
    cases h
    rfl

/-- A kind that calls its members all at once does not stop at failures. -/
theorem stopsAtFailure_of_parallel {kind : TaskKind} {config : Config}
    (h : kind.execution config = .parallel) : kind.stopsAtFailure = false := by
  cases kind with
  | replication spec => rfl
  | _ => cases h

/-- Replication alone asks everybody at once, and for a flush; the others ask a member for what
their kind demands, a backup for nothing but a `.backup`. -/
theorem MayAsk.by_kind {run : Run} {ms : List Member} {e : Effect} (h : MayAsk run ms e) :
    ∃ m ∈ ms, (∃ spec, run.kind = .replication spec) ∧ e = .requestAll ms (.flush none) ∨
      (∀ spec, run.kind ≠ .replication spec) ∧
        (e = .connect m ∨ ∃ r, e = .request m r ∧ Demands run m r) := by
  obtain ⟨m, hm, he⟩ := h
  refine ⟨m, hm, ?_⟩
  cases hk : run.kind with
  | cleanup spec =>
    rw [hk] at he
    exact .inr ⟨nofun, he.imp_right fun he => ⟨_, he, .cleanup hk⟩⟩
  | backup spec =>
    rw [hk] at he
    exact .inr ⟨nofun, he.imp_right fun he => ⟨_, he, .backup hk⟩⟩
  | replication spec =>
    rw [hk] at he
    exact .inl ⟨⟨spec, rfl⟩, he⟩
  | repair spec =>
    rw [hk] at he
    exact .inr ⟨nofun, he.imp_right fun he => ⟨_, he, .repair hk⟩⟩
  | rebuild spec =>
    rw [hk] at he
    exact .inr ⟨nofun, he.imp_right fun he => ⟨_, he, .rebuild hk⟩⟩

namespace Walked

section

variable {run : Run} {members : List Member} {st st' : TaskStatus} {done : History}
  {pod : String} {p : TaskPhase} (hc : Walked run run.kind.stopsAtFailure
    (waiting members st.pods) (failStale st members) done st')

include hc

/-- The entry of a pod that was not called is what it was, or has failed for being stale. -/
theorem find?_of_not_called (hnot : ∀ c ∈ done.calls, c.member.name ≠ pod) :
    st'.pods.find? pod = (st.pods.find? pod).map (settled (members.map (·.name)) pod) := by
  rw [hc.entries, verdict?_eq_none.mpr hnot, find?_failStale]
  rfl

/-- Only pods whose entry waits are called, so a stale one is not. -/
theorem not_called (hp : st.pods.find? pod = some p) (hs : Stale (members.map (·.name)) pod p) :
    ∀ c ∈ done.calls, c.member.name ≠ pod := by
  rintro c hcall rfl
  obtain ⟨hm, hw⟩ := List.mem_filter.mp (hc.ordered.mem hcall)
  rw [of_decide_eq_true hw] at hp
  rcases hs with hr | ⟨-, hgone⟩
  · rw [hr] at hp
    cases hp
  · exact hgone (List.mem_map_of_mem hm)

theorem find?_of_stale (hp : st.pods.find? pod = some p)
    (hs : Stale (members.map (·.name)) pod p) : st'.pods.find? pod = some .failed := by
  rw [hc.find?_of_not_called (hc.not_called hp hs), hp, Option.map_some, settled_of_stale hs]

theorem find?_of_called (hnd : (members.map (·.name)).Nodup) {c : Call} (hcall : c ∈ done.calls) :
    st'.pods.find? c.member.name = some c.phase := by
  have hnames : (done.calls.map (·.member.name)).Nodup := by
    have hcalled := hc.ordered.prefix_members.sublist.trans List.filter_sublist
    have hnames := (hcalled.map (·.name)).nodup hnd
    rwa [List.map_map] at hnames
  rw [hc.entries, verdict?_of_mem hnames hcall]
  rfl

/-- An entry is left open only behind a call that failed, of a kind that stops there. So where one
is open in the end another is FAILED, and the task is not left without an outcome. -/
theorem exists_failed (hnd : (members.map (·.name)).Nodup) :
    ∀ pod p, st'.pods.find? pod = some p → p.isTerminal = false →
      ∃ pod', st'.pods.find? pod' = some .failed := by
  intro pod p hp hopen
  by_cases hcalled : ∃ c ∈ done.calls, c.member.name = pod
  · obtain ⟨c, hcall, rfl⟩ := hcalled
    rw [hc.find?_of_called hnd hcall] at hp
    cases Option.some.inj hp
    unfold Call.phase at hopen
    split at hopen <;> cases hopen
  · have hnot : ∀ c ∈ done.calls, c.member.name ≠ pod := fun c hcall he => hcalled ⟨c, hcall, he⟩
    rw [hc.find?_of_not_called hnot] at hp
    obtain ⟨p₀, hp₀, rfl⟩ := Option.map_eq_some_iff.mp hp
    by_cases hs : Stale (members.map (·.name)) pod p₀
    · exact ⟨pod, hc.find?_of_stale hp₀ hs⟩
    -- it waits for a pod that is there and was to be called, so a call in front of it failed
    rw [settled_of_not_stale hs] at hopen
    have hw : p₀ = .waiting ∧ pod ∈ members.map (·.name) := by
      cases p₀ with
      | waiting => exact ⟨rfl, by_contra fun hn => hs (.inr ⟨rfl, hn⟩)⟩
      | running => exact absurd (.inl rfl) hs
      | succeed => cases hopen
      | failed => cases hopen
    obtain ⟨m, hm, rfl⟩ := List.mem_map.mp hw.2
    have hmw : m ∈ waiting members st.pods :=
      List.mem_filter.mpr ⟨hm, decide_eq_true (hw.1 ▸ hp₀)⟩
    rcases hc.ordered.all_or_failed with hall | ⟨c, hlast, hfail⟩
    · rw [← hall] at hmw
      obtain ⟨c, hcall, rfl⟩ := List.mem_map.mp hmw
      exact absurd rfl (hnot c hcall)
    · refine ⟨c.member.name, (hc.find?_of_called hnd (List.mem_of_getLast? hlast)).trans ?_⟩
      unfold Call.phase
      rw [hfail]
      rfl

/-- Once the members have been called, the task has ended as it should: each entry by its call or by
being stale, and the task by its entries. -/
theorem finished (hnd : (members.map (·.name)).Nodup) (hord : members.Pairwise Member.Precedes)
    {h : History} (hcalls : h.calls = done.calls) (hsidecars : h.sidecars = done.sidecars)
    {t : String} : Finished run members st.pods h
      { st' with phase := aggregate st'.pods, finishTime := some t } where
  ended := (aggregate_cases (hc.exists_failed hnd)).imp And.right And.right
  finishTime := ⟨t, rfl⟩
  succeeded := by
    -- An entry left open stands behind a failed call, so the task fails then.
    rcases aggregate_cases (hc.exists_failed hnd) with ⟨hall, he⟩ | ⟨⟨pod, hpod⟩, he⟩
    · exact ⟨fun _ => hall, fun _ => he⟩
    · refine ⟨fun hs => ?_, fun hall => ?_⟩
      · cases he.symm.trans hs
      · cases hall pod _ hpod
  inOrder := hord.filter _
  distinct := (List.filter_sublist.map _).nodup hnd
  called := by
    rw [hcalls]
    exact hc.ordered.prefix_members
  all hstops := by
    have hw := hc.ordered
    rw [hstops] at hw
    rw [hcalls]
    exact hw.all
  stops hstops := by
    have hw := hc.ordered
    rw [hstops] at hw
    rw [hcalls]
    exact ⟨hw.succeeded_dropLast, hw.all_or_failed⟩
  asked e he := by
    rw [hsidecars] at he
    exact (hc.asks e he).by_kind
  entered c hcall := by
    rw [hcalls] at hcall
    exact hc.find?_of_called hnd hcall
  interrupted pod hp := hc.find?_of_stale hp (.inl rfl)
  gone pod hp hgone := hc.find?_of_stale hp (.inr ⟨rfl, hgone⟩)
  kept pod hnot hr hg := by
    rw [hcalls] at hnot
    rw [hc.find?_of_not_called hnot]
    cases hp : st.pods.find? pod with
    | none => rfl
    | some p =>
      rw [Option.map_some, settled_of_not_stale]
      rintro (rfl | ⟨rfl, hgone⟩)
      · exact hr hp
      · exact hg ⟨hp, hgone⟩

end

end Walked

/-! ## The whole advance -/

section Advance

variable {run : Run} {task : CassandraTask} {h : History} {s : MemoryStore} {st : TaskStatus}

/-- The members are read off the store: those of the racks that have a StatefulSet, by its count. -/
theorem on_members (ns : String) (naming : Naming) (racks : List Rack)
    {Q : History → MemoryStore → Option (Except OperatorError (List Member)) → Prop}
    (hQ : ∀ done, History.sidecars done = [] → Q (h ++ done) s
      (some (.ok ((counts ns naming s racks).flatMap fun p => naming.members p.1 p.2)))) :
    (members ns naming racks).On Q h s := by
  induction racks generalizing h Q with
  | nil =>
    have hnil := hQ [] rfl
    rw [List.append_nil] at hnil
    exact hnil
  | cons r rest ih =>
    refine (on_store_ok _ rfl _).mpr ((on_bind _ _).mpr (ih fun done hd => ?_))
    have hr := hQ (⟨.store (.getStatefulSet ns (naming.statefulSetName r)),
      (.ok (s.statefulSets.find? ⟨ns, naming.statefulSetName r⟩) :
        Except OperatorError (Option StatefulSet))⟩ :: done) hd
    rw [List.append_cons] at hr
    unfold counts at hr ⊢
    rw [List.filterMap_cons] at hr
    revert hr
    cases s.statefulSets.find? ⟨ns, naming.statefulSetName r⟩ with
    | none => exact id
    | some sts => exact id

/-- A task that has no entries gets its first ones; any other has its stale entries failed. Neither
asks a sidecar. -/
theorem on_start (members : List Member) (statuses : StatusSnapshot)
    (hs : Stored run.key task s)
    {Q : History → MemoryStore → Option (Except OperatorError TaskStatus) → Prop}
    (hQ : ∀ done s' st', Stored run.key task s' → History.sidecars done = [] →
      st'.pods = begun run.kind members statuses st.pods → Q (h ++ done) s' (some (.ok st'))) :
    (start run members statuses st).On Q h s := by
  unfold start
  unfold begun at hQ
  split
  next hempty =>
    refine (on_timestamp_bind _).mpr fun t => on_persist_bind hs _ _ fun s' hs' => ?_
    refine (on_audit_bind _ _ _).mpr ((on_pure _).mpr ?_)
    rw [if_pos hempty] at hQ
    rw [List.append_assoc, List.append_assoc]
    exact hQ _ s' _ ⟨_, hs'⟩ rfl rfl
  next hempty =>
    rw [if_neg hempty] at hQ
    have hnil := hQ [] s st hs rfl rfl
    rw [List.append_nil] at hnil
    exact hnil

/-- A task whose entries come to an end is stored with that end and its finish time. -/
theorem on_conclude (hs : Stored run.key task s) (he : (aggregate st.pods).isTerminal = true)
    {Q : History → MemoryStore → Option (Except OperatorError Action) → Prop}
    (hQ : ∀ done s' t, History.sidecars done = [] →
      s'.tasks.find? run.key = some { task with
        status := some { st with phase := aggregate st.pods, finishTime := some t } } →
      Q (h ++ done) s' (some (.ok (.after run.config.taskRetention)))) :
    (conclude run st).On Q h s := by
  unfold conclude
  dsimp only
  rw [if_pos he]
  refine (on_timestamp_bind _).mpr fun t => on_persist_bind hs _ _ fun s' hs' => ?_
  refine (on_audit_bind _ _ _).mpr ((on_pure _).mpr ?_)
  rw [List.append_assoc, List.append_assoc]
  exact hQ _ s' _ rfl hs'

theorem pairwise_counts (ns : String) (naming : Naming) (s : MemoryStore) (n : Nat) :
    (counts ns naming s (Rack.all n)).Pairwise fun p q => p.1 < q.1 := by
  refine (Rack.pairwise_all n).filterMap _ fun r r' hlt p hp p' hp' => ?_
  obtain ⟨sts, -, rfl⟩ := Option.map_eq_some_iff.mp hp
  obtain ⟨sts', -, rfl⟩ := Option.map_eq_some_iff.mp hp'
  exact hlt

theorem pairwise_live (ns : String) (dc : DataCenter) (s : MemoryStore) :
    (live ns dc s).Pairwise Member.Precedes :=
  Naming.pairwise_members (pairwise_counts ns dc.naming s _)

theorem nodup_live (ns : String) (dc : DataCenter) (s : MemoryStore) :
    ((live ns dc s).map (·.name)).Nodup := by
  refine Naming.nodup_podNames (c := dc.spec.racks.toInt.toNat) (fun p hp => ?_) ?_
  · obtain ⟨r, hr, hp⟩ := List.mem_filterMap.mp hp
    obtain ⟨sts, -, rfl⟩ := Option.map_eq_some_iff.mp hp
    exact hr
  · refine List.pairwise_map.mpr ((pairwise_counts ns dc.naming s _).imp fun {p q} hlt he => ?_)
    rw [he] at hlt
    exact Rack.not_lt_of_lt hlt hlt

/-- How an advance ends that found these members live and read these entries: the store has the
task with the status it ended with, and nothing is left to do. -/
def Ends (run : Run) (task : CassandraTask) (members : List Member) (pods : Progress)
    (h : History) (s : MemoryStore) (o : Option (Except OperatorError Action)) : Prop :=
  ∃ statuses final, ⟨.snapshot members, statuses⟩ ∈ h ∧
    o = some (.ok (.after run.config.taskRetention)) ∧
    s.tasks.find? run.key = some { task with status := some final } ∧
    Finished run members (begun run.kind members statuses pods) h final

/-- Once the members have been called, the advance comes to its end: nothing but the last status and
its audit entry is left to do. -/
theorem on_called {members : List Member} {statuses : StatusSnapshot} {pods : Progress}
    {done : History} {st₂ : TaskStatus} (hnd : (members.map (·.name)).Nodup)
    (hord : members.Pairwise Member.Precedes) (hquiet : h.sidecars = [])
    (hsnap : ⟨.snapshot members, statuses⟩ ∈ h)
    (hpods : st.pods = begun run.kind members statuses pods) (hs : Stored run.key task s)
    (hc : done.Full → Walked run run.kind.stopsAtFailure (waiting members st.pods)
      (failStale st members) done st₂) :
    (conclude run st₂).On (fun h s' o => h.Full → Ends run task members pods h s' o)
      (h ++ done) s := by
  -- only with every answer there is it known that the phase is settled
  by_cases hfull : (h ++ done).Full
  · have hc := hc fun a ha => hfull a (List.mem_append_right _ ha)
    have hended : (aggregate st₂.pods).isTerminal = true := by
      rcases aggregate_cases (hc.exists_failed hnd) with ⟨-, he⟩ | ⟨-, he⟩
      · rw [he]; rfl
      · rw [he]; rfl
    refine on_conclude hs hended fun last s' t hlast hfinal _ => ?_
    refine ⟨statuses, _, ?_, rfl, hfinal, ?_⟩
    · exact List.mem_append_left _ (List.mem_append_left _ hsnap)
    · rw [← hpods]
      refine hc.finished hnd hord ?_ ?_
      · rw [History.calls_append, History.calls_append, History.calls_of_sidecars hquiet,
          History.calls_of_sidecars hlast, List.nil_append, List.append_nil]
      · rw [History.sidecars_append, History.sidecars_append, hquiet, hlast, List.nil_append,
          List.append_nil]
  · exact Program.on_of_not_full hfull s _

/-- From the DataCenter on an advance finishes its task, unless it is cut short or an answer is
missing. Which entries were given, called and failed is put together here from the stages. -/
theorem on_proceed (run : Run) (dc : DataCenter) (hs : Stored run.key task s)
    (hh : h.sidecars = []) : (proceed run dc st).On (fun h s' o => h.Full →
      Ends run task (live run.key.ns dc s) st.pods h s' o) h s := by
  refine (on_bind _ _).mpr (on_members _ _ _ fun read hread => ?_)
  refine (on_snapshot_bind _ _).mpr fun statuses => (on_bind _ _).mpr ?_
  refine on_start _ statuses hs fun started s₁ st₁ hs₁ hstarted hpods => ?_
  have hnd := nodup_live run.key.ns dc s
  have hwait := nodup_pending hnd (failStale st₁ (live run.key.ns dc s))
  have hquiet : History.sidecars (h ++ read ++
      [⟨.snapshot (live run.key.ns dc s), statuses⟩] ++ started) = [] := by
    rw [History.sidecars_append, hstarted, List.append_nil, History.sidecars_concat rfl,
      History.sidecars_append, hh, hread, List.append_nil]
  have hsnap : ⟨.snapshot (live run.key.ns dc s), statuses⟩ ∈ h ++ read ++
      [⟨.snapshot (live run.key.ns dc s), statuses⟩] ++ started :=
    List.mem_append_left _ (List.mem_append_right _ List.mem_cons_self)
  unfold Next
  dsimp only
  -- Called one at a time or all at once, those that wait are the ones called.
  cases hx : run.kind.execution run.config with
  | sequential pacing failFast =>
    refine (on_bind _ _).mpr (on_walk pacing failFast false _ hx hs₁ hwait ?_)
    intro done s₂ st₂ hs₂ hc
    rw [pending_failStale, failFast_eq hx] at hc
    exact on_called hnd (pairwise_live _ _ _) hquiet hsnap hpods hs₂ fun _ => hc
  | parallel =>
    refine (on_bind _ _).mpr (on_sweep _ hx hs₁ hwait ?_)
    intro done s₂ st₂ hs₂ hc
    rw [pending_failStale, ← stopsAtFailure_of_parallel hx] at hc
    exact on_called hnd (pairwise_live _ _ _) hquiet hsnap hpods hs₂ hc

/-- **A completed advance finishes its task.** Where the store answers every call and the sidecars
do, the task ends as SUCCEED or FAILED by its entries; which of them were called, what was asked for
them and how each has ended is said for every kind, with whatever entries it was resumed. -/
theorem finishes_task {config : Config} {key : NamespacedName} {kind : TaskKind} {dc : DataCenter}
    {s s' : MemoryStore} {o : Option (Except OperatorError Action)}
    (ht : s.tasks.find? key = some task) (hgoes : (task.status.getD {}).phase.isTerminal = false)
    (hkind : TaskKind.ofSpec task.spec = .ok kind) (hvalid : kind.fault? = none)
    (hdc : s.dataCenters.find? ⟨key.ns, task.spec.datacenter⟩ = some dc)
    (hr : Program.Ran (Advance.run config key).run s h o s') (hfull : h.Full) :
    Ends { config, key, kind, datacenter := task.spec.datacenter } task (live key.ns dc s)
      (task.status.getD {}).pods h s' o := by
  let run : Run := { config, key, kind, datacenter := task.spec.datacenter }
  suffices hon : (Advance.run config key).On (fun h s' o => h.Full →
      Ends run task (live key.ns dc s) (task.status.getD {}).pods h s' o) [] s from
    hr.on [] hon hfull
  refine (on_store_ok (.getTask key.ns key.name) (v := some task) (congrArg Except.ok ht) _).mpr ?_
  show On _ _ _ (if (task.status.getD {}).phase.isTerminal = true then _ else _)
  rw [hgoes, if_neg Bool.false_ne_true, hkind]
  refine (on_store_ok (.getDataCenter key.ns task.spec.datacenter) (v := some dc)
    (congrArg Except.ok hdc) _).mpr ?_
  dsimp only
  rw [hvalid]
  exact on_proceed run dc ⟨task.status, ht⟩ rfl

/-- A task that was interrupted when it had two members to clean up, of which one is left. -/
def resumed : CassandraTask :=
  { tidy with
    status := some {
      phase := .running
      pods := SortedMap.ofList [("c-d-rack1-0", .waiting), ("c-d-rack1-1", .running)] } }

/-- The store it is resumed over. -/
def resuming : MemoryStore := { untidy.store with tasks := SortedMap.insert {} tidyKey resumed }

/-- Resumed, it calls the one member that is left and fails all the same, as an entry had failed
before. -/
theorem resumed_fails : ∃ h o s', Program.Ran (Advance.run {} tidyKey).run resuming h o s' ∧
    h.calls.map (·.member.name) = ["c-d-rack1-0"] ∧
      ((s'.tasks.find? tidyKey).bind (·.status)).map (·.phase) = some .failed := by
  obtain ⟨h, hfull, hr⟩ := Program.ran_run_all World.full_perform (Advance.run {} tidyKey).run
    (w := { store := resuming }) rfl
  have ht : resuming.tasks.find? tidyKey = some resumed := rfl
  have hdc : resuming.dataCenters.find? ⟨"n", "d"⟩ = some tidied := rfl
  have hkind : TaskKind.ofSpec resumed.spec = .ok (.cleanup {}) := rfl
  obtain ⟨statuses, final, -, -, hs, hfinished⟩ := finishes_task ht rfl hkind rfl hdc hr hfull
  let members := live "n" tidied resuming
  let pods := (resumed.status.getD {}).pods
  have hf : Finished ⟨{}, tidyKey, .cleanup {}, "d"⟩ members pods h final := hfinished
  have hwaiting : (waiting members pods).map (·.name) = ["c-d-rack1-0"] := by decide +kernel
  have hrunning : pods.find? "c-d-rack1-1" = some .running := by decide +kernel
  have hfailed := hf.interrupted _ hrunning
  -- The member found running counts as failed, so the task cannot have succeeded.
  have hphase : final.phase = .failed :=
    hf.ended.resolve_left fun hsucceed => nomatch hf.succeeded.mp hsucceed _ _ hfailed
  refine ⟨h, _, _, hr, ?_, ?_⟩
  · rw [← hwaiting, ← hf.all rfl, List.map_map]
    rfl
  · rw [hs]
    exact congrArg some hphase

end Advance

end Advance

end RackOperator
