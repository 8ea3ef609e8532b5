import RackOperator.Fixture
import RackOperator.Proofs.Maps
import RackOperator.Proofs.Pass.Ends
import RackOperator.Proofs.Pass.Runs

/-!
# Passes that get to their decision

`Stages` says what a pass does at most. Here is the other direction: in a world that holds
what a survey has read (`Survey.Stands`), a pass can do all its reads and arrive at the
decision, and where the decision writes a StatefulSet it can do that, store the status and
end (`writes_of_stands`). With it a concrete run is shown possible by computing decisions
and stores only.
-/

namespace RackOperator

open Relation (ReflTransGen)

/-- The world answers a history, one effect after the other. -/
def Replays : World → History → World → Prop
  | w, [], w' => w = w'
  | w, a :: h, w' => ∃ w₁, Answers w a.effect a.reply w₁ ∧ Replays w₁ h w'

theorem Replays.append {w w' w'' : World} {h h' : History} (hw : Replays w h w')
    (hw' : Replays w' h' w'') : Replays w (h ++ h') w'' := by
  induction h generalizing w with
  | nil =>
    cases hw
    exact hw'
  | cons a h ih =>
    obtain ⟨w₁, ha, hr⟩ := hw
    exact ⟨w₁, ha, ih hr⟩

/-- A member that nothing is cached for adds nothing to a snapshot. -/
theorem StatusCache.snapshot_append_of_none {c : StatusCache} {m : Member}
    (h : c.find? m.key = none) (ms : List Member) : c.snapshot (ms ++ [m]) = c.snapshot ms := by
  unfold StatusCache.snapshot
  rw [List.filterMap_append, List.filterMap_cons, h]
  simp

namespace Pass

open Work

/-- With every StatefulSet found the census is of just these, and nothing is missing. -/
theorem comes_census (key : ClusterKey) (naming : Naming) (found : List (Rack × StatefulSet)) :
    (census key naming (found.map (·.1))).Comes
      (found.map fun p => lookUp key naming (p.1, some p.2)) { existing := found } := by
  induction found with
  | nil => exact comes_pure _
  | cons p rest ih =>
    refine Program.follows_append (h := [_])
      ((comes_store (.getStatefulSet key.ns (naming.statefulSetName p.1)) (some p.2)).bind _) ?_
    exact ih.bind _

/-- A pass can do what a survey has read, and then has its decision to settle. The history is not
taken apart again below: whoever has a survey begins at the decision. -/
theorem follows_run {config : Config} {key : ClusterKey} {v : Survey} (hv : v.Whole)
    {status : DataCenterStatus}
    (hs : (v.dc.status.getD {}).observed? v.observation v.dc.metadata.generation = some status) :
    Program.Follows (run config key).run (v.history key) (v.settle config key status).run := by
  have hopen : Program.Follows (run config key).run (opening key v.dc)
      (census key v.dc.naming v.dc.racks >>= fun c =>
        if c.missing.isEmpty then converge config key v.dc c.existing
        else createMissing key v.dc
          (Layout.initialDistribution v.dc.spec.replicas.toInt v.dc.racks.length) c.missing
            >>= fun _ => pure .short).run :=
    ⟨_, rfl, _, rfl, rfl⟩
  -- The stages in their order: opening, census, plan, registration and snapshot.
  have hcensus := (comes_census key v.dc.naming v.found).bind fun c =>
    if c.missing.isEmpty then converge config key v.dc c.existing
    else createMissing key v.dc
      (Layout.initialDistribution v.dc.spec.replicas.toInt v.dc.racks.length) c.missing
        >>= fun _ => pure .short
  rw [hv.racks] at hcensus
  refine Program.follows_append (Program.follows_append hopen hcensus) ?_
  show Program.Follows (converge config key v.dc v.found).run _ _
  refine Program.follows_append (h := []) ((comes_orCrash hv.plan).bind _) ?_
  refine Program.follows_append (h := [_]) ((comes_register key v.members).bind _) ?_
  exact Program.follows_append (h := [_]) ((comes_snapshot v.members v.statuses).bind _)
    ((comes_orCrash hs).bind _)

/-- A decision that writes a StatefulSet writes it first, then an audit entry and the status. So the
status is the last thing written, and it is written whatever the audit came to. -/
theorem follows_settle (config : Config) (key : ClusterKey) {v : Survey} {sts : StatefulSet}
    (h : v.decision.written? v.observation = some sts) (status : DataCenterStatus)
    (stored : StatefulSet) :
    ∃ entry, Program.Follows (v.settle config key status).run
      [⟨.store (.replaceStatefulSet key.ns sts), (.ok stored : Except _ StatefulSet)⟩,
        ⟨.audit key entry, ()⟩,
        ⟨.store (.replaceDataCenterStatus key.ns key.name
          { status with phase := v.decision.phase v.dc.previousPhase }),
          (.ok () : Except _ Unit)⟩]
      (.done (.ok (next config v.decision))) := by
  unfold Survey.settle
  -- Only three decisions write a StatefulSet, and each finds its group.
  cases hd : v.decision with
  | updateRack r =>
    rw [hd] at h
    obtain ⟨g, hg, rfl⟩ := Option.map_eq_some_iff.mp h
    simp only [apply, groupOf, hg]
    exact ⟨_, _, rfl, _, rfl, _, rfl, rfl⟩
  | scaleUp r n =>
    rw [hd] at h
    obtain ⟨g, hg, rfl⟩ := Option.map_eq_some_iff.mp h
    simp only [apply, scale, groupOf, hg]
    exact ⟨_, _, rfl, _, rfl, _, rfl, rfl⟩
  | scaleDown r n m =>
    rw [hd] at h
    obtain ⟨g, hg, rfl⟩ := Option.map_eq_some_iff.mp h
    simp only [apply, scale, groupOf, hg]
    exact ⟨_, _, rfl, _, rfl, _, rfl, rfl⟩
  | _ => rw [hd] at h; cases h

/-! ## In a world -/

variable {config : Config} {key : ClusterKey}

/-- A pass makes the moves of its program while its world answers them. -/
theorem moves_replays {w w' : World} {h h' : History} {p p' : Program _}
    (hp : p.Follows h' p') (hw : Replays w h' w') :
    Moves config ⟨w, some (key, ⟨h, p⟩)⟩ ⟨w', some (key, ⟨h ++ h', p'⟩)⟩ := by
  induction h' generalizing w h p with
  | nil =>
    cases hp
    cases hw
    rw [List.append_nil]
  | cons a h' ih =>
    obtain ⟨next, rfl, hn⟩ := hp
    obtain ⟨w₁, ha, hr⟩ := hw
    rw [List.append_cons]
    exact ReflTransGen.head (.act (.act ha)) (ih hn hr)

theorem replays_lookUps {w : World} {naming : Naming} (found : List (Rack × StatefulSet))
    (hf : ∀ p ∈ found, w.store.statefulSets.find? ⟨key.ns, naming.statefulSetName p.1⟩ =
      some p.2) : Replays w (found.map fun p => lookUp key naming (p.1, some p.2)) w := by
  induction found with
  | nil => rfl
  | cons p rest ih =>
    have ha := Answers.acknowledged w (.getStatefulSet key.ns (naming.statefulSetName p.1))
    have hp : (w.store.perform (.getStatefulSet key.ns (naming.statefulSetName p.1))).1
        = .ok (some p.2) := congrArg Except.ok (hf p List.mem_cons_self)
    rw [hp] at ha
    exact ⟨w, ha, ih fun q hq => hf q (List.mem_cons_of_mem _ hq)⟩

/-- The world holds what a survey has read. -/
structure Survey.Stands (v : Survey) (key : ClusterKey) (w : World) : Prop where
  dataCenter : w.store.dataCenters.find? ⟨key.ns, key.name⟩ = some v.dc
  found : ∀ p ∈ v.found,
    w.store.statefulSets.find? ⟨key.ns, v.dc.naming.statefulSetName p.1⟩ = some p.2
  statuses : w.cache.snapshot v.members = v.statuses

theorem Survey.Whole.nodup_names {v : Survey} (hv : v.Whole) (key : ClusterKey) :
    (v.found.map fun p =>
      (⟨key.ns, v.dc.naming.statefulSetName p.1⟩ : NamespacedName)).Nodup := by
  refine List.Nodup.map_on (fun p hp q hq he => ?_) hv.nodup_racks.of_map
  have hname := congrArg NamespacedName.name he
  have hrack := Naming.statefulSetName_injOn (hv.mem_racks hp) (hv.mem_racks hq) hname
  exact List.inj_on_of_nodup_map hv.nodup_racks hp hq hrack

theorem Survey.Whole.nodup_members {v : Survey} (hv : v.Whole) :
    (v.members.map (·.name)).Nodup := by
  rw [Survey.members_eq]
  refine Naming.nodup_podNames (c := v.dc.spec.racks.toInt.toNat) (fun p hp => ?_) ?_
  · obtain ⟨q, hq, rfl⟩ := List.mem_map.mp hp
    exact hv.mem_racks hq
  · rw [Survey.counts, List.map_map]
    exact hv.nodup_racks

/-- The snapshot of a cache that holds a status for each of some members has just these statuses. -/
theorem snapshot_ofList {ms : List Member} (hnd : (ms.map (·.name)).Nodup)
    (f : Member → NodeStatus) :
    StatusCache.snapshot (.ofList (ms.map fun m => (m.key, f m))) ms =
      .ofList (ms.map fun m => (m.name, f m)) := by
  have hkeys : ((ms.map fun m => (m.key, f m)).map (·.1)).Nodup := by
    rw [List.map_map]
    refine List.Nodup.map_on (fun a ha b hb he => ?_) hnd.of_map
    exact List.inj_on_of_nodup_map hnd ha hb (congrArg NamespacedName.name he)
  unfold StatusCache.snapshot
  congr 1
  refine Eq.trans (List.filterMap_congr fun m hm => ?_) (congrFun List.filterMap_eq_map ms)
  rw [SortedMap.find?_ofList hkeys (List.mem_map.mpr ⟨m, hm, rfl⟩)]
  rfl

/-- A world with what a survey has read, and nothing else. -/
def Survey.world (v : Survey) (key : ClusterKey) (f : Member → NodeStatus) : World where
  store := {
    dataCenters := SortedMap.insert {} ⟨key.ns, key.name⟩ v.dc
    statefulSets :=
      .ofList (v.found.map fun p => (⟨key.ns, v.dc.naming.statefulSetName p.1⟩, p.2)) }
  cache := .ofList (v.members.map fun m => (m.key, f m))

/-- Every whole survey stands somewhere: in the world made of what it has found. -/
theorem stands_world {v : Survey} (hv : v.Whole) {f : Member → NodeStatus}
    (hf : v.statuses = .ofList (v.members.map fun m => (m.name, f m))) :
    v.Stands key (v.world key f) where
  dataCenter := by
    show (SortedMap.insert {} _ v.dc).find? _ = _
    rw [SortedMap.find?_insert, if_pos rfl]
  found p hp := by
    refine SortedMap.find?_ofList ?_ (List.mem_map.mpr ⟨p, hp, rfl⟩)
    rw [List.map_map]
    exact hv.nodup_names key
  statuses := (snapshot_ofList hv.nodup_members f).trans hf.symm

/-- The store once a pass has seen to the Service. -/
def Survey.opened (v : Survey) (key : ClusterKey) (s : MemoryStore) : MemoryStore :=
  (s.perform (.ensureService key.ns v.dc.service)).2

theorem statefulSets_opened (v : Survey) (s : MemoryStore) :
    (v.opened key s).statefulSets = s.statefulSets :=
  MemoryStore.statefulSets_perform s rfl

theorem answers_getDataCenter {w : World} {dc : DataCenter}
    (h : w.store.dataCenters.find? ⟨key.ns, key.name⟩ = some dc) :
    Answers w (.store (.getDataCenter key.ns key.name))
      (.ok (some dc) : Except _ (Option DataCenter)) w := by
  have ha := Answers.acknowledged w (.getDataCenter key.ns key.name)
  rwa [show (w.store.perform (.getDataCenter key.ns key.name)).1 = .ok (some dc) from
    congrArg Except.ok h] at ha

/-- Where a survey stands its history can be done, and changes nothing but that the Service is
there. Reads leave the world as it is, and the snapshot is one of the cache that the world has. -/
theorem replays_history {w : World} {v : Survey} (hs : v.Stands key w) :
    ∃ w', Replays w (v.history key) w' ∧ w'.store = v.opened key w.store ∧
      w'.cache = w.cache := by
  let w₁ := { w with store := v.opened key w.store }
  let w₂ := (w₁.perform (.register key v.members)).2
  have hservice : Answers w (.store (.ensureService key.ns v.dc.service))
      (.ok () : Except _ Unit) w₁ := by
    have ha := Answers.acknowledged w (.ensureService key.ns v.dc.service)
    rwa [MemoryStore.perform_ensureService_ok] at ha
  have hsnapshot : Answers w₂ (.snapshot v.members) v.statuses w₂ := by
    have ha := Answers.performed w₂ (.snapshot v.members)
    rwa [show (w₂.perform (.snapshot v.members)).1 = v.statuses from hs.statuses] at ha
  have hopening : Replays w (opening key v.dc) w₁ :=
    ⟨w, answers_getDataCenter hs.dataCenter, w₁, hservice, rfl⟩
  have hlookUps : Replays w₁ (v.found.map fun p => lookUp key v.dc.naming (p.1, some p.2)) w₁ :=
    replays_lookUps v.found fun p hp => by rw [statefulSets_opened]; exact hs.found p hp
  refine ⟨w₂, (hopening.append hlookUps).append ?_, rfl, rfl⟩
  exact ⟨w₂, .performed w₁ _, w₂, hsnapshot, rfl⟩

/-- Where a survey stands a pass can begin, read all of it and arrive at its decision. -/
theorem moves_to_decision (config : Config) {w : World} {v : Survey} (hv : v.Whole)
    (hs : v.Stands key w) {status : DataCenterStatus}
    (ho : (v.dc.status.getD {}).observed? v.observation v.dc.metadata.generation = some status) :
    ∃ w', Moves config ⟨w, none⟩
        ⟨w', some (key, ⟨v.history key, (v.settle config key status).run⟩)⟩ ∧
      w'.store = v.opened key w.store ∧ w'.cache = w.cache := by
  obtain ⟨w', hr, hstore, hcache⟩ := replays_history hs
  exact ⟨w', ReflTransGen.head (.begin w key) (moves_replays (h := []) (follows_run hv ho) hr),
    hstore, hcache⟩

/-- A pass that writes a StatefulSet, from the world it begins in to the one it leaves. -/
structure Writes (config : Config) (key : ClusterKey) (v : Survey) (sts : StatefulSet)
    (status : DataCenterStatus) (w : World) (s₁ s₂ : Scene) (w' : World) : Prop where
  arrives : Moves config ⟨w, none⟩ s₁
  writes : Move config s₁ s₂
  ends : Moves config s₂ ⟨w', none⟩
  due : ∃ next, s₁.pass =
    some (key, ⟨v.history key, .perform (.store (.replaceStatefulSet key.ns sts)) next⟩)
  before : s₁.world.store = v.opened key w.store
  after : s₂.world.store = (s₁.world.store.perform (.replaceStatefulSet key.ns sts)).2
  left : w'.store = (s₂.world.store.perform (.replaceDataCenterStatus key.ns key.name
    { status with phase := v.decision.phase v.dc.previousPhase })).2
  reports : s₂.world.store.dataCenters.find? ⟨key.ns, key.name⟩ = some v.dc ∧
    s₂.world.store.refusedStatusWrites = 0
  cache : w'.cache = w.cache

/-- Where a survey stands whose decision writes a StatefulSet, a pass can write it and end. This is
how examples are given that a pass acts in. -/
theorem writes_of_stands (config : Config) {w : World} {v : Survey} (hv : v.Whole)
    (hs : v.Stands key w)
    {status : DataCenterStatus}
    (ho : (v.dc.status.getD {}).observed? v.observation v.dc.metadata.generation = some status)
    {sts : StatefulSet} (hw : v.decision.written? v.observation = some sts)
    (hrefused : w.store.refusedStatusWrites = 0) :
    ∃ s₁ s₂ w', Writes config key v sts status w s₁ s₂ w' := by
  obtain ⟨w₁, hbegin, hstore, hcache⟩ := moves_to_decision config hv hs ho
  obtain ⟨p, hp, hname, -⟩ := Survey.written_cases hv hw
  -- the write meets the StatefulSet the survey has found
  have hfound : w₁.store.statefulSets.find? ⟨key.ns, sts.metadata.anyName⟩ = some p.2 := by
    rw [hstore, statefulSets_opened, hname]
    exact hs.found p hp
  let w₂ := { w₁ with store := (w₁.store.perform (.replaceStatefulSet key.ns sts)).2 }
  have hwrite : Answers w₁ (.store (.replaceStatefulSet key.ns sts))
      (.ok (w₁.store.keeping key.ns sts) : Except _ StatefulSet) w₂ := by
    have ha := Answers.acknowledged w₁ (.replaceStatefulSet key.ns sts)
    rwa [MemoryStore.perform_replaceStatefulSet_ok hfound] at ha
  obtain ⟨entry, next, hsettle, hrest⟩ :=
    follows_settle config key hw status (w₁.store.keeping key.ns sts)
  -- and the status write the DataCenter the survey has read
  have hframe₁ : (v.opened key w.store).dataCenters = w.store.dataCenters ∧
      (v.opened key w.store).refusedStatusWrites = w.store.refusedStatusWrites :=
    MemoryStore.dataCenters_perform _ (by simp)
  have hframe₂ : w₂.store.dataCenters = w₁.store.dataCenters ∧
      w₂.store.refusedStatusWrites = w₁.store.refusedStatusWrites :=
    MemoryStore.dataCenters_perform _ (by simp)
  have hdc : w₂.store.dataCenters.find? ⟨key.ns, key.name⟩ = some v.dc := by
    rw [hframe₂.1, hstore, hframe₁.1]
    exact hs.dataCenter
  have hrefused₂ : w₂.store.refusedStatusWrites = 0 := by
    rw [hframe₂.2, hstore, hframe₁.2]
    exact hrefused
  let status' := { status with phase := v.decision.phase v.dc.previousPhase }
  let w₃ := (w₂.perform (.audit key entry)).2
  let w₄ := { w₃ with
    store := (w₃.store.perform (.replaceDataCenterStatus key.ns key.name status')).2 }
  have hstatus : Answers w₃ (.store (.replaceDataCenterStatus key.ns key.name status'))
      (.ok () : Except _ Unit) w₄ := by
    have ha := Answers.acknowledged w₃ (.replaceDataCenterStatus key.ns key.name status')
    rwa [MemoryStore.perform_replaceDataCenterStatus_ok (s := w₃.store) hdc hrefused₂] at ha
  rw [hsettle] at hbegin
  have hanswered : Replays w₂ [⟨.audit key entry, ()⟩,
      ⟨.store (.replaceDataCenterStatus key.ns key.name status'), (.ok () : Except _ Unit)⟩] w₄ :=
    ⟨w₃, .performed w₂ _, w₄, hstatus, rfl⟩
  exact ⟨_, _, w₄, hbegin, .act (.act hwrite),
    (moves_replays hrest hanswered).tail (.leave _ _), ⟨next, rfl⟩, hstore, rfl, rfl,
    ⟨hdc, hrefused₂⟩, hcache⟩

/-- What is stored of the rack before and after the write. -/
theorem Writes.stored {w w' : World} {v : Survey} {sts : StatefulSet} {status : DataCenterStatus}
    {s₁ s₂ : Scene} (hw : Writes config key v sts status w s₁ s₂ w') (hs : v.Stands key w)
    {p : Rack × StatefulSet} (hp : p ∈ v.found)
    (hname : sts.metadata.anyName = v.dc.naming.statefulSetName p.1) :
    s₁.stored ⟨key.ns, v.dc.naming.statefulSetName p.1⟩ = some p.2 ∧
      s₂.stored ⟨key.ns, v.dc.naming.statefulSetName p.1⟩ =
        some (s₁.world.store.keeping key.ns sts) := by
  have hbefore : s₁.world.store.statefulSets.find? ⟨key.ns, v.dc.naming.statefulSetName p.1⟩ =
      some p.2 := by
    rw [hw.before, statefulSets_opened]
    exact hs.found p hp
  refine ⟨hbefore, ?_⟩
  unfold Scene.stored
  rw [hw.after, MemoryStore.find?_replaceStatefulSet, hname, if_pos rfl, hbefore]
  rfl

/-- What is stored of the DataCenter when the pass has ended: all it had, and the new status. -/
theorem Writes.dataCenter {w w' : World} {v : Survey} {sts : StatefulSet}
    {status : DataCenterStatus} {s₁ s₂ : Scene} (hw : Writes config key v sts status w s₁ s₂ w') :
    w'.store.dataCenters.find? ⟨key.ns, key.name⟩ =
      some { v.dc with
        status := some { status with phase := v.decision.phase v.dc.previousPhase } } := by
  rw [hw.left]
  exact MemoryStore.find?_replaceDataCenterStatus hw.reports.1 hw.reports.2 _

theorem Writes.refused {w w' : World} {v : Survey} {sts : StatefulSet}
    {status : DataCenterStatus} {s₁ s₂ : Scene} (hw : Writes config key v sts status w s₁ s₂ w') :
    w'.store.refusedStatusWrites = 0 := by
  rw [hw.left]
  exact MemoryStore.refusedStatusWrites_perform hw.reports.2 _

/-- What is stored of the StatefulSets then is what the write has left. -/
theorem Writes.statefulSets {w w' : World} {v : Survey} {sts : StatefulSet}
    {status : DataCenterStatus} {s₁ s₂ : Scene} (hw : Writes config key v sts status w s₁ s₂ w') :
    w'.store.statefulSets = s₂.world.store.statefulSets := by
  rw [hw.left]
  exact MemoryStore.statefulSets_perform _ rfl

/-- Another StatefulSet than the one written is as it was when the pass began. -/
theorem Writes.stored_other {w w' : World} {v : Survey} {sts : StatefulSet}
    {status : DataCenterStatus} {s₁ s₂ : Scene} (hw : Writes config key v sts status w s₁ s₂ w')
    {k : NamespacedName} (hk : ⟨key.ns, sts.metadata.anyName⟩ ≠ k) :
    w'.store.statefulSets.find? k = w.store.statefulSets.find? k := by
  rw [hw.statefulSets, hw.after, MemoryStore.find?_replaceStatefulSet, if_neg hk, hw.before,
    statefulSets_opened]

/-! ## Over a store in memory -/

theorem serving_lookUps {s : MemoryStore} {dc : DataCenter} (found : List (Rack × StatefulSet))
    (hf : ∀ p ∈ found, stored? key dc s p.1 = some p.2) :
    Program.Serving s (found.map fun p => lookUp key dc.naming (p.1, some p.2)) s := by
  induction found with
  | nil => rfl
  | cons p rest ih =>
    have hp : (s.perform (.getStatefulSet key.ns (dc.naming.statefulSetName p.1))).1
        = .ok (some p.2) := congrArg Except.ok (hf p List.mem_cons_self)
    exact ⟨s, ⟨hp.symm, rfl⟩, ih fun q hq => hf q (List.mem_cons_of_mem _ hq)⟩

/-- A store that holds what a survey has read answers its history. -/
theorem serving_history {s : MemoryStore} {v : Survey} (hr : v.Reads key s) :
    Program.Serving s (v.history key) (served key v.dc s) := by
  have hopening : Program.Serving s (opening key v.dc) (served key v.dc s) :=
    ⟨s, ⟨(congrArg Except.ok hr.dataCenter).symm, rfl⟩, _,
      ⟨(MemoryStore.perform_ensureService_ok _ _ _).symm, rfl⟩, rfl⟩
  refine (hopening.append (serving_lookUps v.found fun p hp => ?_)).append ⟨_, rfl, _, rfl, rfl⟩
  rw [stored?_of_eq (statefulSets_served v.dc s)]
  exact hr.found p hp

/-- Whatever the statuses are, a pass over a store can read a survey of it and settle. Runs of
examples are made from this, with no need to go through the pass. -/
theorem ran_of_reads (config : Config) {s : MemoryStore} {v : Survey} (hv : v.Whole)
    (hr : v.Reads key s) {status : DataCenterStatus}
    (ho : (v.dc.status.getD {}).observed? v.observation v.dc.metadata.generation = some status) :
    ∃ h, ∃ status : DataCenterStatus, status.phase = v.decision.phase v.dc.previousPhase ∧
      Program.Ran (run config key).run s h
        (some ((reported key (v.acted key (served key v.dc s)) status).1.map
          fun _ => next config v.decision))
        (reported key (v.acted key (served key v.dc s)) status).2 := by
  obtain ⟨h, hran⟩ := Program.ran_run (v.settle config key status).run
    (w := { store := served key v.dc s }) rfl
  obtain ⟨status', hphase, ho', hs'⟩ := hran.on [] (on_settle config hv
    (found_served hr) status (Q := fun _ s' o => ∃ status : DataCenterStatus,
      status.phase = v.decision.phase v.dc.previousPhase ∧
        o = some ((reported key (v.acted key (served key v.dc s)) status).1.map
          fun _ => next config v.decision) ∧
        s' = (reported key (v.acted key (served key v.dc s)) status).2)
    fun _ told _ => ⟨v.status told, rfl, rfl, rfl⟩)
  rw [ho', hs'] at hran
  exact ⟨_, status', hphase, Program.ran_of_follows (follows_run hv ho) (serving_history hr) hran⟩

/-! ## A small DataCenter -/

/-- A DataCenter with names of one letter. -/
def small (generation : Int64) (replicas racks : Int32) : DataCenter where
  metadata := { name := some "d", ns := some "n", generation := some generation }
  spec := { clusterName := "c", datacenterName := "d", replicas, racks }

/-- The StatefulSet of a rack of it, recorded at a generation and rolled out to one pod. -/
def smallSet (generation : Int64) (i : Nat) : StatefulSet :=
  Fixture.readyStatefulSet (small generation 1 1) (.new i) 1

theorem replicas_smallSet (generation : Int64) (i : Nat) : (smallSet generation i).replicas = 1 :=
  rfl

end Pass

end RackOperator
