import Mathlib
import RackOperator.Proofs.Pass.Forward
import RackOperator.Proofs.Pass.Statuses

/-!
# Which write is waited for

A rack is taken to be converged when the counters and revisions of its stored status match
the count its StatefulSet asks for. A write keeps the stored status, so what the status
says right after it depends on the write alone: where the count was changed the status
cannot match any more (`replicas_of_isReady`), and no pass that still has the rack does
anything until a status is stored for it (`resized_rack_awaited`).

A roll keeps the count. The status of before matches as well as it did, and the next pass
may go on at once; and a rack that an edit of the spec takes out of the DataCenter is not
looked at any more. `not_every_write_awaited` has a run of either kind.
-/

namespace RackOperator.Pass

open Relation (ReflTransGen)

/-- One status cannot match two counts: two StatefulSets that both count as ready by the same status
want equally many replicas. -/
theorem replicas_of_isReady {s t : StatefulSet} (hs : s.isReady = true) (ht : t.isReady = true)
    (hst : s.status = t.status) : s.replicas = t.replicas := by
  suffices h : s.replicas32 = t.replicas32 from congrArg Int32.toInt h
  unfold StatefulSet.isReady at hs ht
  rw [← hst] at ht
  cases hstatus : s.status with
  | none =>
    rw [hstatus] at hs ht
    exact (eq_of_beq hs).trans (eq_of_beq ht).symm
  | some status =>
    rw [hstatus] at hs ht
    simp only [Bool.and_eq_true, beq_iff_eq] at hs ht
    exact hs.1.1.1.symm.trans ht.1.1.1

/-- A turn in which the status stored under a name stays as it is. -/
def Unreported (config : Config) (k : NamespacedName) (s s' : Scene) : Prop :=
  Turn config s s' ∧ (s'.stored k).map (·.status) = (s.stored k).map (·.status)

/-- An effect that replaces a StatefulSet or asks a member to leave. -/
inductive Disrupts : Effect → Prop
  | replaces (ns : String) (sts : StatefulSet) : Disrupts (.store (.replaceStatefulSet ns sts))
  | decommissions (m : Member) : Disrupts (.request m .decommission)

/-- A StatefulSet is not ready, and the pass under way has either disrupted already or read it
so. -/
structure Held (k : NamespacedName) (s : Scene) : Prop where
  unready : ∃ sts, s.stored k = some sts ∧ sts.isReady = false
  pass : ∀ key u, s.pass = some (key, u) →
    (∃ a ∈ u.history, ∃ ns sts, a.effect = .store (.replaceStatefulSet ns sts)) ∨
      ∀ sts, Answered.found k (some sts) ∈ u.history → sts.isReady = false

variable {config : Config} {s s' : Scene} {k : NamespacedName}

/-- The history of a survey has replaced nothing: it reads, and creates at most the racks that are
missing. -/
theorem not_replaced_history (v : Survey) (key : ClusterKey) {a : Answered}
    (ha : a ∈ v.history key) (ns : String) (sts : StatefulSet) :
    a.effect ≠ .store (.replaceStatefulSet ns sts) := by
  intro he
  refine spares_history (k := ⟨ns, sts.metadata.anyName⟩) v a ha (_, sts) ?_ rfl
  rw [he]
  rfl

/-- A held StatefulSet keeps the pass that has its rack from disrupting anything. The rack is found
not ready, so the pass decides to wait before it comes to a step. -/
theorem Held.not_seen {key : ClusterKey} {v : Survey} {rest : Program _} {h : History}
    (hh : Held k s) (hpass : s.pass = some (key, ⟨v.history key ++ h, rest⟩))
    (hno : ∀ a ∈ h, ∀ ns sts, a.effect ≠ .store (.replaceStatefulSet ns sts))
    {p : Rack × StatefulSet} (hp : p ∈ v.found)
    (hk : k = ⟨key.ns, v.dc.naming.statefulSetName p.1⟩) : ¬v.Seen := by
  intro hseen
  rcases hh.pass _ _ hpass with ⟨a, ha, ns, sts, he⟩ | hread
  · rcases List.mem_append.mp ha with ha | ha
    · exact not_replaced_history v key ha ns sts he
    · exact hno a ha ns sts he
  · have hfound : Answered.found k (some p.2) ∈ v.history key ++ h := by
      rw [hk]
      exact List.mem_append_left _ (found_mem_history v hp)
    have hunready := hread p.2 hfound
    rw [hseen.ready p hp] at hunready
    cases hunready

/-- Nothing but a stored status releases a held StatefulSet, whatever else is done meanwhile by
passes, by users and by the members themselves. -/
theorem held_unreported (hi : Sound config id s) (hh : Held k s)
    (hs : Unreported config k s s') : Held k s' := by
  obtain ⟨hturn, hstatus⟩ := hs
  obtain ⟨sts, hsts, hunready⟩ := hh.unready
  cases hturn with
  | @edit w w' he =>
    refine ⟨?_, fun key u hu => by cases hu⟩
    have hk := he k
    unfold Scene.stored at hsts hstatus ⊢
    rw [hsts] at hk hstatus
    obtain ⟨new, hnew, hshape⟩ := Option.map_eq_some_iff.mp hk
    rw [hnew] at hstatus
    -- the shape and the status are the whole StatefulSet
    have hsame : new = sts := by
      cases new
      cases sts
      cases Option.some.inj hstatus
      cases hshape
      rfl
    exact ⟨sts, by rw [hnew, hsame], hunready⟩
  | move hm =>
    have hstored : s'.stored k = some sts := by
      obtain ⟨new, hnew⟩ : ∃ new, s'.stored k = some new := by
        rw [hsts] at hstatus
        obtain ⟨new, hnew, -⟩ := Option.map_eq_some_iff.mp hstatus
        exact ⟨new, hnew⟩
      cases touches_of_move hi hm hsts hnew with
      | spares he => rw [hnew, he]
      | @replaces key v p _ written _ next hpass hv hw hk hp _ _ _ _ =>
        rw [← List.append_nil (v.history key)] at hpass
        have hseen := Survey.seen_of_acts (Survey.acts_of_written hw)
        exact absurd hseen (hh.not_seen hpass (fun a ha => absurd ha List.not_mem_nil) hp hk)
    refine ⟨⟨sts, hstored, hunready⟩, fun key u hu => ?_⟩
    cases hm with
    | begin w key =>
      cases hu
      exact .inr fun found hmem => absurd hmem List.not_mem_nil
    | leave w p => cases hu
    | @act w w' key u u' ha =>
      cases hu
      cases ha with
      | @act _ _ h e next r ha =>
      rcases hh.pass _ _ rfl with ⟨a, hmem, hrep⟩ | hread
      · exact .inl ⟨a, List.mem_append_left _ hmem, hrep⟩
      · refine .inr fun found hmem => ?_
        rcases List.mem_append.mp hmem with hmem | hmem
        · exact hread found hmem
        · -- a read just done answers what is stored
          cases List.mem_singleton.mp hmem
          have hfound : some sts = some found := hsts.symm.trans (ha.found_eq rfl)
          rw [← Option.some.inj hfound]
          exact hunready

/-- A pass that changes a count leaves the StatefulSet held: the status it was found ready by cannot
match the new count, and the replacement keeps that status. -/
theorem held_of_resize (hi : Sound config id s) (hm : Move config s s') {old new : StatefulSet}
    (hold : s.stored k = some old) (hnew : s'.stored k = some new)
    (hcount : new.replicas ≠ old.replicas) : Held k s' := by
  cases touches_of_move hi hm hold hnew with
  | spares he => exact absurd (by rw [he]) hcount
  | @replaces key v p _ sts _ next hpass hv hw hk hp hread hc hn hstatus =>
    have hready : old.isReady = true := by
      rw [show old = p.2 from hread]
      exact (Survey.seen_of_acts (Survey.acts_of_written hw)).ready p hp
    have hunready : new.isReady = false := by
      cases hr : new.isReady with
      | false => rfl
      | true => exact absurd (replicas_of_isReady hr hready hstatus) hcount
    refine ⟨⟨new, hnew, hunready⟩, fun key' u hu => .inl ?_⟩
    -- only the write itself can have changed the count
    cases hm with
    | begin w key => cases hpass
    | leave w p => cases hu
    | @act w w' key u u' ha =>
      cases hu
      cases hpass
      cases ha with
      | @act _ _ h e next r ha =>
      exact ⟨_, List.mem_append_right _ List.mem_cons_self, key.ns, sts, rfl⟩

/-- The DataCenter in the history of a survey is the survey's, since a pass reads it once and goes
by what it read. -/
theorem dc_of_mem_history {v : Survey} {key : ClusterKey} {dc : DataCenter}
    (hmem : ⟨.store (.getDataCenter key.ns key.name),
      (.ok (some dc) : Except _ (Option DataCenter))⟩ ∈ v.history key) : dc = v.dc := by
  have hall : ∀ a ∈ v.history key, ⟨.store (.getDataCenter key.ns key.name),
      (.ok (some dc) : Except _ (Option DataCenter))⟩ = a → dc = v.dc := by
    refine Survey.forall_mem_history (Survey.forall_mem_reads ?_ nofun fun p _ => nofun) nofun nofun
    intro he
    cases he
    rfl
  exact hall _ hmem rfl

/-- Having a member leave asks nothing of the store. It connects, and asks the sidecar until it
answers or the attempts are used up. -/
theorem not_store_of_attempts {config : Config} {m : Member} {tries : History}
    (ht : Attempts config m tries) {a : Answered}
    (ha : a ∈ (⟨.connect m, (.ok () : Except _ Unit)⟩ :: tries : History)) (call : StoreCall) :
    a.effect ≠ .store call := by
  rcases List.mem_cons.mp ha with rfl | ha
  · simp
  · rcases ht a ha with ⟨err, rfl⟩ | he
    · simp
    · rw [he]
      simp

/-- **One resize at a time.** Once a pass has changed the count of a StatefulSet, and until a
status is stored for it, a pass that has its rack replaces no StatefulSet and asks no member to
leave. Outside changes fall between passes. -/
theorem resized_rack_awaited {w : World} {s₁ s₂ s₃ : Scene} {old new : StatefulSet}
    (hr : ReflTransGen (Turn config) ⟨w, none⟩ s₁) (hm : Move config s₁ s₂)
    (hold : s₁.stored k = some old) (hnew : s₂.stored k = some new)
    (hcount : new.replicas ≠ old.replicas)
    (hq : ReflTransGen (Unreported config k) s₂ s₃) {key : ClusterKey} {h : History} {e : Effect}
    {next : e.Reply → Program _} (hpass : s₃.pass = some (key, ⟨h, .perform e next⟩))
    {dc : DataCenter}
    (hdc : ⟨.store (.getDataCenter key.ns key.name),
      (.ok (some dc) : Except _ (Option DataCenter))⟩ ∈ h)
    (hk : ∃ r ∈ dc.racks, k = ⟨key.ns, dc.naming.statefulSetName r⟩) : ¬Disrupts e := by
  have hi : Sound config id s₂ := sound_move hm (sound_of_turns hr)
  obtain ⟨hi, hheld⟩ : Sound config id s₃ ∧ Held k s₃ := by
    -- That the StatefulSet is held is carried along the run; the pass it is held from is the last
    -- one.
    clear hpass
    induction hq with
    | refl => exact ⟨hi, held_of_resize (sound_of_turns hr) hm hold hnew hcount⟩
    | tail _ hstep ih => exact ⟨sound_turn hstep.1 ih.1, held_unreported ih.1 ih.2 hstep⟩
  have hdue : Due config key h e := (hi _ _ hpass).1.1
  intro hdisrupts
  obtain ⟨r, hr, hk⟩ := hk
  -- Either effect is due only behind a survey that saw every rack ready, this one among them.
  cases hdisrupts with
  | replaces ns sts =>
    cases hdue with
    | replaceStatefulSet v hv sts hw =>
    obtain rfl := dc_of_mem_history hdc
    rw [← hv.racks] at hr
    obtain ⟨p, hp, rfl⟩ := List.mem_map.mp hr
    rw [← List.append_nil (v.history key)] at hpass
    exact hheld.not_seen hpass (fun a ha => absurd ha List.not_mem_nil) hp hk
      (Survey.seen_of_acts (Survey.acts_of_written hw))
  | decommissions m =>
    cases hdue with
    | request v hv q m hd tries ht =>
    obtain rfl : dc = v.dc := by
      rcases List.mem_append.mp hdc with hdc | hdc
      · exact dc_of_mem_history hdc
      · exact absurd rfl (not_store_of_attempts ht hdc _)
    rw [← hv.racks] at hr
    obtain ⟨p, hp, rfl⟩ := List.mem_map.mp hr
    exact hheld.not_seen hpass (fun a ha ns sts => not_store_of_attempts ht ha _) hp hk
      (Survey.seen_of_acts (by rw [hd]; rfl))

/-- Passes with nothing from outside between them store no status of a StatefulSet, so any number of
them may follow each other while a resize is still unreported. -/
theorem unreported_of_moves (hi : Sound config id s) {sts : StatefulSet}
    (hsts : s.stored k = some sts) (h : Moves config s s') :
    ReflTransGen (Unreported config k) s s' := by
  suffices hs : ReflTransGen (Unreported config k) s s' ∧ Sound config id s' ∧
      ∃ sts, s'.stored k = some sts from hs.1
  induction h with
  | refl => exact ⟨.refl, hi, sts, hsts⟩
  | tail _ hm ih =>
    obtain ⟨hrun, hi, old, hold⟩ := ih
    obtain ⟨new, hnew, hstatus⟩ := status_move hi hm hold
    refine ⟨hrun.tail ⟨.move hm, ?_⟩, sound_move hm hi, new, hnew⟩
    rw [hold, hnew, Option.map_some, Option.map_some, hstatus]

/-- The key of the small DataCenter. -/
def smallKey : ClusterKey := ⟨"n", "d"⟩

/-- Two racks, of which the second is to be given its pod. -/
def growing : Survey where
  dc := small 1 2 2
  found := [(.new 0, smallSet 1 0), (.new 1, Fixture.readyStatefulSet (small 1 1 1) (.new 1) 0)]
  planned := .ofList [(.new 0, 1), (.new 1, 1)]
  statuses := .ofList [("c-d-rack1-0", .normal)]

/-- Both racks of the example exist, are ready, and have had their members heard of. -/
theorem growing_whole : growing.Whole where
  racks := rfl
  plan := congrArg some (SortedMap.insert_insert (.ofList [(Rack.new 0, (1 : Int))]) (.new 1) 0 1)

set_option maxRecDepth 4000 in
/-- The second rack is short of its one replica, so the decision is to give it that. -/
theorem growing_decision : growing.decision = .scaleUp (.new 1) 1 := by
  cbv

/-- What is written for it is its StatefulSet as generated from the spec, with that one replica. -/
theorem growing_written : growing.decision.written? growing.observation =
    some ((small 1 2 2).statefulSet (.new 1) 1) := by
  have hgroup := Survey.group?_eq_group growing_whole (List.mem_cons_of_mem _ List.mem_cons_self)
  rw [growing_decision, Decision.written?, hgroup]
  rfl

theorem growing_observed : ∃ status,
    (growing.dc.status.getD {}).observed? growing.observation growing.dc.metadata.generation =
      some status :=
  Survey.exists_observed growing_whole rfl rfl _ _

set_option maxRecDepth 4000 in
theorem growing_statuses :
    growing.statuses = .ofList (growing.members.map fun m => (m.name, .normal)) := by
  cbv

theorem secondRack_name (naming : Naming) :
    naming.statefulSetName (.new 1) ≠ naming.statefulSetName (.new 0) := by
  intro h
  have := Rack.new_name_inj (Naming.statefulSetName_inj.mp h)
  omega

/-- The second rack as it is stored when it has been given its pod, and nothing has been reported
of it since. -/
def awaitedSet (version : String) : StatefulSet :=
  let sts := (small 1 2 2).statefulSet (.new 1) 1
  { sts with
    metadata := { sts.metadata with ns := some "n", resourceVersion := some version }
    status := (Fixture.readyStatefulSet (small 1 1 1) (.new 1) 0).status }

/-- What the next pass reads. -/
def awaiting (version : String) (status : DataCenterStatus) : Survey where
  dc := { small 1 2 2 with status := some status }
  found := [(.new 0, smallSet 1 0), (.new 1, awaitedSet version)]
  planned := growing.planned
  statuses := growing.statuses

/-- The pass after the one that has grown the rack counts one replica in each rack. -/
theorem awaiting_counts (version : String) (status : DataCenterStatus) :
    (awaiting version status).counts = [(.new 0, 1), (.new 1, 1)] := by
  simp only [Survey.counts, awaiting, List.map_cons, List.map_nil, replicas_smallSet]
  rfl

/-- The rack's new pod is among the members, in the place after those there were before. -/
theorem awaiting_members (version : String) (status : DataCenterStatus) :
    (awaiting version status).members =
      growing.members ++ [growing.dc.naming.member (.new 1) 0] := by
  rw [Survey.members_eq, awaiting_counts]
  rfl

/-- Nothing has been heard of that pod yet: copying the statuses of one member more copies the same
entries. -/
theorem awaiting_statuses (version : String) (status : DataCenterStatus) :
    (growing.world smallKey fun _ => .normal).cache.snapshot (awaiting version status).members =
      (growing.world smallKey fun _ => .normal).cache.snapshot growing.members := by
  rw [awaiting_members]
  refine StatusCache.snapshot_append_of_none ?_ _
  decide +kernel

theorem awaiting_whole (version : String) (status : DataCenterStatus) :
    (awaiting version status).Whole where
  racks := rfl
  plan := by
    rw [awaiting_counts]
    rfl

set_option maxRecDepth 4000 in
/-- The rack just grown still reports the count it had, so the next pass waits for it. -/
theorem awaiting_decision (version : String) (status : DataCenterStatus) :
    (awaiting version status).decision = .waitForRacks [.new 1] := by
  cbv

theorem awaiting_observed (version : String) (status : DataCenterStatus) : ∃ status',
    ((awaiting version status).dc.status.getD {}).observed? (awaiting version status).observation
      (awaiting version status).dc.metadata.generation = some status' :=
  Survey.exists_observed (awaiting_whole version status) rfl rfl _ _

/-- Replacing the StatefulSet keeps its stored status, which speaks of one replica less than it has
now. -/
theorem awaiting_kept {s : MemoryStore}
    (h : s.statefulSets.find? ⟨"n", (small 1 2 2).naming.statefulSetName (.new 1)⟩ =
      some (Fixture.readyStatefulSet (small 1 1 1) (.new 1) 0)) :
    s.keeping "n" ((small 1 2 2).statefulSet (.new 1) 1) = awaitedSet s.nextVersion :=
  MemoryStore.keeping_eq h

/-- The pass that grows the second rack leaves what the next one reads: the DataCenter with its new
status, and the rack with its new count and its old status. -/
theorem awaiting_stands {config : Config} {status : DataCenterStatus} {w' : World}
    {s₁ s₂ : Scene} (hs : growing.Stands smallKey (growing.world smallKey fun _ => .normal))
    (hw : Writes config smallKey growing ((small 1 2 2).statefulSet (.new 1) 1) status
      (growing.world smallKey fun _ => .normal) s₁ s₂ w') :
    (awaiting s₁.world.store.nextVersion
      { status with phase := growing.decision.phase growing.dc.previousPhase }).Stands
        smallKey w' := by
  obtain ⟨hold, hnew⟩ := hw.stored hs (List.mem_cons_of_mem _ List.mem_cons_self) rfl
  refine ⟨hw.dataCenter, fun p hp => ?_, ?_⟩
  · rcases List.mem_cons.mp hp with rfl | hp
    · refine (hw.stored_other fun he => ?_).trans (hs.found _ List.mem_cons_self)
      exact secondRack_name (small 1 2 2).naming (congrArg NamespacedName.name he)
    · cases List.mem_singleton.mp hp
      rw [hw.statefulSets]
      exact hnew.trans (congrArg some (awaiting_kept hold))
  · rw [hw.cache]
    exact (awaiting_statuses _ _).trans hs.statuses

/-- The pass that follows reads the rack just grown, and decides to wait for it. So the condition
under which a resize is awaited is met by a run of two passes. -/
theorem grown_rack_awaited : ∃ config w s₁ s₂ s₃ k old new key h e next dc,
    ReflTransGen (Turn config) ⟨w, none⟩ s₁ ∧ Move config s₁ s₂ ∧ s₁.stored k = some old ∧
      s₂.stored k = some new ∧ new.replicas ≠ old.replicas ∧
      ReflTransGen (Unreported config k) s₂ s₃ ∧ s₃.pass = some (key, ⟨h, .perform e next⟩) ∧
      ⟨.store (.getDataCenter key.ns key.name),
        (.ok (some dc) : Except _ (Option DataCenter))⟩ ∈ h ∧
      (∃ r ∈ dc.racks, k = ⟨key.ns, dc.naming.statefulSetName r⟩) ∧
      (∃ v : Survey, h = v.history key ∧ v.decision = .waitForRacks [.new 1]) ∧ ¬Disrupts e := by
  have hs : growing.Stands smallKey (growing.world smallKey fun _ => .normal) :=
    stands_world growing_whole growing_statuses
  obtain ⟨status, ho⟩ := growing_observed
  obtain ⟨s₁, s₂, w', hw⟩ := writes_of_stands {} growing_whole hs ho growing_written rfl
  obtain ⟨hold, hnew⟩ := hw.stored hs (List.mem_cons_of_mem _ List.mem_cons_self) rfl
  have hr := turns_of_moves hw.arrives
  have hcount : (s₁.world.store.keeping "n" ((small 1 2 2).statefulSet (.new 1) 1)).replicas ≠
      (Fixture.readyStatefulSet (small 1 1 1) (.new 1) 0).replicas := by
    rw [MemoryStore.replicas_keeping]
    decide
  let v := awaiting s₁.world.store.nextVersion
    { status with phase := growing.decision.phase growing.dc.previousPhase }
  have hd : v.decision = .waitForRacks [.new 1] := awaiting_decision _ _
  obtain ⟨status', ho'⟩ := awaiting_observed s₁.world.store.nextVersion
    { status with phase := growing.decision.phase growing.dc.previousPhase }
  obtain ⟨w₃, hnext, -⟩ :=
    moves_to_decision {} (awaiting_whole _ _) (awaiting_stands hs hw) ho'
  -- what it decides on leaves only the status to be written
  have hsettle : ∃ status next, (v.settle {} smallKey status').run =
      .perform (.store (.replaceDataCenterStatus "n" "d" status)) next := by
    unfold Survey.settle
    rw [hd]
    exact ⟨_, _, rfl⟩
  obtain ⟨written, next, hsettle⟩ := hsettle
  rw [hsettle] at hnext
  have hq := unreported_of_moves (sound_of_turns (hr.tail (.move hw.writes))) hnew
    (hw.ends.trans hnext)
  have hrack : ∃ r ∈ v.dc.racks, (⟨"n", (small 1 2 2).naming.statefulSetName (.new 1)⟩ :
      NamespacedName) = ⟨"n", v.dc.naming.statefulSetName r⟩ :=
    ⟨.new 1, List.mem_cons_of_mem _ List.mem_cons_self, rfl⟩
  exact ⟨_, _, s₁, s₂, _, _, _, _, smallKey, _, _, _, v.dc, hr, hw.writes, hold, hnew, hcount, hq,
    rfl, List.mem_cons_self, hrack, ⟨v, rfl, hd⟩,
    resized_rack_awaited hr hw.writes hold hnew hcount hq rfl List.mem_cons_self hrack⟩

/-! ## What is not waited for -/

/-- The pass under way is about to replace a StatefulSet. -/
def Replacing (s : Scene) (key : ClusterKey) (sts : StatefulSet) : Prop :=
  ∃ h next, s.pass = some (key, ⟨h, .perform (.store (.replaceStatefulSet key.ns sts)) next⟩)

/-- A run in which a pass replaces a StatefulSet, changing it as `P` says, and a later pass
replaces another although no status was stored for the first. -/
def Overtaken (config : Config) (P : StatefulSet → StatefulSet → Prop) : Prop :=
  ∃ w s₁ s₂ w' s₃ key sts sts' k old new,
    Moves config ⟨w, none⟩ s₁ ∧ Replacing s₁ key sts ∧ k = ⟨key.ns, sts.metadata.anyName⟩ ∧
      s₁.stored k = some old ∧ Move config s₁ s₂ ∧ s₂.stored k = some new ∧ P old new ∧
      ReflTransGen (Unreported config k) s₂ ⟨w', none⟩ ∧
      ReflTransGen (Unreported config k) ⟨w', none⟩ s₃ ∧ Replacing s₃ key sts' ∧
      sts'.metadata.anyName ≠ sts.metadata.anyName

/-- Two passes that write, with no status stored between them, are such a run: the first is the
change that is not waited for, and the second is the write that overtakes it. -/
theorem overtaken_of_writes {P : StatefulSet → StatefulSet → Prop} {key : ClusterKey}
    {w w' : World} {v : Survey} {sts : StatefulSet} {status : DataCenterStatus} {s₁ s₂ : Scene}
    (hs : v.Stands key w) (hw : Writes config key v sts status w s₁ s₂ w')
    {p : Rack × StatefulSet} (hp : p ∈ v.found)
    (hname : sts.metadata.anyName = v.dc.naming.statefulSetName p.1)
    (hP : P p.2 (s₁.world.store.keeping key.ns sts)) {w₁ : World}
    (he : Unreported config ⟨key.ns, sts.metadata.anyName⟩ ⟨w', none⟩ ⟨w₁, none⟩)
    {v' : Survey} {sts' : StatefulSet} {status' : DataCenterStatus} {s₃ s₄ : Scene} {w₂ : World}
    (hw' : Writes config key v' sts' status' w₁ s₃ s₄ w₂)
    (hne : sts'.metadata.anyName ≠ sts.metadata.anyName) : Overtaken config P := by
  obtain ⟨hold, hnew⟩ := hw.stored hs hp hname
  rw [← hname] at hold hnew
  have hends : ReflTransGen (Unreported config ⟨key.ns, sts.metadata.anyName⟩) s₂ ⟨w', none⟩ :=
    unreported_of_moves (sound_of_turns (turns_of_moves (hw.arrives.tail hw.writes))) hnew hw.ends
  -- what is stored when the first pass has ended is still stored when the next begins
  have hleft : (⟨w', none⟩ : Scene).stored ⟨key.ns, sts.metadata.anyName⟩ =
      some (s₁.world.store.keeping key.ns sts) := by
    unfold Scene.stored at hnew ⊢
    rw [← hnew, ← hw.statefulSets]
  have hstatus := he.2
  rw [hleft] at hstatus
  obtain ⟨new, hkept, -⟩ := Option.map_eq_some_iff.mp hstatus
  obtain ⟨next, hdue⟩ := hw.due
  obtain ⟨next', hdue'⟩ := hw'.due
  exact ⟨w, s₁, s₂, w', s₃, key, sts, sts', _, _, _, hw.arrives, ⟨_, next, hdue⟩, rfl, hold,
    hw.writes, hnew, hP, hends,
    ReflTransGen.head he (unreported_of_moves (sound_none w₁) hkept hw'.arrives),
    ⟨_, next', hdue'⟩, hne⟩

/-- Two racks of one pod, behind the DataCenter's generation. -/
def rolling : Survey where
  dc := small 2 2 2
  found := [(.new 0, smallSet 1 0), (.new 1, smallSet 1 1)]
  planned := .ofList [(.new 0, 1), (.new 1, 1)]
  statuses := .ofList [("c-d-rack1-0", .normal), ("c-d-rack2-0", .normal)]

/-- The first of them as it is stored when it has been rolled. -/
def rolledSet (version : String) : StatefulSet :=
  let sts := (small 2 2 2).statefulSet (.new 0) 1
  { sts with
    metadata := { sts.metadata with ns := some "n", resourceVersion := some version }
    status := (smallSet 1 0).status }

/-- What the next pass reads. -/
def rollingOn (version : String) (status : DataCenterStatus) : Survey where
  dc := { small 2 2 2 with status := some status }
  found := [(.new 0, rolledSet version), (.new 1, smallSet 1 1)]
  planned := rolling.planned
  statuses := rolling.statuses

/-- Both racks of the rolled example have the one replica they want, so only their generation is
behind. -/
theorem rolling_counts : rolling.counts = [(.new 0, 1), (.new 1, 1)] := by
  simp only [Survey.counts, rolling, List.map_cons, List.map_nil, replicas_smallSet]

theorem rollingOn_counts (version : String) (status : DataCenterStatus) :
    (rollingOn version status).counts = [(.new 0, 1), (.new 1, 1)] := by
  simp only [Survey.counts, rollingOn, List.map_cons, List.map_nil, replicas_smallSet]
  rfl

theorem rolling_whole : rolling.Whole where
  racks := rfl
  plan := by
    rw [rolling_counts]
    rfl

theorem rollingOn_whole (version : String) (status : DataCenterStatus) :
    (rollingOn version status).Whole where
  racks := rfl
  plan := by
    rw [rollingOn_counts]
    rfl

set_option maxRecDepth 4000 in
/-- The first pass rolls the first rack to the new generation and keeps its count. -/
theorem rolling_written : rolling.decision.written? rolling.observation =
    some ((small 2 2 2).statefulSet (.new 0) 1) := by
  cbv

set_option maxRecDepth 4000 in
/-- The second pass rolls the second rack, although no status has been stored for the first. -/
theorem rollingOn_written (version : String) (status : DataCenterStatus) :
    (rollingOn version status).decision.written? (rollingOn version status).observation =
      some ((small 2 2 2).statefulSet (.new 1) 1) := by
  cbv

theorem rolling_observed : ∃ status,
    (rolling.dc.status.getD {}).observed? rolling.observation rolling.dc.metadata.generation =
      some status :=
  Survey.exists_observed rolling_whole rfl rfl _ _

theorem rollingOn_observed (version : String) (status : DataCenterStatus) : ∃ status',
    ((rollingOn version status).dc.status.getD {}).observed? (rollingOn version status).observation
      (rollingOn version status).dc.metadata.generation = some status' :=
  Survey.exists_observed (rollingOn_whole version status) rfl rfl _ _

set_option maxRecDepth 4000 in
/-- The rack that is rolled records the generation before and the one after. -/
theorem rolling_generations (version : String) :
    (smallSet 1 0).recordedGeneration = some 1 ∧
      (rolledSet version).recordedGeneration = some 2 := by
  cbv
  exact ⟨rfl, rfl⟩

set_option maxRecDepth 4000 in
theorem rolling_names : rolling.members.map (fun m => (m.name, NodeStatus.normal)) =
    [("c-d-rack1-0", .normal), ("c-d-rack2-0", .normal)] := by
  cbv

theorem rolling_statuses :
    rolling.statuses = .ofList (rolling.members.map fun m => (m.name, .normal)) := by
  rw [rolling_names]
  rfl

theorem rollingOn_members (version : String) (status : DataCenterStatus) :
    (rollingOn version status).members = rolling.members := by
  rw [Survey.members_eq, Survey.members_eq, rolling_counts, rollingOn_counts]
  rfl

/-- The count of a rolled rack is kept and so is its status, which therefore goes on matching. -/
theorem rolling_kept {s : MemoryStore}
    (h : s.statefulSets.find? ⟨"n", (small 2 2 2).naming.statefulSetName (.new 0)⟩ =
      some (smallSet 1 0)) :
    s.keeping "n" ((small 2 2 2).statefulSet (.new 0) 1) = rolledSet s.nextVersion :=
  MemoryStore.keeping_eq h

/-- The pass that rolls the first rack leaves what the next one reads, with the first rack at the
new generation and still ready by its old status. -/
theorem rollingOn_stands {config : Config} {status : DataCenterStatus} {w w' : World}
    {s₁ s₂ : Scene} (hs : rolling.Stands smallKey w)
    (hw : Writes config smallKey rolling ((small 2 2 2).statefulSet (.new 0) 1) status w s₁ s₂ w') :
    (rollingOn s₁.world.store.nextVersion
      { status with phase := rolling.decision.phase rolling.dc.previousPhase }).Stands
        smallKey w' := by
  obtain ⟨hold, hnew⟩ := hw.stored hs List.mem_cons_self rfl
  refine ⟨hw.dataCenter, fun p hp => ?_, ?_⟩
  · rcases List.mem_cons.mp hp with rfl | hp
    · rw [hw.statefulSets]
      exact hnew.trans (congrArg some (rolling_kept hold))
    · cases List.mem_singleton.mp hp
      rw [hw.stored_other fun he => secondRack_name _ (congrArg NamespacedName.name he).symm]
      exact hs.found _ (List.mem_cons_of_mem _ List.mem_cons_self)
  · rw [hw.cache, rollingOn_members]
    exact hs.statuses

/-- A second rack is rolled while nothing has been heard of the first. A roll keeps the count, so
the status stored before it still matches. -/
theorem roll_overtaken : Overtaken {} fun old new => new.replicas = old.replicas ∧
    old.recordedGeneration = some 1 ∧ new.recordedGeneration = some 2 := by
  have hs : rolling.Stands smallKey (rolling.world smallKey fun _ => .normal) :=
    stands_world rolling_whole rolling_statuses
  obtain ⟨status, ho⟩ := rolling_observed
  obtain ⟨s₁, s₂, w', hw⟩ := writes_of_stands {} rolling_whole hs ho rolling_written rfl
  obtain ⟨hold, hnew⟩ := hw.stored hs List.mem_cons_self rfl
  obtain ⟨status', ho'⟩ := rollingOn_observed s₁.world.store.nextVersion
    { status with phase := rolling.decision.phase rolling.dc.previousPhase }
  obtain ⟨s₃, s₄, w₂, hw'⟩ := writes_of_stands {} (rollingOn_whole _ _) (rollingOn_stands hs hw)
    ho' (rollingOn_written _ _) hw.refused
  refine overtaken_of_writes hs hw List.mem_cons_self rfl ?_ ⟨.edit fun _ => rfl, rfl⟩ hw'
    (secondRack_name (small 2 2 2).naming)
  rw [show s₁.world.store.keeping smallKey.ns _ = _ from rolling_kept hold]
  exact ⟨rfl, rolling_generations _⟩

/-- What a pass reads once an edit of the spec has left the first of them only. -/
def leftOver (status : DataCenterStatus) : Survey where
  dc := { small 2 1 1 with status := some status }
  found := [(.new 0, smallSet 1 0)]
  planned := .ofList [(.new 0, 1)]
  statuses := growing.statuses

theorem leftOver_whole (status : DataCenterStatus) : (leftOver status).Whole where
  racks := rfl
  plan := rfl

set_option maxRecDepth 4000 in
/-- With the other rack taken out of the spec, what is decided is over the racks that remain. -/
theorem leftOver_written (status : DataCenterStatus) :
    (leftOver status).decision.written? (leftOver status).observation =
      some ((small 2 1 1).statefulSet (.new 0) 1) := by
  cbv

theorem leftOver_observed (status : DataCenterStatus) : ∃ status',
    ((leftOver status).dc.status.getD {}).observed? (leftOver status).observation
      (leftOver status).dc.metadata.generation = some status' :=
  Survey.exists_observed (leftOver_whole status) rfl rfl _ _

set_option maxRecDepth 4000 in
theorem leftOver_members (status : DataCenterStatus) :
    (leftOver status).members = growing.members := by
  cbv

/-- The world once the spec of a DataCenter has been edited. -/
def respecified (w : World) (key : ClusterKey) (dc : DataCenter) : World :=
  { w with store := { w.store with dataCenters := w.store.dataCenters.insert key dc } }

/-- A rack is taken out of the spec right after its pass, and the other is rolled. A pass looks only
at racks of the spec, so nothing waits for the one taken out. -/
theorem edit_overtaken : Overtaken {} fun old new => new.replicas ≠ old.replicas := by
  have hs : growing.Stands smallKey (growing.world smallKey fun _ => .normal) :=
    stands_world growing_whole growing_statuses
  obtain ⟨status, ho⟩ := growing_observed
  obtain ⟨s₁, s₂, w', hw⟩ := writes_of_stands {} growing_whole hs ho growing_written rfl
  let dc := (leftOver status).dc
  obtain ⟨status', ho'⟩ := leftOver_observed status
  -- The rack that remains is as it was, and the one taken out is looked for no more.
  have hs' : (leftOver status).Stands smallKey (respecified w' smallKey dc) := by
    refine ⟨?_, fun p hp => ?_, ?_⟩
    · show (w'.store.dataCenters.insert smallKey dc).find? smallKey = _
      rw [SortedMap.find?_insert, if_pos rfl]
    · cases List.mem_singleton.mp hp
      refine (hw.stored_other fun he => ?_).trans (hs.found _ List.mem_cons_self)
      exact secondRack_name (small 1 2 2).naming (congrArg NamespacedName.name he)
    · show w'.cache.snapshot _ = _
      rw [hw.cache, leftOver_members]
      exact hs.statuses
  obtain ⟨s₃, s₄, w₂, hw'⟩ := writes_of_stands {} (leftOver_whole status) hs' ho'
    (leftOver_written status) hw.refused
  have hedit : Unreported {} ⟨"n", (small 1 2 2).naming.statefulSetName (.new 1)⟩ ⟨w', none⟩
      ⟨respecified w' smallKey dc, none⟩ := ⟨.edit fun _ => rfl, rfl⟩
  refine overtaken_of_writes hs hw (List.mem_cons_of_mem _ List.mem_cons_self) rfl ?_ hedit hw'
    (secondRack_name (small 1 2 2).naming).symm
  rw [MemoryStore.replicas_keeping]
  decide

/-- **Not every write is waited for.** A pass goes on from one rack to the next with no status
stored between them: from a rack it has rolled, and from one that has left the spec. -/
theorem not_every_write_awaited :
    (Overtaken {} fun old new => new.replicas = old.replicas ∧
      old.recordedGeneration = some 1 ∧ new.recordedGeneration = some 2) ∧
    Overtaken {} fun old new => new.replicas ≠ old.replicas :=
  ⟨roll_overtaken, edit_overtaken⟩

end RackOperator.Pass
