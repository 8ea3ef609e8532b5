import RackOperator.Proofs.Pass.Stages
import RackOperator.Proofs.Task.Stages

/-!
# Whose racks and members a program is about

A pass looks up the DataCenter of its key, and an advance the one its task names; what they
have to do with StatefulSets and members comes after. `Effect.Within ns dc` says that an
effect looks up no StatefulSet but those of a DataCenter's racks and is about none but their
members. Whatever the effects are answered, an effect that is about any rack or member is
within a DataCenter that was found before: the one under the pass's key (`aims_of_due`),
or the one named by the task as the advance has read it (`targets_run`). The key that an advance
is put in line under does not come into it. An advance leaves what the members run on alone, the
Services and the StatefulSets, so its effects are `Effect.Visits` besides.
-/

namespace RackOperator

open Work

/-- The members an effect is about. -/
def Effect.members : Effect → List Member
  | .connect m => [m]
  | .request m _ => [m]
  | .requestAll ms _ => ms
  | .snapshot ms => ms
  | .register _ ms => ms
  | _ => []

/-- The StatefulSet an effect looks up. -/
def Effect.lookedUp? : Effect → Option NamespacedName
  | .store (.getStatefulSet ns name) => some ⟨ns, name⟩
  | _ => none

/-- What goes under a DataCenter's name within a namespace. -/
inductive Asset
  | service (name : String)
  | statefulSet (name : String)
  | pod (name : String)
deriving DecidableEq, Repr

/-- The Service or StatefulSet an effect writes. -/
def Effect.built? : Effect → Option Asset
  | .store (.ensureService _ service) => some (.service service.metadata.anyName)
  | .store (.createStatefulSet _ sts) => some (.statefulSet sts.metadata.anyName)
  | .store (.replaceStatefulSet _ sts) => some (.statefulSet sts.metadata.anyName)
  | _ => none

/-- A rack of a DataCenter has a member. -/
def DataCenter.Has (dc : DataCenter) (m : Member) : Prop :=
  ∃ r ∈ dc.racks, ∃ o : Nat, m = dc.naming.member r o

/-- An effect is about the racks and members of a DataCenter, and no others. -/
structure Effect.Within (ns : String) (dc : DataCenter) (e : Effect) : Prop where
  members : ∀ m ∈ e.members, dc.Has m
  lookedUp : ∀ k ∈ e.lookedUp?, ∃ r ∈ dc.racks, k = ⟨ns, dc.naming.statefulSetName r⟩

/-- An effect is about the racks and members of a DataCenter, and writes none of what they run
on. -/
structure Effect.Visits (ns : String) (dc : DataCenter) (e : Effect) : Prop where
  within : e.Within ns dc
  built : e.built? = none

/-- An effect that is about no rack and no member. -/
structure Effect.Apart (e : Effect) : Prop where
  members : e.members = []
  lookedUp : e.lookedUp? = none

/-- A DataCenter was found under a key. -/
def History.Found (h : History) (k : ClusterKey) (dc : DataCenter) : Prop :=
  ⟨.store (.getDataCenter k.ns k.name), (.ok (some dc) : Except _ (Option DataCenter))⟩ ∈ h

/-- An effect is about the DataCenter found under a key, if it is about any rack or member. -/
def Aims (k : ClusterKey) (h : History) (e : Effect) : Prop :=
  e.Apart ∨ ∃ dc, h.Found k dc ∧ e.Within k.ns dc

/-- What concerns no object of a namespace is within any namespace, and about any DataCenter. -/
theorem Effect.Apart.within {e : Effect} (he : e.Apart) (ns : String) (dc : DataCenter) :
    e.Within ns dc where
  members m hm := by
    rw [he.members] at hm
    exact absurd hm List.not_mem_nil
  lookedUp k hk := by
    rw [he.lookedUp] at hk
    cases hk

/-- The members counted up for racks of a DataCenter are its own. -/
theorem DataCenter.has_of_mem {dc : DataCenter} {counts : List (Rack × Int)}
    (hracks : ∀ p ∈ counts, p.1 ∈ dc.racks) {m : Member}
    (hm : m ∈ counts.flatMap fun p => dc.naming.members p.1 p.2) : dc.Has m := by
  obtain ⟨p, hp, hm⟩ := List.mem_flatMap.mp hm
  obtain ⟨o, -, rfl⟩ := Naming.mem_members.mp hm
  exact ⟨p.1, hracks p hp, o, rfl⟩

/-! ## A pass -/

namespace Pass

variable {config : Config} {key : ClusterKey} {v : Survey}

/-- A survey finds only members of its DataCenter, as it looks only for the StatefulSets of its
racks. -/
theorem Survey.has_of_mem (hv : v.Whole) {m : Member} (hm : m ∈ v.members) : v.dc.Has m := by
  rw [v.members_eq] at hm
  refine DataCenter.has_of_mem (fun p hp => ?_) hm
  obtain ⟨q, hq, rfl⟩ := List.mem_map.mp hp
  exact hv.mem_racks hq

/-- Who is to be decommissioned is a member, as the decision picks from those observed. -/
theorem Survey.has_of_decommission (hv : v.Whole) {r : Rack} {m : Member}
    (h : v.decision = .decommission r m) : v.dc.Has m := by
  cases chosen_of_decommission h with
  | decommission hr hg hm ho hs =>
    obtain ⟨p, hp, rfl, -⟩ := mem_racksIn hr
    rw [Observation.membersOf, find?_eq_view hv hp] at hm
    obtain ⟨o, -, rfl⟩ := Naming.mem_members.mp hm
    exact ⟨p.1, hv.mem_racks hp, o, rfl⟩

/-- Once a pass has read the DataCenter, that is the one it has found. -/
theorem found_opening (dc : DataCenter) (h : History) : (opening key dc ++ h).Found key dc :=
  List.mem_cons_self

theorem found_history (v : Survey) (h : History) : (v.history key ++ h).Found key v.dc :=
  List.mem_cons_self

/-- A pass is about the DataCenter of its key, with whatever it does: what is due names its racks,
its members, its Service and its own key. -/
theorem aims_of_due {h : History} {e : Effect} (hd : Due config key h e) : Aims key h e := by
  -- What is due is either about the key itself, or comes behind the DataCenter being read; then its
  -- members are told from the survey or from the decision.
  cases hd with
  | readDataCenter => exact .inl ⟨rfl, rfl⟩
  | ensureService => exact .inl ⟨rfl, rfl⟩
  | readStatefulSet dc looked r rest hl =>
    refine .inr ⟨dc, found_opening dc _, nofun, fun k hk => ?_⟩
    cases hk
    exact ⟨r, hl ▸ List.mem_append_right _ List.mem_cons_self, rfl⟩
  | createStatefulSet => exact .inl ⟨rfl, rfl⟩
  | register v hv =>
    exact .inr ⟨v.dc, found_opening v.dc _, fun m hm => Survey.has_of_mem hv hm, nofun⟩
  | snapshot v hv =>
    exact .inr ⟨v.dc, found_opening v.dc _, fun m hm => Survey.has_of_mem hv hm, nofun⟩
  | replaceStatefulSet => exact .inl ⟨rfl, rfl⟩
  | connect v hv r m hm =>
    refine .inr ⟨v.dc, found_opening v.dc _, fun m' hm' => ?_, nofun⟩
    rw [List.mem_singleton.mp hm']
    exact Survey.has_of_decommission hv hm
  | request v hv r m hm tries ht =>
    refine .inr ⟨v.dc, found_history v _, fun m' hm' => ?_, nofun⟩
    rw [List.mem_singleton.mp hm']
    exact Survey.has_of_decommission hv hm
  | sleep => exact .inl ⟨rfl, rfl⟩
  | createTask => exact .inl ⟨rfl, rfl⟩
  | audit => exact .inl ⟨rfl, rfl⟩
  | replaceStatus => exact .inl ⟨rfl, rfl⟩

end Pass

/-! ## An advance -/

namespace Advance

variable {ns : String} {dc : DataCenter} {run : Run} {h : History}

/-- An effect that names no member, looks nothing up and builds nothing visits nobody. -/
theorem visits_apart {e : Effect} (he : e.members = []) (hl : e.lookedUp? = none)
    (hb : e.built? = none) : e.Visits ns dc :=
  ⟨Effect.Apart.within ⟨he, hl⟩ ns dc, hb⟩

/-- An effect that names one member of the DataCenter visits that one. -/
theorem visits_one {m : Member} (hm : dc.Has m) {e : Effect} (he : e.members = [m])
    (hl : e.lookedUp? = none) (hb : e.built? = none) : e.Visits ns dc where
  within.members m' hm' := by
    rw [he] at hm'
    rw [List.mem_singleton.mp hm']
    exact hm
  within.lookedUp k hk := by
    rw [hl] at hk
    cases hk
  built := hb

theorem visits_step {m : Member} (hm : dc.Has m) :
    (step run m).Holds (fun _ e => e.Visits ns dc) (fun _ _ => True) h :=
  holds_step_of (visits_one hm rfl rfl rfl) (fun _ => trivial)
    (fun _ _ => visits_one hm rfl rfl rfl) fun _ _ _ => trivial

theorem visits_walk (pacing : Nat) (failFast : Bool) (s : TaskStatus) (ms : List Member)
    (hms : ∀ m ∈ ms, dc.Has m) (hnd : (ms.map (·.name)).Nodup)
    (hw : ∀ m ∈ ms, s.pods.find? m.name = some .waiting) :
    (walk run pacing failFast false s ms).Holds (fun _ e => e.Visits ns dc)
      (fun _ _ => True) h := by
  refine holds_walk_of (I := fun _ _ => True) ?_ ?_ (fun _ _ _ => trivial) hnd hw trivial false
  · exact fun _ _ _ => ⟨visits_apart rfl rfl rfl, fun _ => trivial⟩
  · refine fun h s _ m hm _ => ⟨visits_apart rfl rfl rfl, ?_⟩
    exact Program.Holds.mono (fun _ _ h => h)
      (fun _ _ _ => ⟨visits_apart rfl rfl rfl, fun _ => trivial, fun _ _ => trivial⟩)
      (visits_step (hms m hm))

theorem visits_sweep (s : TaskStatus) (ms : List Member) (hms : ∀ m ∈ ms, dc.Has m) :
    (sweep run s ms).Holds (fun _ e => e.Visits ns dc) (fun _ _ => True) h :=
  holds_sweep_of trivial (visits_apart rfl rfl rfl) (fun _ => ⟨⟨hms, nofun⟩, rfl⟩)
    fun _ _ => ⟨visits_apart rfl rfl rfl, trivial⟩

theorem visits_start (ms : List Member) (statuses : StatusSnapshot) (s : TaskStatus) :
    (start run ms statuses s).Holds (fun _ e => e.Visits ns dc) (fun _ _ => True) h :=
  holds_start_of (fun _ => trivial) (visits_apart rfl rfl rfl) fun _ _ =>
    ⟨visits_apart rfl rfl rfl, fun _ => ⟨visits_apart rfl rfl rfl, fun _ => trivial⟩⟩

theorem visits_finish (s : TaskStatus) :
    (finish run s).Holds (fun _ e => e.Visits ns dc) (fun _ _ => True) h :=
  holds_finish_of (visits_apart rfl rfl rfl) fun _ => visits_apart rfl rfl rfl

theorem visits_conclude (s : TaskStatus) :
    (conclude run s).Holds (fun _ e => e.Visits ns dc) (fun _ _ => True) h :=
  holds_conclude_of (visits_apart rfl rfl rfl) (fun _ _ => visits_finish _)
    fun _ => visits_apart rfl rfl rfl

/-- From the DataCenter on an advance is about nothing else, and writes no Service or StatefulSet.
The members it visits are those of the racks it looks up. -/
theorem visits_proceed (run : Run) (s : TaskStatus) :
    (proceed run dc s).Holds (fun _ e => e.Visits run.key.ns dc) (fun _ _ => True) h := by
  have hwait : ∀ {ms : List Member}, (∀ m ∈ ms, dc.Has m) → ∀ s : TaskStatus,
      ∀ m ∈ pending s ms, dc.Has m := fun hms s m hm => hms m (List.mem_filter.mp hm).1
  refine holds_proceed_of (I := fun ms _ _ => ∀ m ∈ ms, dc.Has m) (Q := fun _ _ => True)
    (fun _ r hr => ⟨⟨nofun, fun k hk => ?_⟩, rfl⟩) ?_ ?_ ?_ fun _ s _ => visits_conclude s
  · cases hk
    exact ⟨r, hr, rfl⟩
  · refine fun h' ms _ hms => ⟨⟨⟨hms, nofun⟩, rfl⟩, fun statuses => ?_⟩
    exact Work.Holds.mono (fun _ _ h => h) (fun _ _ _ => hms) (visits_start ms statuses s)
  · exact fun ms h s pacing failFast hms _ hnd hw =>
      visits_walk pacing failFast s _ (hwait hms s) hnd hw
  · exact fun ms h s hms _ _ _ => visits_sweep s _ (hwait hms s)

/-- An advance is about the DataCenter that its task names, as it has read the task. -/
def Targets (key : NamespacedName) (h : History) (e : Effect) : Prop :=
  e.Apart ∨ ∃ t, reading key (some t) ∈ h ∧ Aims ⟨key.ns, t.spec.datacenter⟩ h e

/-- An advance aims at its task and, once it has found the DataCenter of the task, at members of
that. -/
theorem targets_run (config : Config) (key : NamespacedName) :
    (Advance.run config key).Holds (fun h e => Targets key h e ∧ e.built? = none)
      (fun _ _ => True) [] := by
  refine holds_run_of ⟨.inl ⟨rfl, rfl⟩, rfl⟩ fun t kind _ _ => ?_
  refine holds_engage_of ⟨.inl ⟨rfl, rfl⟩, rfl⟩ (fun _ => ⟨.inl ⟨rfl, rfl⟩, rfl⟩) ?_ fun dc => ?_
  · exact fun dc reason => ⟨⟨.inl ⟨rfl, rfl⟩, rfl⟩, fun now =>
      holds_finish_of ⟨.inl ⟨rfl, rfl⟩, rfl⟩ fun _ => ⟨.inl ⟨rfl, rfl⟩, rfl⟩⟩
  · -- both are read by now, and what is done from here on stays within the DataCenter
    refine Work.Holds.mono ?_ (fun _ _ _ => trivial) (Work.Holds.behind (visits_proceed _ _))
    rintro h' e ⟨hbehind, hvisits⟩
    have hread : reading key (some t) ∈ h' := hbehind.subset List.mem_cons_self
    have hfound : h'.Found ⟨key.ns, t.spec.datacenter⟩ dc :=
      hbehind.subset (List.mem_cons_of_mem _ List.mem_cons_self)
    exact ⟨.inr ⟨t, hread, .inr ⟨dc, hfound, hvisits.within⟩⟩, hvisits.built⟩

end Advance

end RackOperator
