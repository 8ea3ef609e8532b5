import RackOperator.Pass
import RackOperator.Proofs.Decisions

/-!
# Resource versions

A store stamps what it is given with a version that counts its writes, so two stores that
took different writes elsewhere stamp one object differently. `StatefulSet.unversioned` and
`CassandraTask.unversioned` are an object without its version.

Nothing a pass does depends on the versions of the StatefulSets it has read: they leave the
plan, the observation, the decision and the status as they are, and so the whole rest of the
pass (`converge_unversioned`).
-/

namespace RackOperator

/-- What is found twice and looks the same is there both times, or neither time. This is how two
stores that agree up to versions answer a look-up. -/
theorem found_cases {α β : Type} {f : α → β} {x y : Option α} (h : x.map f = y.map f) :
    x = none ∧ y = none ∨ ∃ a b, x = some a ∧ y = some b ∧ f a = f b := by
  cases x with
  | none => exact .inl ⟨rfl, Option.map_eq_none_iff.mp h.symm⟩
  | some a =>
    obtain ⟨b, hb, hf⟩ := Option.map_eq_some_iff.mp h.symm
    exact .inr ⟨a, b, rfl, hb, hf.symm⟩

/-- Metadata without a version. -/
def ObjectMeta.unversioned (m : ObjectMeta) : ObjectMeta := { m with resourceVersion := none }

/-- A StatefulSet without its version. -/
def StatefulSet.unversioned (s : StatefulSet) : StatefulSet :=
  { s with metadata := s.metadata.unversioned }

/-- A task without its version. -/
def CassandraTask.unversioned (t : CassandraTask) : CassandraTask :=
  { t with metadata := t.metadata.unversioned }

namespace StatefulSet

variable {s s' : StatefulSet}

/-- StatefulSets that differ in their versions alone have the same count. -/
theorem replicas_eq (h : s.unversioned = s'.unversioned) : s.replicas = s'.replicas := by
  show s.unversioned.replicas = s'.unversioned.replicas
  rw [h]

theorem status_eq (h : s.unversioned = s'.unversioned) : s.status = s'.status := by
  show s.unversioned.status = s'.unversioned.status
  rw [h]

end StatefulSet

namespace CassandraTask

variable {t t' : CassandraTask}

theorem spec_eq (h : t.unversioned = t'.unversioned) : t.spec = t'.spec := by
  show t.unversioned.spec = t'.unversioned.spec
  rw [h]

theorem status_eq (h : t.unversioned = t'.unversioned) : t.status = t'.status := by
  show t.unversioned.status = t'.unversioned.status
  rw [h]

theorem anyName_eq (h : t.unversioned = t'.unversioned) :
    t.metadata.anyName = t'.metadata.anyName := by
  show t.unversioned.metadata.anyName = t'.unversioned.metadata.anyName
  rw [h]

end CassandraTask

/-- A group whose StatefulSet has no version. -/
def RackGroup.unversioned (g : RackGroup) : RackGroup :=
  { g with existing := g.existing.unversioned }

/-- A view of such a group. -/
def RackView.unversioned (x : RackView) : RackView := { x with group := x.group.unversioned }

/-- An observation of such groups. -/
def Observation.unversioned (o : Observation) : Observation :=
  { o with racks := o.racks.map RackView.unversioned }

namespace Observation

variable (o : Observation)

/-- Groups keep their order when their versions are left out, so the observation made of them is the
same up to versions. -/
theorem ofGroups_unversioned (naming : Naming) (generation : Option Int) (gs : List RackGroup)
    (statuses : StatusSnapshot) :
    ofGroups naming generation (gs.map RackGroup.unversioned) statuses =
      (ofGroups naming generation gs statuses).unversioned := by
  unfold ofGroups unversioned
  rw [← List.map_mergeSort (r := fun a b => decide (¬b.rack < a.rack)) fun _ _ _ _ => rfl,
    List.map_map, List.map_map]
  rfl

/-- The view of a rack is found as before, with its version left out. -/
@[simp] theorem find?_unversioned (r : Rack) :
    o.unversioned.find? r = (o.find? r).map RackView.unversioned :=
  List.find?_map ..

@[simp] theorem group?_unversioned (r : Rack) :
    o.unversioned.group? r = (o.group? r).map RackGroup.unversioned := by
  unfold group?
  rw [find?_unversioned, Option.map_map, Option.map_map]
  rfl

/-- Modes are read off counts and generations, neither of which is a version. -/
@[simp] theorem modeOf?_unversioned (r : Rack) : o.unversioned.modeOf? r = o.modeOf? r := by
  unfold modeOf?
  rw [find?_unversioned, Option.map_map]
  rfl

@[simp] theorem membersOf_unversioned (r : Rack) :
    o.unversioned.membersOf r = o.membersOf r := by
  unfold membersOf
  rw [find?_unversioned, Option.map_map]
  rfl

@[simp] theorem racksIn_unversioned (m : RackMode) : o.unversioned.racksIn m = o.racksIn m := by
  unfold racksIn unversioned
  rw [List.filter_map, List.map_map]
  rfl

@[simp] theorem racksReady_unversioned (ready : Bool) :
    o.unversioned.racksReady ready = o.racksReady ready := by
  rw [racksReady_eq, racksReady_eq]
  unfold unversioned
  rw [List.filter_map, List.map_map]
  rfl

@[simp] theorem isReady_unversioned (r : Rack) : o.unversioned.isReady r = o.isReady r :=
  List.any_map ..

@[simp] theorem members_unversioned : o.unversioned.members = o.members :=
  List.flatMap_map ..

@[simp] theorem statusOf_unversioned (m : Member) : o.unversioned.statusOf m = o.statusOf m := rfl

/-- The members found moving are told from the statuses of the pods, which carry no version. -/
@[simp] theorem movingMembers_unversioned : o.unversioned.movingMembers = o.movingMembers := by
  unfold movingMembers
  rw [members_unversioned]
  rfl

@[simp] theorem groups_unversioned :
    o.unversioned.groups = o.groups.map RackGroup.unversioned := by
  unfold groups unversioned
  rw [List.map_map, List.map_map]
  rfl

end Observation

namespace Decision

variable (o : Observation)

/-- The racks to choose from are listed with the counts they have. -/
theorem candidates_unversioned (racks : List Rack) :
    candidates o.unversioned racks = candidates o racks := by
  refine congrArg (List.filterMap · racks) (funext fun r => ?_)
  rw [Observation.group?_unversioned, Option.map_map]
  rfl

/-- What shrinking a rack comes to depends on the status of its last member. -/
theorem shrink_unversioned (r : Rack) (existing : Int) :
    shrink o.unversioned r existing = shrink o r existing := by
  unfold shrink
  simp only [Observation.membersOf_unversioned, Observation.statusOf_unversioned]

/-- A decision does not depend on versions: all it looks at is modes, counts and the statuses of
members. -/
theorem decide_unversioned (previous : DataCenterPhase) (desiredSize : Int) :
    decide o.unversioned previous desiredSize = decide o previous desiredSize := by
  unfold decide proceed
  simp only [Observation.racksIn_unversioned, Observation.racksReady_unversioned,
    Observation.movingMembers_unversioned, candidates_unversioned, shrink_unversioned]

end Decision

/-- What is observed in a status does not depend on versions either: the sums, the racks and the
pods of the status are read off parts of the observation that have none. -/
theorem DataCenterStatus.observed?_unversioned (s : DataCenterStatus) (o : Observation)
    (generation : Option Int64) :
    s.observed? o.unversioned generation = s.observed? o generation := by
  have hstatus : o.unversioned.groups.map (·.statusReplicas) = o.groups.map (·.statusReplicas) := by
    rw [Observation.groups_unversioned, List.map_map]
    rfl
  have hready : o.unversioned.groups.map (·.readyReplicas) = o.groups.map (·.readyReplicas) := by
    rw [Observation.groups_unversioned, List.map_map]
    rfl
  have hracks : o.unversioned.groups.map (rackEntry o.unversioned) =
      o.groups.map (rackEntry o) := by
    rw [Observation.groups_unversioned, List.map_map]
    refine List.map_congr_left fun g _ => ?_
    unfold rackEntry
    rw [Function.comp_apply, Observation.modeOf?_unversioned, Observation.isReady_unversioned]
    rfl
  have hpods : podEntry o.unversioned = podEntry o := rfl
  unfold observed?
  rw [hstatus, hready, hracks, hpods, Observation.members_unversioned]

namespace Pass

variable (config : Config) (key : ClusterKey) (dc : DataCenter) (o : Observation)

/-- Looking up a group in order to use what does not depend on versions. A replacement is built from
the generated StatefulSet of the group, never from the one read. -/
theorem groupOf_unversioned_bind {β : Type} (r : Rack) (f : RackGroup → Work β)
    (hf : ∀ g, f g.unversioned = f g) :
    (groupOf key o.unversioned r >>= f) = groupOf key o r >>= f := by
  unfold groupOf
  rw [Observation.group?_unversioned]
  cases o.group? r with
  | none => rfl
  | some g => exact hf g

theorem scale_unversioned (r : Rack) (replicas : Int) :
    scale key o.unversioned r replicas = scale key o r replicas :=
  groupOf_unversioned_bind key o r _ fun _ => rfl

/-- So a decision is applied in the same way to StatefulSets read at different versions. -/
theorem apply_unversioned (status : DataCenterStatus) (d : Decision) :
    apply config key dc o.unversioned status d = apply config key dc o status d := by
  cases d with
  | updateRack r => exact groupOf_unversioned_bind key o r _ fun _ => rfl
  | scaleUp r n => exact congrArg (· >>= fun _ => pure status) (scale_unversioned key o r n)
  | scaleDown r n m => exact congrArg (· >>= fun _ => pure status) (scale_unversioned key o r n)
  | _ => rfl

/-- Racks that were found, their StatefulSets without versions. -/
def unversioned (found : List (Rack × StatefulSet)) : List (Rack × StatefulSet) :=
  found.map fun p => (p.1, p.2.unversioned)

theorem counts_unversioned (found : List (Rack × StatefulSet)) :
    ((unversioned found).map fun p => (p.1, p.2.replicas)) =
      found.map fun p => (p.1, p.2.replicas) := by
  unfold unversioned
  rw [List.map_map]
  rfl

theorem groups_unversioned (found : List (Rack × StatefulSet)) (planned : Layout.Counts) :
    groups dc (unversioned found) planned =
      (groups dc found planned).map RackGroup.unversioned := by
  unfold groups unversioned
  rw [List.map_map, List.map_map]
  rfl

theorem members_map_unversioned (naming : Naming) (gs : List RackGroup) :
    members naming (gs.map RackGroup.unversioned) = members naming gs :=
  List.flatMap_map ..

/-- From the StatefulSets on, a pass is the same whatever their versions are, since a replacement is
sent without one. -/
theorem converge_unversioned (found : List (Rack × StatefulSet)) :
    converge config key dc (unversioned found) = converge config key dc found := by
  unfold converge
  rw [counts_unversioned]
  refine bind_congr fun planned => ?_
  dsimp only
  rw [groups_unversioned, members_map_unversioned]
  refine bind_congr fun _ => bind_congr fun statuses => ?_
  rw [Observation.ofGroups_unversioned, Decision.decide_unversioned,
    DataCenterStatus.observed?_unversioned]
  refine bind_congr fun status => ?_
  rw [apply_unversioned]

end Pass

end RackOperator
