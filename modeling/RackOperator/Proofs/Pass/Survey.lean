import RackOperator.Pass
import RackOperator.Proofs.Decisions
import RackOperator.Proofs.Generations
import RackOperator.Proofs.Names
import Mathlib.Algebra.Ring.Int.Defs

/-!
# What a pass has seen when it decides

A `Survey` is all a pass has read by the time it decides: the DataCenter, the StatefulSet
of each of its racks, the counts planned from them and the statuses copied from the cache.
The observation and the decision are functions of it, so whatever a decision rests on can
be said of the survey and needs no account of how the pass got there.

`seen_of_acts` and `written_cases` are the two facts the rest of the development uses. A
pass that acts saw every rack ready and every member NORMAL or DECOMMISSIONED; and the
StatefulSet it writes is one it read, at the count it read, or one more, or one less once
the last member has left the ring.
-/

namespace RackOperator

/-- The racks a DataCenter asks for. -/
def DataCenter.racks (dc : DataCenter) : List Rack := Rack.all dc.spec.racks.toInt.toNat

/-- The StatefulSet a decision puts in place of the one observed. -/
def Decision.written? (o : Observation) : Decision → Option StatefulSet
  | .updateRack r => (o.group? r).map (·.desired)
  | .scaleUp r replicas => (o.group? r).map fun g => g.desired.setReplicas (Int32.ofInt replicas)
  | .scaleDown r replicas _ =>
    (o.group? r).map fun g => g.desired.setReplicas (Int32.ofInt replicas)
  | _ => none

/-- What a decision writes has the metadata of the StatefulSet wanted of its rack, and so its name
and the generation it records. -/
theorem Decision.written?_metadata {o : Observation} {d : Decision} {sts : StatefulSet}
    (h : d.written? o = some sts) :
    ∃ r g, o.group? r = some g ∧ sts.metadata = g.desired.metadata := by
  cases d with
  | updateRack r =>
    obtain ⟨g, hg, rfl⟩ := Option.map_eq_some_iff.mp h
    exact ⟨r, g, hg, rfl⟩
  | scaleUp r n =>
    obtain ⟨g, hg, rfl⟩ := Option.map_eq_some_iff.mp h
    exact ⟨r, g, hg, rfl⟩
  | scaleDown r n m =>
    obtain ⟨g, hg, rfl⟩ := Option.map_eq_some_iff.mp h
    exact ⟨r, g, hg, rfl⟩
  | _ => cases h

namespace Pass

/-- What a pass that goes on to decide has read and planned. -/
structure Survey where
  dc : DataCenter
  found : List (Rack × StatefulSet)
  planned : Layout.Counts
  statuses : StatusSnapshot

namespace Survey

/-- The groups of the racks found. -/
def groups (v : Survey) : List RackGroup := Pass.groups v.dc v.found v.planned

/-- The members of the racks found. -/
def members (v : Survey) : List Member := Pass.members v.dc.naming v.groups

/-- The racks found with their counts. -/
def counts (v : Survey) : List (Rack × Int) := v.found.map fun p => (p.1, p.2.replicas)

/-- The DataCenter's generation as a number. -/
def generation (v : Survey) : Option Int := v.dc.metadata.generation.map Int64.toInt

/-- The observation a pass decides on. -/
def observation (v : Survey) : Observation :=
  .ofGroups v.dc.naming v.generation v.groups v.statuses

/-- The decision of the pass. -/
def decision (v : Survey) : Decision :=
  .decide v.observation v.dc.previousPhase v.dc.spec.replicas.toInt

/-- Every rack was found, and the plan is the one for the counts found. -/
structure Whole (v : Survey) : Prop where
  racks : v.found.map (·.1) = v.dc.racks
  plan : Layout.planned? (SortedMap.ofList v.counts) v.dc.spec.replicas.toInt = some v.planned

/-- Every rack was ready and every member settled. -/
structure Seen (v : Survey) : Prop where
  ready : ∀ p ∈ v.found, p.2.isReady = true
  settled : ∀ p ∈ v.found, ∀ o : Nat, o < p.2.replicas.toNat →
    v.statuses.statusOf (v.dc.naming.podName p.1 o) = .normal ∨
      v.statuses.statusOf (v.dc.naming.podName p.1 o) = .decommissioned

/-- A count that a pass may give a rack it found: the one found, one more, or one less when the
last member has left the ring. -/
def Allows (v : Survey) (p : Rack × StatefulSet) (n : Int) : Prop :=
  n = p.2.replicas ∨ n = p.2.replicas + 1 ∨
    n = p.2.replicas - 1 ∧ 0 < p.2.replicas ∧
      v.statuses.statusOf (v.dc.naming.podName p.1 (p.2.replicas - 1)) = .decommissioned

variable {v : Survey}

/-- The group of a rack found. -/
def group (v : Survey) (p : Rack × StatefulSet) : RackGroup :=
  { rack := p.1, existing := p.2
    desired := v.dc.statefulSet p.1 (Int32.ofInt ((v.planned.find? p.1).getD 0)) }

/-- The view of a rack found. -/
def view (v : Survey) (p : Rack × StatefulSet) : RackView :=
  Observation.view v.dc.naming v.generation (v.group p)

theorem mem_racks {x : RackView} : x ∈ v.observation.racks ↔ ∃ p ∈ v.found, v.view p = x := by
  unfold observation Observation.ofGroups groups Pass.groups
  simp only [List.mem_map, List.mem_mergeSort]
  constructor
  · rintro ⟨g, ⟨p, hp, rfl⟩, rfl⟩
    exact ⟨p, hp, rfl⟩
  · rintro ⟨p, hp, rfl⟩
    exact ⟨_, ⟨p, hp, rfl⟩, rfl⟩

/-- The members follow from the counts, so a survey need not look for pods. -/
theorem members_eq (v : Survey) :
    v.members = v.counts.flatMap fun p => v.dc.naming.members p.1 p.2 := by
  rw [counts, List.flatMap_map]
  exact List.flatMap_map ..

theorem Whole.nodup_racks (hv : v.Whole) : (v.found.map (·.1)).Nodup := by
  rw [hv.racks]
  exact Rack.nodup_all _

theorem Whole.mem_racks (hv : v.Whole) {p : Rack × StatefulSet} (hp : p ∈ v.found) :
    p.1 ∈ v.dc.racks := by
  rw [← hv.racks]
  exact List.mem_map_of_mem hp

/-- A rack found is the only one of its name in the observation. -/
theorem find?_eq_view (hv : v.Whole) {p : Rack × StatefulSet} (hp : p ∈ v.found) :
    v.observation.find? p.1 = some (v.view p) := by
  obtain ⟨x, hx⟩ : ∃ x, v.observation.find? p.1 = some x := by
    refine Option.isSome_iff_exists.mp (List.find?_isSome.mpr ?_)
    exact ⟨v.view p, mem_racks.mpr ⟨p, hp, rfl⟩, decide_eq_true rfl⟩
  obtain ⟨hmem, hrack⟩ := Observation.find?_eq_some hx
  obtain ⟨q, hq, rfl⟩ := mem_racks.mp hmem
  rw [hx, List.inj_on_of_nodup_map hv.nodup_racks hq hp hrack]

/-- Its group is made of the StatefulSet found and the one wanted. -/
theorem group?_eq_group (hv : v.Whole) {p : Rack × StatefulSet} (hp : p ∈ v.found) :
    v.observation.group? p.1 = some (v.group p) := by
  rw [Observation.group?, find?_eq_view hv hp]
  rfl

theorem exists_group {r : Rack} {g : RackGroup} (h : v.observation.group? r = some g) :
    ∃ p ∈ v.found, g = v.group p := by
  obtain ⟨x, hx, rfl⟩ := Option.map_eq_some_iff.mp h
  obtain ⟨p, hp, rfl⟩ := mem_racks.mp (Observation.find?_eq_some hx).1
  exact ⟨p, hp, rfl⟩

theorem mem_racksIn {m : RackMode} {r : Rack} (h : r ∈ v.observation.racksIn m) :
    ∃ p ∈ v.found, p.1 = r ∧ (v.view p).mode = m := by
  obtain ⟨x, hx, rfl⟩ := List.mem_map.mp h
  obtain ⟨hx, hm⟩ := List.mem_filter.mp hx
  obtain ⟨p, hp, rfl⟩ := mem_racks.mp hx
  exact ⟨p, hp, rfl, by simpa using hm⟩

/-- Calm is what a survey sees: all racks ready and all members settled. -/
theorem seen_of_calm (h : v.observation.Calm) : v.Seen := by
  refine ⟨fun p hp => h.ready _ (mem_racks.mpr ⟨p, hp, rfl⟩), fun p hp o ho => ?_⟩
  have hm : v.dc.naming.member p.1 o ∈ v.observation.members :=
    List.mem_flatMap.mpr ⟨v.view p, mem_racks.mpr ⟨p, hp, rfl⟩,
      Naming.mem_members.mpr ⟨o, ho, rfl⟩⟩
  have hs := h.still _ hm
  change (v.statuses.statusOf (v.dc.naming.podName p.1 o)).isMoving = false at hs
  cases he : v.statuses.statusOf (v.dc.naming.podName p.1 o) with
  | normal => exact .inl rfl
  | decommissioned => exact .inr rfl
  | _ => rw [he] at hs; cases hs

/-- A pass that acts saw everything ready and settled, as it would have waited otherwise. -/
theorem seen_of_acts (h : v.decision.acts = true) : v.Seen :=
  seen_of_calm (Decision.chosen_of_acts h).1

/-- What is done about a rack was chosen by what the survey shows of it. -/
theorem chosen_of_acts (h : v.decision.acts = true) : Decision.Chosen v.observation v.decision :=
  (Decision.chosen_of_acts h).2

/-- So was the member that is asked to leave: it is the last one of a rack that shrinks, and
NORMAL. -/
theorem chosen_of_decommission {r : Rack} {m : Member} (h : v.decision = .decommission r m) :
    Decision.Chosen v.observation (.decommission r m) :=
  h ▸ chosen_of_acts (h ▸ rfl)

/-! ## The count written -/

theorem replicas_setReplicas (dc : DataCenter) (r : Rack) (i : Int32) {n : Int}
    (hl : -2 ^ 31 ≤ n) (hu : n < 2 ^ 31) :
    ((dc.statefulSet r i).setReplicas (Int32.ofInt n)).replicas = n :=
  Int32.toInt_ofInt_of_le hl hu

theorem acts_of_written {sts : StatefulSet} (h : v.decision.written? v.observation = some sts) :
    v.decision.acts = true := by
  cases hd : v.decision with
  | updateRack r => rfl
  | scaleUp r n => rfl
  | scaleDown r n m => rfl
  | _ => rw [hd] at h; cases h

/-- A rack that is to grow has room for one more, since the plan has a 32-bit number for it. -/
theorem replicas_grown {p : Rack × StatefulSet} (hmode : (v.view p).mode = .scaleUp)
    (r : Rack) (i : Int32) :
    ((v.dc.statefulSet r i).setReplicas (Int32.ofInt (p.2.replicas + 1))).replicas =
      p.2.replicas + 1 := by
  -- the count wanted fits, and is above the one there is
  have hlt : p.2.replicas < (v.group p).desired.replicas := RackMode.classify_scaleUp hmode
  have hu := (v.group p).desired.replicas_lt
  have hl := p.2.replicas_ge
  exact replicas_setReplicas v.dc r i (by omega) (by omega)

theorem replicas_shrunk {sts : StatefulSet} (hpos : 0 < sts.replicas) (dc : DataCenter)
    (r : Rack) (i : Int32) :
    ((dc.statefulSet r i).setReplicas (Int32.ofInt (sts.replicas - 1))).replicas =
      sts.replicas - 1 := by
  have hu := sts.replicas_lt
  exact replicas_setReplicas dc r i (by omega) (by omega)

/-- What a pass writes stands under the name of a rack it found: at its count if the rack was
behind, one more if it was to be grown, and one less if it was to be shrunk and its last member has
left. -/
theorem written_mode (hv : v.Whole) {sts : StatefulSet}
    (h : v.decision.written? v.observation = some sts) :
    ∃ p ∈ v.found, sts.metadata.anyName = v.dc.naming.statefulSetName p.1 ∧
      (v.decision = .updateRack p.1 ∧ (v.view p).mode = .behind ∧ sts.replicas = p.2.replicas ∨
        v.decision = .scaleUp p.1 (p.2.replicas + 1) ∧ (v.view p).mode = .scaleUp ∧
          sts.replicas = p.2.replicas + 1 ∨
        (∃ m, v.decision = .scaleDown p.1 (p.2.replicas - 1) m) ∧ (v.view p).mode = .scaleDown ∧
          sts.replicas = p.2.replicas - 1 ∧ 0 < p.2.replicas ∧
          v.statuses.statusOf (v.dc.naming.podName p.1 (p.2.replicas - 1)) = .decommissioned) := by
  have hc := chosen_of_acts (acts_of_written h)
  generalize v.decision = d at hc h
  cases hc with
  | updateRack hr =>
    obtain ⟨p, hp, rfl, hmode⟩ := mem_racksIn hr
    obtain ⟨g, hg, rfl⟩ := Option.map_eq_some_iff.mp h
    cases (group?_eq_group hv hp).symm.trans hg
    exact ⟨p, hp, rfl, .inl ⟨rfl, hmode, RackMode.classify_behind hmode⟩⟩
  | scaleUp hr hg =>
    obtain ⟨p, hp, rfl, hmode⟩ := mem_racksIn hr
    cases (group?_eq_group hv hp).symm.trans hg
    obtain ⟨g, hg', rfl⟩ := Option.map_eq_some_iff.mp h
    cases hg.symm.trans hg'
    exact ⟨p, hp, rfl, .inr (.inl ⟨rfl, hmode, replicas_grown hmode p.1 _⟩)⟩
  | decommission hr hg hm ho hs => cases h
  | scaleDown hr hg hm ho hs =>
    obtain ⟨p, hp, rfl, hmode⟩ := mem_racksIn hr
    cases (group?_eq_group hv hp).symm.trans hg
    obtain ⟨g, hg', rfl⟩ := Option.map_eq_some_iff.mp h
    cases hg.symm.trans hg'
    rw [Observation.membersOf, find?_eq_view hv hp] at hm
    obtain ⟨o, hlt, rfl⟩ := Naming.mem_members.mp hm
    change o < p.2.replicas.toNat at hlt
    change (o : Int) = max (p.2.replicas - 1) 0 at ho
    -- a member with that ordinal exists, so the rack is not empty
    have hpos : 0 < p.2.replicas := by omega
    have hlast : (o : Int) = p.2.replicas - 1 := by omega
    have hmax : max ((v.group p).existingReplicas - 1) 0 = p.2.replicas - 1 := by
      show max (p.2.replicas - 1) 0 = _
      omega
    rw [hmax]
    refine ⟨p, hp, rfl, .inr (.inr ⟨⟨_, rfl⟩, hmode, replicas_shrunk hpos v.dc p.1 _, hpos, ?_⟩)⟩
    rw [← hlast]
    exact hs

/-- What a pass writes records the generation of the DataCenter it has read, be it a roll or a
resize. -/
theorem written_recorded {sts : StatefulSet}
    (h : v.decision.written? v.observation = some sts) :
    sts.recordedGeneration = v.generation := by
  obtain ⟨r, g, hg, hmeta⟩ := Decision.written?_metadata h
  obtain ⟨p, -, rfl⟩ := exists_group hg
  unfold StatefulSet.recordedGeneration
  rw [hmeta]
  exact v.dc.recordedGeneration_statefulSet _ _

/-- What a pass writes stands under the name of a rack it found, at a count allowed for it. -/
theorem written_cases (hv : v.Whole) {sts : StatefulSet}
    (h : v.decision.written? v.observation = some sts) :
    ∃ p ∈ v.found, sts.metadata.anyName = v.dc.naming.statefulSetName p.1 ∧
      v.Allows p sts.replicas := by
  obtain ⟨p, hp, hname, ⟨-, -, hn⟩ | ⟨-, -, hn⟩ | ⟨-, -, hn, hpos, hgone⟩⟩ := written_mode hv h
  · exact ⟨p, hp, hname, .inl hn⟩
  · exact ⟨p, hp, hname, .inr (.inl hn)⟩
  · exact ⟨p, hp, hname, .inr (.inr ⟨hn, hpos, hgone⟩)⟩

end Survey

end Pass

end RackOperator
