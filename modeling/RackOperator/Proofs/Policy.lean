import RackOperator.Fixture
import RackOperator.Proofs.Decisions
import RackOperator.Proofs.Names
import Mathlib.Data.List.Sort

/-!
# The order in which the rules of a pass apply

`Decision.decide` is a cascade over sorted views of the racks. `Policy` says what each of its
outcomes means of the groups themselves: one rule per outcome, each with the reasons why no rule
before it applied, and with no word on how racks are sorted, grouped or looked up. The rules are
the ones an operator of the cluster would be told, in the order of the cascade:

* racks that scale both ways, or several that scale one way, are refused;
* racks that are not ready are waited for, then members on the move;
* the first rack left behind is rolled;
* the one rack to be grown gains a member, the one to be shrunk loses its last one.

What the rules list they list completely and in order (`Outlook.Lists`, `Outlook.ListsMembers`),
so a list is known from its members (`Lists.eq`). With that, each accessor of the observation is
the list it stands for (`lists_filter`, `listsMembers_moving`), and a decision is taken exactly if
its rule says so (`decide_iff_policy`).
-/

namespace RackOperator

namespace RackGroup

/-- The rack has fewer replicas than are wanted. -/
def Grows (g : RackGroup) : Prop := g.existingReplicas < g.desiredReplicas

/-- The rack has more replicas than are wanted. -/
def Shrinks (g : RackGroup) : Prop := g.desiredReplicas < g.existingReplicas

/-- The rack has what is wanted, built from a generation before the present one. -/
def Behind (generation : Option Int) (g : RackGroup) : Prop :=
  g.desiredReplicas = g.existingReplicas ∧
    ∃ r ∈ g.existing.recordedGeneration, ∃ c ∈ generation, r < c

/-- A rack to be grown has room for one more replica, so the new count is written without wrapping.
-/
theorem Grows.fits {g : RackGroup} (h : g.Grows) : Layout.fits (g.existingReplicas + 1) = true := by
  have hlt : g.existing.replicas < g.desired.replicas := h
  have hu := g.desired.replicas_lt
  have hl := g.existing.replicas_ge
  show Layout.fits (g.existing.replicas + 1) = true
  simp only [Layout.fits, Bool.and_eq_true, decide_eq_true_eq]
  omega

/-- A rack to be shrunk has room for one replica less, be it below zero. -/
theorem Shrinks.fits {g : RackGroup} (h : g.Shrinks) :
    Layout.fits (g.existingReplicas - 1) = true := by
  have hlt : g.desired.replicas < g.existing.replicas := h
  have hu := g.existing.replicas_lt
  have hl := g.desired.replicas_ge
  show Layout.fits (g.existing.replicas - 1) = true
  simp only [Layout.fits, Bool.and_eq_true, decide_eq_true_eq]
  omega

end RackGroup

open RackGroup

/-- What a decision is made from. -/
structure Outlook where
  naming : Naming
  generation : Option Int
  groups : List RackGroup
  statuses : StatusSnapshot

namespace Outlook

/-- The observation of it. -/
def observation (s : Outlook) : Observation :=
  .ofGroups s.naming s.generation s.groups s.statuses

/-- The racks of the groups with a property, all of them and in rack order. -/
structure Lists (s : Outlook) (P : RackGroup → Prop) (racks : List Rack) : Prop where
  ordered : racks.Pairwise (· < ·)
  mem : ∀ r, r ∈ racks ↔ ∃ g ∈ s.groups, P g ∧ g.rack = r

/-- A member is there: its ordinal is below its rack's count. -/
def Has (s : Outlook) (m : Member) : Prop :=
  ∃ g ∈ s.groups, ∃ o : Nat, o < g.existingReplicas.toNat ∧ m = s.naming.member g.rack o

/-- A member's status is neither NORMAL nor DECOMMISSIONED. -/
def Moving (s : Outlook) (m : Member) : Prop :=
  s.statuses.statusOf m.name ≠ .normal ∧ s.statuses.statusOf m.name ≠ .decommissioned

/-- The members on the move, all of them, by rack and then ordinal. -/
structure ListsMembers (s : Outlook) (members : List Member) : Prop where
  ordered : members.Pairwise Member.Precedes
  mem : ∀ m, m ∈ members ↔ s.Has m ∧ s.Moving m

/-- The last member of a rack. -/
def last (s : Outlook) (g : RackGroup) : Member := s.naming.member g.rack (g.existingReplicas - 1)

/-- At most one rack is to be scaled, either way. -/
structure Steady (s : Outlook) : Prop where
  way : (∀ g ∈ s.groups, ¬g.Grows) ∨ ∀ g ∈ s.groups, ¬g.Shrinks
  up : ∀ g ∈ s.groups, ∀ h ∈ s.groups, g.Grows → h.Grows → g = h
  down : ∀ g ∈ s.groups, ∀ h ∈ s.groups, g.Shrinks → h.Shrinks → g = h

/-- Besides, every rack is ready. -/
structure Ready (s : Outlook) : Prop extends s.Steady where
  ready : ∀ g ∈ s.groups, g.existing.isReady = true

/-- Besides, no member is on the move. -/
structure Calm (s : Outlook) : Prop extends s.Ready where
  still : ∀ m, s.Has m → ¬s.Moving m

/-- Besides, no rack is behind. -/
structure Current (s : Outlook) : Prop extends s.Calm where
  current : ∀ g ∈ s.groups, ¬g.Behind s.generation

end Outlook

open Outlook Decision

/-- The rules by which a pass takes its step, given the phase stored last and the total wanted.
Every number a rule computes is said to fit 32 bits. -/
inductive Policy (s : Outlook) (previous : DataCenterPhase) (size : Int) : Decision → Prop
  /-- Racks scale both ways. -/
  | bothWays {up down : List Rack} (hup : s.Lists Grows up) (hdown : s.Lists Shrinks down)
    (hsome : up ≠ []) (hsome' : down ≠ []) : Policy s previous size
      (.inconsistent ("racks " ++ listed up ++ " scale up while racks " ++ listed down
        ++ " scale down"))
  /-- Several racks scale up. -/
  | severalUp {up : List Rack} (hup : s.Lists Grows up) (hmany : 1 < up.length)
    (hdown : ∀ g ∈ s.groups, ¬g.Shrinks) : Policy s previous size
      (.inconsistent ("more than one rack scales up: " ++ listed up))
  /-- Several racks scale down. -/
  | severalDown {down : List Rack} (hdown : s.Lists Shrinks down) (hmany : 1 < down.length)
    (hup : ∀ g ∈ s.groups, ¬g.Grows) : Policy s previous size
      (.inconsistent ("more than one rack scales down: " ++ listed down))
  /-- Some racks are not ready. -/
  | waitForRacks {racks : List Rack} (hsteady : s.Steady)
    (hracks : s.Lists (fun g => g.existing.isReady = false) racks) (hsome : racks ≠ []) :
    Policy s previous size (.waitForRacks racks)
  /-- Some members are on the move. -/
  | waitForMembers {members : List Member} (hready : s.Ready) (hmembers : s.ListsMembers members)
    (hsome : members ≠ []) : Policy s previous size (.waitForMembers (members.map (·.name)))
  /-- A rack is behind, and none before it is. -/
  | updateRack {g : RackGroup} (hcalm : s.Calm) (hg : g ∈ s.groups)
    (hbehind : g.Behind s.generation)
    (hfirst : ∀ k ∈ s.groups, k.Behind s.generation → k = g ∨ g.rack < k.rack) :
    Policy s previous size (.updateRack g.rack)
  /-- A rack is to be grown. -/
  | scaleUp {g : RackGroup} (hcurrent : s.Current) (hg : g ∈ s.groups) (hup : g.Grows)
    (hfits : Layout.fits (g.existingReplicas + 1) = true) :
    Policy s previous size (.scaleUp g.rack (g.existingReplicas + 1))
  /-- A rack is to be shrunk and its last member is still in the ring. -/
  | decommission {g : RackGroup} (hcurrent : s.Current) (hg : g ∈ s.groups) (hdown : g.Shrinks)
    (hfits : Layout.fits (g.existingReplicas - 1) = true) (hpos : 0 < g.existingReplicas)
    (hstatus : s.statuses.statusOf (s.last g).name = .normal) :
    Policy s previous size (.decommission g.rack (s.last g))
  /-- A rack is to be shrunk and its last member has left the ring. -/
  | scaleDown {g : RackGroup} (hcurrent : s.Current) (hg : g ∈ s.groups) (hdown : g.Shrinks)
    (hfits : Layout.fits (g.existingReplicas - 1) = true) (hpos : 0 < g.existingReplicas)
    (hstatus : s.statuses.statusOf (s.last g).name = .decommissioned) :
    Policy s previous size (.scaleDown g.rack (g.existingReplicas - 1) (s.last g))
  /-- A rack is to be shrunk and has no member. -/
  | noMember {g : RackGroup} (hcurrent : s.Current) (hg : g ∈ s.groups) (hdown : g.Shrinks)
    (hfits : Layout.fits (g.existingReplicas - 1) = true) (hempty : g.existingReplicas ≤ 0) :
    Policy s previous size
      (.inconsistent ("rack " ++ g.rack.name ++ " has no member with ordinal " ++ "0"))
  /-- Every rack is as wanted; cleanup is due after shrinking, and after growing to more than
  one. -/
  | converged {cleanup : Bool} (hcurrent : s.Current)
    (hdone : ∀ g ∈ s.groups, ¬g.Grows ∧ ¬g.Shrinks)
    (hcleanup : cleanup = true ↔ previous = .scalingDown ∨ previous = .scalingUp ∧ 1 < size) :
    Policy s previous size (.converged cleanup)

namespace Outlook

variable {s : Outlook}

/-! ## Lists that are complete and in order -/

/-- Complete lists in order are equal. A rule that names racks by such a list therefore determines
it. -/
theorem Lists.eq {P : RackGroup → Prop} {as bs : List Rack} (ha : s.Lists P as)
    (hb : s.Lists P bs) : as = bs :=
  List.Pairwise.eq_of_mem_iff ha.ordered hb.ordered fun r => (ha.mem r).trans (hb.mem r).symm

/-- The same for members: a complete list in the order of racks and ordinals is the only one. -/
theorem ListsMembers.eq {as bs : List Member} (ha : s.ListsMembers as) (hb : s.ListsMembers bs) :
    as = bs :=
  List.Pairwise.eq_of_mem_iff ha.ordered hb.ordered fun m => (ha.mem m).trans (hb.mem m).symm

/-- A complete list is empty exactly if no group has the property. -/
theorem Lists.eq_nil {P : RackGroup → Prop} {racks : List Rack} (h : s.Lists P racks) :
    racks = [] ↔ ∀ g ∈ s.groups, ¬P g := by
  rw [List.eq_nil_iff_forall_not_mem]
  constructor
  · intro hnone g hg hP
    exact hnone g.rack ((h.mem _).mpr ⟨g, hg, hP, rfl⟩)
  · intro hnone r hr
    obtain ⟨g, hg, hP, -⟩ := (h.mem r).mp hr
    exact hnone g hg hP

/-- The one rack with a property is listed alone. -/
theorem Lists.eq_singleton {P : RackGroup → Prop} {racks : List Rack} (h : s.Lists P racks)
    {g : RackGroup} (hg : g ∈ s.groups) (hP : P g) (hone : ∀ k ∈ s.groups, P k → k = g) :
    racks = [g.rack] := by
  refine List.Pairwise.eq_of_mem_iff h.ordered (List.pairwise_singleton _ _) fun r => ?_
  rw [h.mem r, List.mem_singleton]
  constructor
  · rintro ⟨k, hk, hPk, rfl⟩
    rw [hone k hk hPk]
  · rintro rfl
    exact ⟨g, hg, hP, rfl⟩

/-- The groups in rack order, which is the order of the views. -/
def sorted (s : Outlook) : List RackGroup :=
  s.groups.mergeSort fun a b => decide (¬b.rack < a.rack)

theorem mem_sorted {g : RackGroup} : g ∈ s.sorted ↔ g ∈ s.groups := List.mem_mergeSort

/-- The observation finds a member moving exactly if the outlook does. -/
theorem isMoving_iff {m : Member} :
    (s.observation.statusOf m).isMoving = true ↔ s.Moving m := by
  show (s.statuses.statusOf m.name).isMoving = true ↔ s.Moving m
  unfold Moving
  cases s.statuses.statusOf m.name <;> simp [NodeStatus.isMoving]

section Apart

variable (hnd : (s.groups.map (·.rack)).Nodup)

include hnd

/-- Racks told apart are in strict order once sorted, which is the order a decision lists them in.
-/
theorem pairwise_sorted : s.sorted.Pairwise fun a b => a.rack < b.rack := by
  have hsort : s.sorted.Pairwise fun a b => decide (¬b.rack < a.rack) = true := by
    apply List.pairwise_mergeSort
    · intro a b c hab hbc
      simp only [decide_eq_true_eq] at hab hbc ⊢
      exact Rack.not_lt_trans hab hbc
    · intro a b
      by_cases h : b.rack < a.rack
      · simp [Rack.not_lt_of_lt h]
      · simp [h]
  have hne : s.sorted.Pairwise fun a b => a.rack ≠ b.rack := by
    apply List.pairwise_map.mp
    exact (((List.mergeSort_perm s.groups _).map RackGroup.rack).nodup_iff).mpr hnd
  refine hsort.imp₂ (fun a b hle hne => ?_) hne
  exact Rack.lt_of_not_lt (of_decide_eq_true hle) hne

/-- The racks whose views pass a test are listed. All the lists a decision reads are of this form.
-/
theorem lists_filter {p : RackView → Bool} {P : RackGroup → Prop}
    (hp : ∀ g, p (Observation.view s.naming s.generation g) = true ↔ P g) :
    s.Lists P ((s.observation.racks.filter p).map fun v => v.group.rack) := by
  have heq : (s.observation.racks.filter p).map (fun v => v.group.rack) =
      (s.sorted.filter fun g => p (Observation.view s.naming s.generation g)).map (·.rack) := by
    show ((s.sorted.map (Observation.view s.naming s.generation)).filter p).map _ = _
    rw [List.filter_map, List.map_map]
    rfl
  rw [heq]
  constructor
  · exact List.pairwise_map.mpr ((pairwise_sorted hnd).filter _)
  · intro r
    simp only [List.mem_map, List.mem_filter, mem_sorted, hp, and_assoc]

/-- The racks in the mode of growing are those whose plan asks for more replicas than they have. -/
theorem lists_scaleUp : s.Lists Grows (s.observation.racksIn .scaleUp) :=
  lists_filter hnd fun _ => decide_eq_true_iff.trans RackMode.classify_scaleUp_iff

/-- Those in the mode of shrinking have more than the plan asks for. -/
theorem lists_scaleDown : s.Lists Shrinks (s.observation.racksIn .scaleDown) :=
  lists_filter hnd fun _ => decide_eq_true_iff.trans RackMode.classify_scaleDown_iff

/-- Those behind have the replicas of the plan and record an earlier generation. -/
theorem lists_behind : s.Lists (Behind s.generation) (s.observation.racksIn .behind) := by
  refine lists_filter hnd fun g => decide_eq_true_iff.trans ⟨fun h => ?_, fun ⟨he, h⟩ => ?_⟩
  · have he : g.desiredReplicas = g.existingReplicas := RackMode.classify_behind h
    have hmode : RackMode.classify g.desiredReplicas g.existingReplicas _ _ = .behind := h
    rw [he] at hmode
    exact ⟨he, RackMode.classify_behind_iff.mp hmode⟩
  · show RackMode.classify g.desiredReplicas _ _ _ = _
    rw [he]
    exact RackMode.classify_behind_iff.mpr h

/-- The racks found not ready are those whose StatefulSet says so. -/
theorem lists_unready :
    s.Lists (fun g => g.existing.isReady = false) (s.observation.racksReady false) := by
  rw [Observation.racksReady_eq]
  exact lists_filter hnd fun _ => decide_eq_true_iff

/-- The members found moving are those of all racks, in the order of racks and ordinals. -/
theorem listsMembers_moving : s.ListsMembers s.observation.movingMembers := by
  have hmembers : s.observation.members =
      (s.sorted.map fun g => (g.rack, g.existingReplicas)).flatMap
        fun p => s.naming.members p.1 p.2 := by
    show (s.sorted.map (Observation.view s.naming s.generation)).flatMap _ = _
    rw [List.flatMap_map, List.flatMap_map]
    rfl
  constructor
  · refine List.Pairwise.filter _ ?_
    rw [hmembers]
    exact Naming.pairwise_members (List.pairwise_map.mpr (pairwise_sorted hnd))
  · intro m
    unfold Observation.movingMembers
    rw [List.mem_filter, isMoving_iff, hmembers, List.flatMap_map]
    simp only [List.mem_flatMap, Naming.mem_members, mem_sorted]
    rfl

/-! ## Looking a rack up -/

/-- The group of a rack is the one of that name, since racks are told apart. -/
theorem find?_rack {g : RackGroup} (hg : g ∈ s.groups) :
    s.observation.find? g.rack = some (Observation.view s.naming s.generation g) := by
  have hmem : Observation.view s.naming s.generation g ∈ s.observation.racks :=
    List.mem_map_of_mem (mem_sorted.mpr hg)
  obtain ⟨x, hx⟩ : ∃ x, s.observation.find? g.rack = some x :=
    Option.isSome_iff_exists.mp (List.find?_isSome.mpr ⟨_, hmem, decide_eq_true rfl⟩)
  obtain ⟨hx', hrack⟩ := Observation.find?_eq_some hx
  obtain ⟨k, hk, rfl⟩ := List.mem_map.mp hx'
  rw [hx, List.inj_on_of_nodup_map hnd (mem_sorted.mp hk) hg hrack]

theorem group?_rack {g : RackGroup} (hg : g ∈ s.groups) :
    s.observation.group? g.rack = some g := by
  rw [Observation.group?, find?_rack hnd hg]
  rfl

/-- The members of a rack are as many as its StatefulSet has replicas. -/
theorem membersOf_rack {g : RackGroup} (hg : g ∈ s.groups) :
    s.observation.membersOf g.rack = s.naming.members g.rack g.existingReplicas := by
  rw [Observation.membersOf, find?_rack hnd hg]
  rfl

/-- At most one rack is listed if at most one group has the property. The other way round as well,
as no two groups are of one rack. -/
theorem Lists.length_le_one {P : RackGroup → Prop} {racks : List Rack} (h : s.Lists P racks) :
    racks.length ≤ 1 ↔ ∀ g ∈ s.groups, ∀ k ∈ s.groups, P g → P k → g = k := by
  constructor
  · intro hlen g hg k hk hPg hPk
    have hgr := (h.mem g.rack).mpr ⟨g, hg, hPg, rfl⟩
    have hkr := (h.mem k.rack).mpr ⟨k, hk, hPk, rfl⟩
    -- Racks are listed once each, so one rack means one group.
    obtain ⟨r, hr⟩ : ∃ r, ∀ x ∈ racks, x = r := by
      match racks, hlen with
      | [], _ => exact absurd hgr List.not_mem_nil
      | [r], _ => exact ⟨r, fun x hx => List.mem_singleton.mp hx⟩
    exact List.inj_on_of_nodup_map hnd hg hk ((hr _ hgr).trans (hr _ hkr).symm)
  · intro hone
    by_cases hnone : ∀ g ∈ s.groups, ¬P g
    · rw [h.eq_nil.mpr hnone]
      exact Nat.zero_le 1
    · push Not at hnone
      obtain ⟨g, hg, hP⟩ := hnone
      rw [h.eq_singleton hg hP fun k hk hPk => hone k hk g hg hPk hP]
      exact Nat.le_refl 1

/-- The guards against scaling more than one rack let the same outlooks pass as the policy does. -/
theorem steady_iff : s.Steady ↔ s.observation.OneScaling := by
  have hup := lists_scaleUp hnd
  have hdown := lists_scaleDown hnd
  constructor
  · intro h
    exact ⟨h.way.imp hup.eq_nil.mpr hdown.eq_nil.mpr, (hup.length_le_one hnd).mpr h.up,
      (hdown.length_le_one hnd).mpr h.down⟩
  · intro h
    exact ⟨h.way.imp hup.eq_nil.mp hdown.eq_nil.mp, (hup.length_le_one hnd).mp h.up,
      (hdown.length_le_one hnd).mp h.down⟩

end Apart

end Outlook

/-! ## What the cascade comes to -/

namespace Decision

variable {o : Observation} {previous : DataCenterPhase} {size : Int} {up down : List Rack}
  {r : Rack}

/-- Racks that scale both ways are refused before anything else is looked at, and the reason names
them. -/
theorem decide_bothWays (hup : o.racksIn .scaleUp ≠ []) (hdown : o.racksIn .scaleDown ≠ []) :
    decide o previous size = .inconsistent ("racks " ++ listed (o.racksIn .scaleUp)
      ++ " scale up while racks " ++ listed (o.racksIn .scaleDown) ++ " scale down") := by
  simp [decide, hup, hdown]

/-- Several racks that scale up are refused, since a DataCenter grows by one member at a time. -/
theorem decide_severalUp (hup : 1 < (o.racksIn .scaleUp).length)
    (hdown : o.racksIn .scaleDown = []) : decide o previous size =
      .inconsistent ("more than one rack scales up: " ++ listed (o.racksIn .scaleUp)) := by
  simp [decide, hup, hdown]

/-- Several racks that scale down are refused, since one member leaves at a time. -/
theorem decide_severalDown (hup : o.racksIn .scaleUp = [])
    (hdown : 1 < (o.racksIn .scaleDown).length) : decide o previous size =
      .inconsistent ("more than one rack scales down: " ++ listed (o.racksIn .scaleDown)) := by
  simp [decide, hup, hdown]

/-- With at most one rack to scale it is waited for what is not ready, then for what moves, and only
then is a step taken. -/
theorem decide_steady (h : o.OneScaling) : decide o previous size =
    if o.racksReady false ≠ [] then .waitForRacks (o.racksReady false)
    else if o.movingMembers ≠ [] then .waitForMembers (o.movingMembers.map (·.name))
    else proceed o (o.racksIn .scaleUp) (o.racksIn .scaleDown) previous size := by
  have hup := Nat.not_lt.mpr h.up
  have hdown := Nat.not_lt.mpr h.down
  unfold decide
  rcases h.way with hnone | hnone <;> simp [hnone, hup, hdown, ite_not]

/-- A step rolls the first rack left behind, if there is one, before it scales any. -/
theorem proceed_behind {rest : List Rack} (h : o.racksIn .behind = r :: rest) :
    proceed o up down previous size = .updateRack r := by
  simp [proceed, h]

/-- With no rack left behind, the rack to be grown is given one more replica. -/
theorem proceed_up {g : RackGroup} (h : o.racksIn .behind = []) (hg : o.group? r = some g) :
    proceed o [r] down previous size = .scaleUp r (g.existingReplicas + 1) := by
  simp [proceed, h, candidates, hg, Layout.rackToGrow?]

/-- With no rack left behind or to be grown, the one to be shrunk is seen to by what its last member
says. -/
theorem proceed_down {g : RackGroup} (h : o.racksIn .behind = []) (hg : o.group? r = some g) :
    proceed o [] [r] previous size = shrink o r g.existingReplicas := by
  simp [proceed, h, candidates, hg, Layout.rackToGrow?, Layout.rackToShrink?]

/-- Where there is no rack left to roll, grow or shrink, the DataCenter has converged. -/
theorem proceed_converged (h : o.racksIn .behind = []) :
    proceed o [] [] previous size = .converged (cleanupDue previous size) := by
  simp [proceed, h, candidates, Layout.rackToGrow?, Layout.rackToShrink?]

/-- A cleanup is due after scaling down, and after scaling up if there is more than one member to
have given data away. -/
theorem cleanupDue_iff : cleanupDue previous size = true ↔
    previous = .scalingDown ∨ previous = .scalingUp ∧ 1 < size := by
  cases previous <;> simp [cleanupDue]

end Decision

namespace Outlook

variable {s : Outlook} {previous : DataCenterPhase} {size : Int}

theorem ListsMembers.eq_nil {members : List Member} (h : s.ListsMembers members) :
    members = [] ↔ ∀ m, s.Has m → ¬s.Moving m := by
  rw [List.eq_nil_iff_forall_not_mem]
  constructor
  · intro hnone m hm hmoving
    exact hnone m ((h.mem m).mpr ⟨hm, hmoving⟩)
  · intro hnone m hm
    obtain ⟨hhas, hmoving⟩ := (h.mem m).mp hm
    exact hnone m hhas hmoving

/-- The first rack listed is the one that every other comes after. -/
theorem Lists.eq_cons {P : RackGroup → Prop} {racks : List Rack} (h : s.Lists P racks)
    {g : RackGroup} (hg : g ∈ s.groups) (hP : P g)
    (hfirst : ∀ k ∈ s.groups, P k → k = g ∨ g.rack < k.rack) : ∃ rest, racks = g.rack :: rest := by
  have hmem : g.rack ∈ racks := (h.mem _).mpr ⟨g, hg, hP, rfl⟩
  cases racks with
  | nil => exact absurd hmem List.not_mem_nil
  | cons r rest =>
    obtain ⟨k, hk, hPk, hr⟩ := (h.mem r).mp List.mem_cons_self
    rcases hfirst k hk hPk with rfl | hlt
    · exact ⟨rest, by rw [hr]⟩
    · rw [hr] at hlt
      rcases List.mem_cons.mp hmem with he | hin
      · exact ⟨rest, by rw [he]⟩
      · have hgt := (List.pairwise_cons.mp h.ordered).1 _ hin
        exact absurd hgt (Rack.not_lt_of_lt hlt)

/-- With every rack as generated one is grown, one is shrunk, or all is as wanted: the rules leave
no gap there. -/
theorem scaled_of_current (h : s.Current) : ∃ d, Policy s previous size d := by
  by_cases hup : ∃ g ∈ s.groups, g.Grows
  · obtain ⟨g, hg, hgrows⟩ := hup
    exact ⟨_, .scaleUp h hg hgrows hgrows.fits⟩
  by_cases hdown : ∃ g ∈ s.groups, g.Shrinks
  · obtain ⟨g, hg, hshrinks⟩ := hdown
    have hfits := hshrinks.fits
    by_cases hpos : 0 < g.existingReplicas
    · -- the last member is there, and so not on the move
      have hhas : s.Has (s.last g) := by
        refine ⟨g, hg, (g.existingReplicas - 1).toNat, by omega, ?_⟩
        rw [Int.toNat_of_nonneg (by omega)]
        rfl
      have hstill := h.still _ hhas
      unfold Moving at hstill
      by_cases hnormal : s.statuses.statusOf (s.last g).name = .normal
      · exact ⟨_, .decommission h hg hshrinks hfits hpos hnormal⟩
      · have hleft : s.statuses.statusOf (s.last g).name = .decommissioned := by
          by_contra hn
          exact hstill ⟨hnormal, hn⟩
        exact ⟨_, .scaleDown h hg hshrinks hfits hpos hleft⟩
    · exact ⟨_, .noMember h hg hshrinks hfits (by omega)⟩
  · refine ⟨_, .converged h (fun g hg => ⟨fun hn => hup ⟨g, hg, hn⟩, fun hn => hdown ⟨g, hg, hn⟩⟩)
      cleanupDue_iff⟩

section Apart

variable (hnd : (s.groups.map (·.rack)).Nodup)

include hnd

theorem racksReady_eq_nil (h : s.Ready) : s.observation.racksReady false = [] := by
  refine (lists_unready hnd).eq_nil.mpr fun g hg => ?_
  rw [h.ready g hg]
  exact nofun

/-- In calm nothing is waited for, and the decision is the step to be taken. -/
theorem decide_calm (h : s.Calm) :
    decide s.observation previous size = proceed s.observation (s.observation.racksIn .scaleUp)
      (s.observation.racksIn .scaleDown) previous size := by
  have hready := racksReady_eq_nil hnd h.toReady
  have hstill := (listsMembers_moving hnd).eq_nil.mpr h.still
  rw [decide_steady ((steady_iff hnd).mp h.toSteady), hready, hstill]
  rfl

/-- With all racks as generated, the rack to be shrunk is the one a decision is about. -/
theorem decide_shrinks (h : s.Current) {g : RackGroup} (hg : g ∈ s.groups) (hdown : g.Shrinks) :
    decide s.observation previous size = shrink s.observation g.rack g.existingReplicas := by
  have hup : s.observation.racksIn .scaleUp = [] := by
    refine (lists_scaleUp hnd).eq_nil.mpr (h.way.resolve_right ?_)
    exact fun hnone => hnone g hg hdown
  have hone := (lists_scaleDown hnd).eq_singleton hg hdown fun k hk hk' =>
    h.down k hk g hg hk' hdown
  rw [decide_calm hnd h.toCalm, hup, hone]
  exact proceed_down ((lists_behind hnd).eq_nil.mpr h.current) (group?_rack hnd hg)

/-- A rack with members has its last one, the member whose ordinal is one below the count. It is the
one a StatefulSet takes away first, and so the only one that may be asked to leave. -/
theorem find?_last {g : RackGroup} (hg : g ∈ s.groups) (hpos : 0 < g.existingReplicas) :
    (s.observation.membersOf g.rack).find? (fun m => m.ordinal = max (g.existingReplicas - 1) 0) =
      some (s.last g) := by
  rw [membersOf_rack hnd hg]
  have hmem : s.last g ∈ s.naming.members g.rack g.existingReplicas := by
    refine Naming.mem_members.mpr ⟨(g.existingReplicas - 1).toNat, by omega, ?_⟩
    rw [Int.toNat_of_nonneg (by omega)]
    rfl
  have hord : (s.last g).ordinal = max (g.existingReplicas - 1) 0 := by
    show g.existingReplicas - 1 = _
    omega
  obtain ⟨m, hm⟩ : ∃ m, (s.naming.members g.rack g.existingReplicas).find?
      (fun m => m.ordinal = max (g.existingReplicas - 1) 0) = some m :=
    Option.isSome_iff_exists.mp (List.find?_isSome.mpr ⟨_, hmem, decide_eq_true hord⟩)
  -- a member of a rack is known from its ordinal
  obtain ⟨o, -, rfl⟩ := Naming.mem_members.mp (List.mem_of_find?_eq_some hm)
  have hfound := List.find?_some hm
  have ho : (o : Int) = max (g.existingReplicas - 1) 0 := of_decide_eq_true hfound
  rw [hm, ho, max_eq_left (by omega)]
  rfl

/-- The last member of the rack to be shrunk is asked to leave while it is NORMAL. -/
theorem shrink_normal {g : RackGroup} (hg : g ∈ s.groups) (hpos : 0 < g.existingReplicas)
    (hstatus : s.statuses.statusOf (s.last g).name = .normal) :
    shrink s.observation g.rack g.existingReplicas = .decommission g.rack (s.last g) := by
  have hst : s.observation.statusOf (s.last g) = .normal := hstatus
  simp only [shrink, find?_last hnd hg hpos, hst]

/-- The last member is taken away once it is DECOMMISSIONED. Other statuses are waited for before
the step is chosen. -/
theorem shrink_decommissioned {g : RackGroup} (hg : g ∈ s.groups) (hpos : 0 < g.existingReplicas)
    (hstatus : s.statuses.statusOf (s.last g).name = .decommissioned) :
    shrink s.observation g.rack g.existingReplicas =
      .scaleDown g.rack (g.existingReplicas - 1) (s.last g) := by
  have hst : s.observation.statusOf (s.last g) = .decommissioned := hstatus
  simp only [shrink, find?_last hnd hg hpos, hst]
  rw [max_eq_left (by omega)]

theorem shrink_empty {g : RackGroup} (hg : g ∈ s.groups) (hempty : g.existingReplicas ≤ 0) :
    shrink s.observation g.rack g.existingReplicas =
      .inconsistent ("rack " ++ g.rack.name ++ " has no member with ordinal " ++ "0") := by
  have hnone : s.observation.membersOf g.rack = [] := by
    rw [membersOf_rack hnd hg, Naming.members, Int.toNat_of_nonpos hempty]
    rfl
  -- without members there is no last ordinal, and what is looked for is the first
  have hzero : Text.Decimal.text 0 = "0" := by decide +kernel
  simp only [shrink, hnone, List.find?_nil]
  rw [max_eq_right (by omega), hzero]

/-- Each rule determines the decision: whichever applies, that is what is decided. The rules are
gone through in their order, which is the order of the tests in the decision. -/
theorem decide_of_policy {d : Decision} (h : Policy s previous size d) :
    decide s.observation previous size = d := by
  -- By the rule: its lists are the ones `decide` makes, as complete lists in order are equal.
  cases h with
  | bothWays hup hdown hsome hsome' =>
    rw [hup.eq (lists_scaleUp hnd)] at hsome ⊢
    rw [hdown.eq (lists_scaleDown hnd)] at hsome' ⊢
    exact decide_bothWays hsome hsome'
  | severalUp hup hmany hdown =>
    rw [hup.eq (lists_scaleUp hnd)] at hmany ⊢
    exact decide_severalUp hmany ((lists_scaleDown hnd).eq_nil.mpr hdown)
  | severalDown hdown hmany hup =>
    rw [hdown.eq (lists_scaleDown hnd)] at hmany ⊢
    exact decide_severalDown ((lists_scaleUp hnd).eq_nil.mpr hup) hmany
  | waitForRacks hsteady hracks hsome =>
    rw [hracks.eq (lists_unready hnd)] at hsome ⊢
    rw [decide_steady ((steady_iff hnd).mp hsteady), if_pos hsome]
  | waitForMembers hready hmembers hsome =>
    have hnone := racksReady_eq_nil hnd hready
    rw [hmembers.eq (listsMembers_moving hnd)] at hsome ⊢
    rw [decide_steady ((steady_iff hnd).mp hready.toSteady), hnone, if_neg (by simp),
      if_pos hsome]
  | updateRack hcalm hg hbehind hfirst =>
    obtain ⟨rest, hlist⟩ := (lists_behind hnd).eq_cons hg hbehind hfirst
    rw [decide_calm hnd hcalm]
    exact proceed_behind hlist
  | scaleUp hcurrent hg hup =>
    have hone := (lists_scaleUp hnd).eq_singleton hg hup
      fun k hk hk' => hcurrent.up k hk _ hg hk' hup
    rw [decide_calm hnd hcurrent.toCalm, hone]
    exact proceed_up ((lists_behind hnd).eq_nil.mpr hcurrent.current) (group?_rack hnd hg)
  | decommission hcurrent hg hdown _ hpos hstatus =>
    rw [decide_shrinks hnd hcurrent hg hdown]
    exact shrink_normal hnd hg hpos hstatus
  | scaleDown hcurrent hg hdown _ hpos hstatus =>
    rw [decide_shrinks hnd hcurrent hg hdown]
    exact shrink_decommissioned hnd hg hpos hstatus
  | noMember hcurrent hg hdown _ hempty =>
    rw [decide_shrinks hnd hcurrent hg hdown]
    exact shrink_empty hnd hg hempty
  | converged hcurrent hdone hcleanup =>
    rw [decide_calm hnd hcurrent.toCalm, (lists_scaleUp hnd).eq_nil.mpr fun g hg => (hdone g hg).1,
      (lists_scaleDown hnd).eq_nil.mpr fun g hg => (hdone g hg).2,
      proceed_converged ((lists_behind hnd).eq_nil.mpr hcurrent.current)]
    exact congrArg _ (Bool.eq_iff_iff.mpr (cleanupDue_iff.trans hcleanup.symm))

/-- With racks scaling both ways, or several one way, a rule refuses. -/
theorem refused_of_not_steady (h : ¬s.Steady) : ∃ d, Policy s previous size d := by
  have hup := lists_scaleUp hnd
  have hdown := lists_scaleDown hnd
  rw [steady_iff hnd] at h
  by_cases hnoneup : s.observation.racksIn .scaleUp = []
  · by_cases hmany : 1 < (s.observation.racksIn .scaleDown).length
    · exact ⟨_, .severalDown hdown hmany (hup.eq_nil.mp hnoneup)⟩
    · exact absurd ⟨.inl hnoneup, by simp [hnoneup], by omega⟩ h
  · by_cases hnonedown : s.observation.racksIn .scaleDown = []
    · by_cases hmany : 1 < (s.observation.racksIn .scaleUp).length
      · exact ⟨_, .severalUp hup hmany (hdown.eq_nil.mp hnonedown)⟩
      · exact absurd ⟨.inr hnonedown, by omega, by simp [hnonedown]⟩ h
    · exact ⟨_, .bothWays hup hdown hnoneup hnonedown⟩

/-- In calm the first rack left behind, if there is one, is rolled. -/
theorem rolled_of_behind (h : s.Calm) (hsome : s.observation.racksIn .behind ≠ []) :
    ∃ d, Policy s previous size d := by
  have hlist := lists_behind hnd
  obtain ⟨r, rest, hr⟩ := List.exists_cons_of_ne_nil hsome
  rw [hr] at hlist
  obtain ⟨g, hg, hbehind, rfl⟩ := (hlist.mem r).mp List.mem_cons_self
  refine ⟨_, .updateRack h hg hbehind fun k hk hkb => ?_⟩
  rcases List.mem_cons.mp ((hlist.mem k.rack).mpr ⟨k, hk, hkb, rfl⟩) with he | hin
  · exact .inl (List.inj_on_of_nodup_map hnd hk hg he)
  · exact .inr ((List.pairwise_cons.mp hlist.ordered).1 _ hin)

/-- Some rule always applies, so the policy says what to do over every outlook. -/
theorem exists_policy (previous : DataCenterPhase) (size : Int) :
    ∃ d, Policy s previous size d := by
  -- the guards are tried in the order of the cascade, each with those before it passed
  by_cases hsteady : s.Steady
  swap
  · exact refused_of_not_steady hnd hsteady
  by_cases hready : s.observation.racksReady false = []
  swap
  · exact ⟨_, .waitForRacks hsteady (lists_unready hnd) hready⟩
  have hall : s.Ready := by
    refine ⟨hsteady, fun g hg => ?_⟩
    simpa using (lists_unready hnd).eq_nil.mp hready g hg
  by_cases hstill : s.observation.movingMembers = []
  swap
  · exact ⟨_, .waitForMembers hall (listsMembers_moving hnd) hstill⟩
  have hcalm : s.Calm := ⟨hall, (listsMembers_moving hnd).eq_nil.mp hstill⟩
  by_cases hbehind : s.observation.racksIn .behind = []
  swap
  · exact rolled_of_behind hnd hcalm hbehind
  exact scaled_of_current ⟨hcalm, (lists_behind hnd).eq_nil.mp hbehind⟩

/-- What is decided is what the rule that applies asks for: some rule does apply, and it determines
the decision. -/
theorem policy_decide (previous : DataCenterPhase) (size : Int) :
    Policy s previous size (decide s.observation previous size) := by
  obtain ⟨d, hd⟩ := exists_policy hnd previous size
  rw [decide_of_policy hnd hd]
  exact hd

/-- No rule waits for a member to be decommissioned: by the time one is to leave, it is NORMAL or
DECOMMISSIONED. -/
theorem decide_ne_waitForDecommission (r : Rack) (m : Member) (status : NodeStatus) :
    decide s.observation previous size ≠ .waitForDecommission r m status := by
  intro he
  have h := policy_decide hnd previous size
  rw [he] at h
  cases h

end Apart

/-- A pass decides for a step exactly if the policy says so, and it never waits for a member to be
decommissioned. -/
theorem decide_iff_policy (s : Outlook) (hnd : (s.groups.map (·.rack)).Nodup)
    (previous : DataCenterPhase) (size : Int) :
    (∀ d, decide s.observation previous size = d ↔ Policy s previous size d) ∧
      ∀ r m status, decide s.observation previous size ≠ .waitForDecommission r m status := by
  refine ⟨fun d => ⟨?_, decide_of_policy hnd⟩, decide_ne_waitForDecommission hnd⟩
  rintro rfl
  exact policy_decide hnd previous size

/-- A StatefulSet rolled out to a number of pods. -/
def pods (n : Int32) : StatefulSet where
  spec := some { replicas := some n, rest := [] }
  status := some (Fixture.rolledOut n)

/-- Two racks of one pod, the second wanted at none and its pod out of the ring. The second comes
first in the list. -/
def leaving : Outlook where
  naming := ⟨"c", "d", "n", 4567⟩
  generation := some 1
  groups := [⟨.new 1, pods 1, pods 0⟩, ⟨.new 0, pods 1, pods 1⟩]
  statuses := .ofList [("c-d-rack1-0", .normal), ("c-d-rack2-0", .decommissioned)]

theorem leaving_settled : leaving.statuses.statusOf (leaving.naming.podName (.new 0) 0) = .normal ∧
    leaving.statuses.statusOf (leaving.naming.podName (.new 1) 0) = .decommissioned := by
  decide +kernel

/-- Neither rack of the example is behind the generation. -/
theorem leaving_current : leaving.Current := by
  have hnone : ∀ g ∈ leaving.groups, ¬g.Grows := by
    simp only [leaving, List.forall_mem_cons, Grows]
    decide
  have hone : ∀ g ∈ leaving.groups, g.Shrinks → g = ⟨.new 1, pods 1, pods 0⟩ := by
    intro g hg hdown
    rcases List.mem_pair.mp hg with rfl | rfl
    · rfl
    · exact absurd hdown (Int.lt_irrefl _)
  constructor
  · constructor
    · constructor
      · exact ⟨.inl hnone, fun g hg _ _ h => absurd h (hnone g hg),
          fun g hg k hk h h' => (hone g hg h).trans (hone k hk h').symm⟩
      · intro g hg
        rcases List.mem_pair.mp hg with rfl | rfl <;> rfl
    · rintro m ⟨g, hg, o, ho, rfl⟩ ⟨hnormal, hleft⟩
      rcases List.mem_pair.mp hg with rfl | rfl
      · obtain rfl : o = 0 := Nat.lt_one_iff.mp ho
        exact hleft leaving_settled.2
      · obtain rfl : o = 0 := Nat.lt_one_iff.mp ho
        exact hnormal leaving_settled.1
  · rintro g hg ⟨-, r, hr, -⟩
    rcases List.mem_pair.mp hg with rfl | rfl <;> cases hr

/-- The policy has the second rack shrunk to none, and so it is decided. -/
theorem decide_leaving : (leaving.groups.map (·.rack)).Nodup ∧
    decide leaving.observation .running 1 =
      .scaleDown (.new 1) 0 (leaving.naming.member (.new 1) 0) := by
  have hnd : (leaving.groups.map (·.rack)).Nodup := by
    simp [leaving, Rack.new]
  have hshrinks : Shrinks ⟨.new 1, pods 1, pods 0⟩ := Int.zero_lt_one
  have hrule : Policy leaving .running 1
      (.scaleDown (.new 1) 0 (leaving.naming.member (.new 1) 0)) :=
    .scaleDown leaving_current List.mem_cons_self hshrinks hshrinks.fits Int.zero_lt_one
      leaving_settled.2
  exact ⟨hnd, ((decide_iff_policy leaving hnd .running 1).1 _).mpr hrule⟩

end Outlook

end RackOperator
