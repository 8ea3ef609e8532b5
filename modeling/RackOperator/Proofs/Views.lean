import RackOperator.Proofs.Policy

/-!
# The views of an observation agree

A pass looks at its racks and members in many ways: by rack, by mode, by readiness, by status, all
in a row. Each view is worked out on its own, by a walk, a test or a look-up, and a decision mixes
them; so they must say the same things.

Two facts carry the argument. A walk that puts things to their labels parts them
(`SortedMap.parts_grouped`): each list is taken out of the whole in order, and nothing is lost or
kept twice. And where no two groups are of one rack, the views are in strict order of their racks:
looking a rack up is then as good as walking over all of them (`Outlook.find?_eq_some_iff`), and the
order the groups came in leaves no trace (`Outlook.sorted_of_perm`). `Outlook.views_agree` puts it
together.
-/

namespace RackOperator

namespace SortedMap

variable {κ α β : Type} [LT κ] [DecidableEq κ]

/-- The lists of a map are what a list parts into: each is taken out of it in order and is not
empty, nothing is in the lists of two keys, and together they hold what the whole holds. -/
structure Parts (m : SortedMap κ (List α)) (whole : List α) : Prop where
  sublist : ∀ k part, m.find? k = some part → part.Sublist whole
  ne_nil : ∀ k part, m.find? k = some part → part ≠ []
  apart : ∀ k k' part part', m.find? k = some part → m.find? k' = some part' →
    ∀ a ∈ part, a ∈ part' → k = k'
  together : m.values.flatten.Perm whole

/-- What is so of a list that a sublist inherits is so of all parts of it, in particular that it is
in order. -/
theorem Parts.pairwise {m : SortedMap κ (List α)} {whole : List α} {R : α → α → Prop}
    (h : m.Parts whole) (hR : whole.Pairwise R) {k : κ} {part : List α}
    (hpart : m.find? k = some part) : part.Pairwise R :=
  hR.sublist (h.sublist k part hpart)

variable [DecidableLT κ] [Trans (α := κ) (β := κ) (γ := κ) (· < ·) (· < ·) (· < ·)]
  [Std.Irrefl (α := κ) (· < ·)] [Std.Trichotomous (α := κ) (· < ·)]

omit [Std.Trichotomous (α := κ) (· < ·)] [DecidableLT κ]
  [Trans (α := κ) (β := κ) (γ := κ) (· < ·) (· < ·) (· < ·)] in
/-- A key below all others has no value, as the keys are in order. -/
theorem lookup_eq_none {k : κ} {l : List (κ × α)} (h : ∀ p ∈ l, k < p.1) : lookup k l = none := by
  rw [Option.eq_none_iff_forall_ne_some]
  intro a ha
  exact Std.Irrefl.irrefl (r := fun (x y : κ) => x < y) k (h (k, a) (mem_of_lookup ha))

/-- What is put at the end of the list of a key is all that is new, wherever the key stands. -/
theorem perm_place_append {k : κ} (a : α) {l : List (κ × List α)}
    (hl : l.Pairwise fun p q => p.1 < q.1) :
    ((place k ((lookup k l).getD [] ++ [a]) l).map (·.2)).flatten.Perm
      ((l.map (·.2)).flatten ++ [a]) := by
  -- Placing stops at the first key that is not smaller: a new part stands there, or the part found
  -- there grows at its end.
  induction l with
  | nil => exact .refl _
  | cons p rest ih =>
    obtain ⟨hp, hrest⟩ := List.pairwise_cons.mp hl
    unfold place
    split
    next hlt =>
      have hnone : lookup k (p :: rest) = none :=
        lookup_eq_none (List.forall_mem_cons.mpr ⟨hlt, fun q hq => Trans.trans hlt (hp q hq)⟩)
      rw [hnone]
      exact (List.perm_append_comm : ([a] ++ _).Perm (_ ++ [a]))
    next hlt =>
      split
      next hgt =>
        have hne : p.1 ≠ k := by
          intro he
          rw [he] at hgt
          exact Std.Irrefl.irrefl (r := fun (x y : κ) => x < y) k hgt
        rw [lookup, if_neg hne]
        simp only [List.map_cons, List.flatten_cons, List.append_assoc]
        exact (ih hrest).append_left p.2
      next hgt =>
        rw [lookup, if_pos (eq_of_not_lt hgt hlt)]
        simp only [List.map_cons, List.flatten_cons, Option.getD_some, List.append_assoc]
        exact List.perm_append_comm.append_left p.2

/-- Put to their labels, things are neither lost nor kept twice; only their order may change. -/
theorem perm_values_grouped (label : α → κ) (value : α → β) (things : List α) :
    (grouped label value things).values.flatten.Perm (things.map value) := by
  induction things using List.reverseRecOn with
  | nil => exact .refl _
  | append_singleton things a ih =>
    rw [grouped_concat, List.map_append]
    exact (perm_place_append (value a) (grouped label value things).increasing).trans
      (ih.append_right [value a])

/-- Things put to labels that their values tell are parted: each value is under one label. No part
is empty, and none has a value that was not among the things. -/
theorem parts_grouped {label : α → κ} {value : α → β} {things : List α}
    (htell : ∀ a ∈ things, ∀ b ∈ things, value a = value b → label a = label b) :
    (grouped label value things).Parts (things.map value) := by
  -- A part is what the filter by its label leaves, and it is there only when that is something.
  have hpart : ∀ k part, (grouped label value things).find? k = some part →
      (things.filter fun a => label a = k) ≠ [] ∧
        (things.filter fun a => label a = k).map value = part := by
    intro k part h
    rw [find?_grouped] at h
    split at h
    next => cases h
    next hsome => exact ⟨hsome, Option.some.inj h⟩
  constructor
  · intro k part h
    rw [← (hpart k part h).2]
    exact List.filter_sublist.map value
  · intro k part h
    rw [← (hpart k part h).2]
    exact fun hnil => (hpart k part h).1 (List.map_eq_nil_iff.mp hnil)
  · intro k k' part part' h h' b hb hb'
    rw [← (hpart k part h).2] at hb
    rw [← (hpart k' part' h').2] at hb'
    obtain ⟨a, ha, rfl⟩ := List.mem_map.mp hb
    obtain ⟨a', ha', he⟩ := List.mem_map.mp hb'
    obtain ⟨hmem, hk⟩ := List.mem_filter.mp ha
    obtain ⟨hmem', hk'⟩ := List.mem_filter.mp ha'
    rw [← of_decide_eq_true hk, ← of_decide_eq_true hk', htell a hmem a' hmem' he.symm]
  · exact perm_values_grouped label value things

/-- The lists of some labels are those of the things that have them. -/
theorem filterKeys_grouped (label : α → κ) (value : α → β) (things : List α) (keep : κ → Bool) :
    (grouped label value things).filterKeys keep =
      grouped label value (things.filter fun a => keep (label a)) := by
  refine ext_find? fun k => ?_
  -- Under one key the test by label is all or nothing.
  have hfilter : ((things.filter fun a => keep (label a)).filter fun a => label a = k) =
      if keep k then things.filter fun a => label a = k else [] := by
    rw [List.filter_filter]
    split
    next hkeep =>
      refine List.filter_congr fun a _ => ?_
      by_cases h : label a = k
      · simp [h, hkeep]
      · simp [h]
    next hkeep =>
      refine List.filter_eq_nil_iff.mpr fun a _ => ?_
      by_cases h : label a = k
      · simp [h, hkeep]
      · simp [h]
  rw [find?_filterKeys, find?_grouped, find?_grouped, hfilter]
  by_cases hkeep : keep k = true
  · simp only [if_pos hkeep]
  · simp only [if_neg hkeep, if_true]

end SortedMap

namespace Observation

variable {o : Observation}

/-! ## Walks and look-ups -/

theorem racksIn_eq (o : Observation) (m : RackMode) :
    o.racksIn m = (o.racksByMode.find? m).getD [] :=
  (SortedMap.getD_find?_grouped ..).symm

theorem isReady_iff {r : Rack} :
    o.isReady r = true ↔ r ∈ (o.readinessByRack.find? true).getD [] := by
  show o.isReady r = true ↔ r ∈ o.racksReady true
  rw [racksReady_eq]
  simp only [isReady, List.any_eq_true, Bool.and_eq_true, decide_eq_true_eq, List.mem_map,
    List.mem_filter]
  constructor
  · rintro ⟨v, hv, hrack, hready⟩
    exact ⟨v, ⟨hv, hready⟩, hrack⟩
  · rintro ⟨v, ⟨hv, hready⟩, hrack⟩
    exact ⟨v, hv, hrack, hready⟩

/-- Parted by status, the members are parted by name, since a status goes with a name. -/
theorem parts_membersByStatus (o : Observation) :
    o.membersByStatus.Parts (o.members.map (·.name)) :=
  SortedMap.parts_grouped fun _ _ _ _ h => congrArg o.statuses.statusOf h

/-- The members on the move are those neither NORMAL nor DECOMMISSIONED. -/
theorem movingMembers_eq (o : Observation) :
    o.movingMembers =
      o.members.filter fun m => o.statusOf m ≠ .normal ∧ o.statusOf m ≠ .decommissioned := by
  refine List.filter_congr fun m _ => ?_
  cases o.statusOf m <;> rfl

/-- The members on the move are those listed under a status that moves, in another order. -/
theorem perm_movingMembers (o : Observation) :
    (o.movingMembers.map (·.name)).Perm
      (o.membersByStatus.filterKeys NodeStatus.isMoving).values.flatten := by
  unfold membersByStatus
  rw [SortedMap.filterKeys_grouped]
  exact (SortedMap.perm_values_grouped ..).symm

end Observation

namespace Outlook

variable {s : Outlook}

/-- The views of an observation go together, and with the groups they are of. -/
structure Views (s : Outlook) (o : Observation) : Prop where
  /-- The groups are those given, in strict order of their racks. -/
  groups : o.groups.Perm s.groups
  racks : (o.groups.map (·.rack)).Pairwise (· < ·)
  /-- A rack is looked up as its group, with the mode and the readiness of that. -/
  group : ∀ r g, o.group? r = some g ↔ g ∈ s.groups ∧ g.rack = r
  modes : ∀ g ∈ s.groups, o.modeOf? g.rack = some (RackMode.classify g.desiredReplicas
    g.existingReplicas g.existing.recordedGeneration s.generation)
  readiness : ∀ g ∈ s.groups, o.isReady g.rack = g.existing.isReady
  /-- The modes and the two sides of readiness part the racks, each list in order. -/
  byMode : o.racksByMode.Parts (o.groups.map (·.rack))
  byReadiness : o.readinessByRack.Parts (o.groups.map (·.rack))
  modeOrdered : ∀ m racks, o.racksByMode.find? m = some racks → racks.Pairwise (· < ·)
  sideOrdered : ∀ ready racks, o.readinessByRack.find? ready = some racks → racks.Pairwise (· < ·)
  /-- Racks asked for by mode, modes and readiness asked for by rack. -/
  inMode : ∀ m, o.racksIn m = (o.racksByMode.find? m).getD []
  mode : ∀ r m, o.modeOf? r = some m ↔ r ∈ o.racksIn m
  ready : ∀ r, o.isReady r = true ↔ r ∈ (o.readinessByRack.find? true).getD []
  /-- A rack's members are the ordinals below its count, and no other rack has any. -/
  ordinals : ∀ g ∈ s.groups, (o.membersOf g.rack).map (fun m => (m.rack, m.ordinal)) =
    (List.range g.existingReplicas.toNat).map fun (i : Nat) => (g.rack, (i : Int))
  others : ∀ r, r ∉ s.groups.map (·.rack) → o.membersOf r = []
  members : o.members = (o.groups.map (·.rack)).flatMap o.membersOf
  /-- The statuses part the members, and those that move are the members on the move. -/
  byStatus : o.membersByStatus.Parts (o.members.map (·.name))
  inStatus : ∀ status, (o.membersByStatus.find? status).getD [] =
    (o.members.filter fun m => o.statusOf m = status).map (·.name)
  moving : o.movingMembers =
    o.members.filter fun m => o.statusOf m ≠ .normal ∧ o.statusOf m ≠ .decommissioned
  movingByStatus : (o.movingMembers.map (·.name)).Perm (o.membersByStatus.filterKeys fun status =>
    status ≠ .normal ∧ status ≠ .decommissioned).values.flatten

/-- An observation keeps the groups it was made of, sorted by rack. -/
theorem groups_observation (s : Outlook) : s.observation.groups = s.sorted := by
  show (s.sorted.map (Observation.view s.naming s.generation)).map (·.group) = _
  rw [List.map_map]
  exact List.map_id _

theorem perm_sorted (s : Outlook) : s.sorted.Perm s.groups := List.mergeSort_perm ..

section Apart

variable (hnd : (s.groups.map (·.rack)).Nodup)

include hnd

theorem nodup_views : (s.observation.racks.map fun v => v.group.rack).Nodup := by
  show ((s.sorted.map (Observation.view s.naming s.generation)).map fun v => v.group.rack).Nodup
  rw [List.map_map]
  exact ((perm_sorted s).map RackGroup.rack).nodup_iff.mpr hnd

/-- What a view says goes with its rack, as there is one view of each. -/
theorem label_of_rack {γ : Type} (label : RackView → γ) :
    ∀ v ∈ s.observation.racks, ∀ v' ∈ s.observation.racks, v.group.rack = v'.group.rack →
      label v = label v' :=
  fun _ hv _ hv' h => congrArg label (List.inj_on_of_nodup_map (nodup_views hnd) hv hv' h)

/-- A rack is looked up as the one view that is of it. -/
theorem find?_eq_some_iff {r : Rack} {v : RackView} :
    s.observation.find? r = some v ↔ v ∈ s.observation.racks ∧ v.group.rack = r := by
  refine ⟨Observation.find?_eq_some, ?_⟩
  rintro ⟨hv, rfl⟩
  obtain ⟨g, hg, rfl⟩ := List.mem_map.mp hv
  exact find?_rack hnd (mem_sorted.mp hg)

theorem group?_eq_some_iff {r : Rack} {g : RackGroup} :
    s.observation.group? r = some g ↔ g ∈ s.groups ∧ g.rack = r := by
  constructor
  · intro h
    obtain ⟨v, hv, rfl⟩ := Option.map_eq_some_iff.mp h
    obtain ⟨hmem, hrack⟩ := Observation.find?_eq_some hv
    obtain ⟨k, hk, rfl⟩ := List.mem_map.mp hmem
    exact ⟨mem_sorted.mp hk, hrack⟩
  · rintro ⟨hg, rfl⟩
    exact group?_rack hnd hg

/-- The mode looked up is the one in whose list the rack is. -/
theorem modeOf?_eq_some_iff {r : Rack} {m : RackMode} :
    s.observation.modeOf? r = some m ↔ r ∈ s.observation.racksIn m := by
  simp only [Observation.modeOf?, Observation.racksIn, Option.map_eq_some_iff,
    find?_eq_some_iff hnd, List.mem_map, List.mem_filter, decide_eq_true_eq]
  constructor
  · rintro ⟨v, ⟨hv, hrack⟩, hmode⟩
    exact ⟨v, ⟨hv, hmode⟩, hrack⟩
  · rintro ⟨v, ⟨hv, hmode⟩, hrack⟩
    exact ⟨v, ⟨hv, hrack⟩, hmode⟩

/-- A rack that was given is ready exactly if its StatefulSet is. -/
theorem isReady_rack {g : RackGroup} (hg : g ∈ s.groups) :
    s.observation.isReady g.rack = g.existing.isReady := by
  rw [Bool.eq_iff_iff]
  simp only [Observation.isReady, List.any_eq_true, Bool.and_eq_true, decide_eq_true_eq]
  have hview := (Observation.find?_eq_some (find?_rack hnd hg)).1
  constructor
  · rintro ⟨v, hv, hrack, hready⟩
    rwa [List.inj_on_of_nodup_map (nodup_views hnd) hv hview hrack] at hready
  · intro hready
    exact ⟨_, hview, rfl, hready⟩

omit hnd in
theorem membersOf_of_notMem {r : Rack} (hr : r ∉ s.groups.map (·.rack)) :
    s.observation.membersOf r = [] := by
  have hnone : s.observation.find? r = none := by
    rw [Option.eq_none_iff_forall_ne_some]
    intro v hv
    obtain ⟨hmem, hrack⟩ := Observation.find?_eq_some hv
    obtain ⟨g, hg, rfl⟩ := List.mem_map.mp hmem
    exact hr (List.mem_map.mpr ⟨g, mem_sorted.mp hg, hrack⟩)
  rw [Observation.membersOf, hnone]
  rfl

/-- All members are those of one rack after the other, in the order of the racks. -/
theorem members_eq_flatMap :
    s.observation.members = (s.sorted.map (·.rack)).flatMap s.observation.membersOf := by
  show (s.sorted.map (Observation.view s.naming s.generation)).flatMap (·.members) = _
  rw [List.flatMap_map, List.flatMap_map]
  refine List.flatMap_congr fun g hg => ?_
  rw [membersOf_rack hnd (mem_sorted.mp hg)]
  rfl

/-- Groups in another order are sorted into the same, so no view can show in which they came. -/
theorem sorted_of_perm {groups : List RackGroup} (hperm : groups.Perm s.groups) :
    ({ s with groups } : Outlook).sorted = s.sorted := by
  have hnd' : (groups.map (·.rack)).Nodup := (hperm.map RackGroup.rack).nodup_iff.mpr hnd
  have hsame : ({ s with groups } : Outlook).sorted.Perm s.sorted :=
    (perm_sorted _).trans (hperm.trans (perm_sorted s).symm)
  exact hsame.eq_of_pairwise (fun g k _ _ hgk hkg => absurd hkg (Rack.not_lt_of_lt hgk))
    (pairwise_sorted hnd') (pairwise_sorted hnd)

theorem views_observation : s.Views s.observation := by
  have hgroups := groups_observation s
  have hracks : (s.observation.groups.map (·.rack)).Pairwise (· < ·) := by
    rw [hgroups]
    exact List.pairwise_map.mpr (pairwise_sorted hnd)
  -- Both groupings are of the racks as surveyed, so one lemma gives their parts.
  have hwhole : s.observation.racks.map (fun v => v.group.rack) =
      s.observation.groups.map (·.rack) := List.map_map.symm
  have hmode : s.observation.racksByMode.Parts (s.observation.groups.map (·.rack)) :=
    hwhole ▸ SortedMap.parts_grouped (label_of_rack hnd _)
  have hready : s.observation.readinessByRack.Parts (s.observation.groups.map (·.rack)) :=
    hwhole ▸ SortedMap.parts_grouped (label_of_rack hnd _)
  exact {
    groups := hgroups ▸ perm_sorted s
    racks := hracks
    group := fun _ _ => group?_eq_some_iff hnd
    modes := fun g hg => by rw [Observation.modeOf?, find?_rack hnd hg]; rfl
    readiness := fun _ => isReady_rack hnd
    byMode := hmode
    byReadiness := hready
    modeOrdered := fun _ _ => hmode.pairwise hracks
    sideOrdered := fun _ _ => hready.pairwise hracks
    inMode := Observation.racksIn_eq _
    mode := fun _ _ => modeOf?_eq_some_iff hnd
    ready := fun _ => Observation.isReady_iff
    ordinals := fun g hg => by
      rw [membersOf_rack hnd hg, Naming.members, List.map_map]
      rfl
    others := fun _ => membersOf_of_notMem
    members := hgroups ▸ members_eq_flatMap hnd
    byStatus := Observation.parts_membersByStatus _
    inStatus := fun _ => SortedMap.getD_find?_grouped ..
    moving := Observation.movingMembers_eq _
    movingByStatus := by
      have htest : (fun status : NodeStatus =>
          decide (status ≠ .normal ∧ status ≠ .decommissioned)) = NodeStatus.isMoving := by
        funext status
        cases status <;> rfl
      rw [htest]
      exact Observation.perm_movingMembers _ }

end Apart

/-- **The views agree.** Where no two groups are of one rack, every view of what is observed is in
accord with every other and with the groups, and none of them shows in which order the groups were
given. -/
theorem views_agree (s : Outlook) (hnd : (s.groups.map (·.rack)).Nodup) :
    s.Views s.observation ∧ ∀ groups : List RackGroup, groups.Perm s.groups →
      ({ s with groups } : Outlook).observation = s.observation := by
  refine ⟨views_observation hnd, fun groups hperm => ?_⟩
  show Observation.mk (({ s with groups } : Outlook).sorted.map _) s.statuses = _
  rw [sorted_of_perm hnd hperm]
  rfl

/-- Two racks in the wrong order, as they may be given: the second is to grow, the first has not
rolled out and has a member that joins. -/
def crossed : Outlook :=
  let dc := Fixture.dataCenter "dc1" 4 2
  { naming := dc.naming
    generation := some 1
    groups := [
      ⟨.new 1, Fixture.readyStatefulSet dc (.new 1) 1, dc.statefulSet (.new 1) 2⟩,
      ⟨.new 0, Fixture.convergingStatefulSet dc (.new 0) 2 1, dc.statefulSet (.new 0) 2⟩]
    statuses := .ofList [(dc.naming.podName (.new 0) 0, .normal),
      (dc.naming.podName (.new 0) 1, .joining)] }

theorem crossed_views_agree :
    (crossed.groups.map (·.rack)).Nodup ∧ crossed.groups.reverse.Perm crossed.groups ∧
      crossed.Views crossed.observation ∧
      ({ crossed with groups := crossed.groups.reverse } : Outlook).observation =
        crossed.observation := by
  have hnd : (crossed.groups.map (·.rack)).Nodup := List.nodup_reverse.mp (Rack.nodup_all 2)
  have hperm : crossed.groups.reverse.Perm crossed.groups := List.reverse_perm _
  obtain ⟨hviews, hany⟩ := views_agree crossed hnd
  exact ⟨hnd, hperm, hviews, hany _ hperm⟩

end Outlook

end RackOperator
