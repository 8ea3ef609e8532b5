import RackOperator.Proofs.Pass.Scaling
import RackOperator.Proofs.Policy

/-!
# A pass accepts its own plan

A pass plans the counts of its racks, builds the StatefulSets for them and then decides on what
it has built. Two ends of that decision are there for plans that were not made by a pass: racks
that disagree, and a member that is waited for while it leaves. Neither is reached.

The plan differs from what exists in one rack, by one and toward the total wanted
(`Survey.planned_cases`), so the racks never disagree, and a rack planned smaller has a last
member (`Survey.choice`). A member on the move stops the pass before that member is asked for
(`Outlook.decide_ne_waitForDecommission`). Counts that are not negative and whose sum fits make a
plan whose sums and counts fit (`Layout.sum?_eq_some`, `Survey.Whole.fits_planned`).
-/

namespace RackOperator

namespace Layout

/-- Counts that are not negative add up if their sum fits, since no sum on the way is greater. -/
theorem sumFrom?_eq_some {is : List Int} (hnn : ∀ i ∈ is, 0 ≤ i) {start : Int} (h : 0 ≤ start)
    (hsum : start + is.sum < 2 ^ 31) : sumFrom? start is = some (start + is.sum) := by
  induction is generalizing start with
  | nil => simp [sumFrom?]
  | cons i rest ih =>
    have hi : 0 ≤ i := hnn i List.mem_cons_self
    have hrest : ∀ j ∈ rest, 0 ≤ j := fun j hj => hnn j (List.mem_cons_of_mem _ hj)
    have hpos : 0 ≤ rest.sum := List.sum_nonneg hrest
    rw [List.sum_cons] at hsum ⊢
    have hfits : fits (start + i) = true := by
      simp only [fits, Bool.and_eq_true, decide_eq_true_eq]
      omega
    rw [sumFrom?, if_pos hfits, ih hrest (by omega) (by omega)]
    congr 1
    omega

theorem sum?_eq_some {is : List Int} (hnn : ∀ i ∈ is, 0 ≤ i) (hsum : is.sum < 2 ^ 31) :
    sum? is = some is.sum := by
  have h := sumFrom?_eq_some hnn (Int.le_refl 0) (by omega)
  rwa [Int.zero_add] at h

end Layout

namespace Pass.Survey

variable {v : Survey}

/-- What the decision of a pass is made from. -/
def outlook (v : Survey) : Outlook := ⟨v.dc.naming, v.generation, v.groups, v.statuses⟩

theorem nodup_groups (hv : v.Whole) : (v.outlook.groups.map (·.rack)).Nodup := by
  have hgroups : v.groups.map (·.rack) = v.found.map (·.1) := List.map_map
  show (v.groups.map (·.rack)).Nodup
  rw [hgroups]
  exact hv.nodup_racks

/-- A pass does not decide for what it would have to report as an error: its plan scales one rack at
most, and that one has a last member. -/
theorem decision_ne_inconsistent (hv : v.Whole) (reason : String) :
    v.decision ≠ .inconsistent reason := by
  intro he
  have hc := choice hv
  rw [he] at hc
  cases hc with
  | scaleDown _ _ hphase => cases hphase .running

/-- It does not wait for a member that leaves either, as such a member is moving and is waited for
as that. -/
theorem decision_ne_waitForDecommission (hv : v.Whole) (r : Rack) (m : Member)
    (status : NodeStatus) : v.decision ≠ .waitForDecommission r m status :=
  Outlook.decide_ne_waitForDecommission (s := v.outlook) (nodup_groups hv) r m status

/-- Every count planned fits 32 bits, that of the rack that is moved among them. Nothing is lost
when it is written into a StatefulSet, whose count has no more. -/
theorem fits_planned (hv : v.Whole) : ∀ p ∈ v.planned.entries, Layout.fits p.2 = true := by
  have hfits : ∀ {i : Int}, -2 ^ 31 ≤ i → i < 2 ^ 31 → Layout.fits i = true := by
    intro i hl hu
    simp only [Layout.fits, Bool.and_eq_true, decide_eq_true_eq]
    omega
  have hfound : ∀ p ∈ v.counts, Layout.fits p.2 = true := by
    intro p hp
    obtain ⟨q, -, rfl⟩ := List.mem_map.mp hp
    exact hfits q.2.replicas_ge q.2.replicas_lt
  have hinsert : ∀ (r : Rack) (n : Int), Layout.fits n = true →
      ∀ p ∈ ((⟨v.counts, hv.pairwise_counts⟩ : Layout.Counts).insert r n).entries,
        Layout.fits p.2 = true := by
    intro r n hn p hp
    rcases SortedMap.mem_place hp with rfl | hp
    · exact hn
    · exact hfound p hp
  -- A count that is moved is next to one that fits, and on the side where there is room.
  rcases planned_moves hv with ⟨-, q, -, hroom, he⟩ | ⟨-, q, -, hpos, he⟩ | he
  · have hl := q.2.replicas_ge
    rw [he]
    exact hinsert _ _ (hfits (by omega) hroom)
  · have hu := q.2.replicas_lt
    rw [he]
    exact hinsert _ _ (hfits (by omega) (by omega))
  · rw [he]
    exact hfound

/-- The StatefulSet built for a rack asks for the count planned of it. The plan has a count for
every rack that was found, as it moves counts and adds or drops none. -/
theorem find?_planned (hv : v.Whole) {p : Rack × StatefulSet} (hp : p ∈ v.found) :
    v.planned.find? p.1 = some (v.group p).desiredReplicas := by
  -- the rack that is moved has its new count in the plan, every other rack the one found
  obtain ⟨n, hn⟩ : ∃ n, v.planned.find? p.1 = some n := by
    have hcount := find?_counts hv hp
    rcases planned_moves hv with ⟨-, q, -, -, he⟩ | ⟨-, q, -, -, he⟩ | he
    · rw [he, SortedMap.find?_insert]
      split
      · exact ⟨_, rfl⟩
      · exact ⟨_, hcount⟩
    · rw [he, SortedMap.find?_insert]
      split
      · exact ⟨_, rfl⟩
      · exact ⟨_, hcount⟩
    · rw [he]
      exact ⟨_, hcount⟩
  have hfits := fits_planned hv _ (SortedMap.mem_of_lookup hn)
  simp only [Layout.fits, Bool.and_eq_true, decide_eq_true_eq] at hfits
  rw [desired_eq hn (by omega) (by omega), hn]

/-- Racks found at counts that are not negative and whose sum fits have a plan. -/
theorem exists_planned {dc : DataCenter} {found : List (Rack × StatefulSet)}
    (hracks : found.map (·.1) = dc.racks) (hnn : ∀ p ∈ found, 0 ≤ p.2.replicas)
    (hsum : (found.map (·.2.replicas)).sum < 2 ^ 31) :
    ∃ planned, ∀ statuses, Whole ⟨dc, found, planned, statuses⟩ := by
  have hvalues : (SortedMap.ofList (found.map fun p => (p.1, p.2.replicas))).values =
      found.map (·.2.replicas) := by
    rw [SortedMap.ofList_eq_mk (pairwise_of_racks hracks)]
    exact List.map_map
  have htotal := Layout.sum?_eq_some (List.forall_mem_map.mpr hnn) hsum
  refine ⟨Layout.step (SortedMap.ofList (found.map fun p => (p.1, p.2.replicas)))
    (found.map (·.2.replicas)).sum dc.spec.replicas.toInt, fun statuses => ⟨hracks, ?_⟩⟩
  unfold Layout.planned?
  rw [counts, hvalues, htotal]
  rfl

/-- A pass that finds all its racks plans them and decides with numbers that all fit 32 bits: those
of the plan, those its StatefulSets ask for and the one the rule that applies computes. It decides
neither that the racks are inconsistent nor to wait for a member to be decommissioned. -/
theorem decision_of_own_plan (dc : DataCenter) (found : List (Rack × StatefulSet))
    (hracks : found.map (·.1) = dc.racks) (hnn : ∀ p ∈ found, 0 ≤ p.2.replicas)
    (hsum : (found.map (·.2.replicas)).sum < 2 ^ 31) :
    ∃ planned, Layout.planned? (SortedMap.ofList (found.map fun p => (p.1, p.2.replicas)))
        dc.spec.replicas.toInt = some planned ∧
      (∀ p ∈ planned.entries, Layout.fits p.2 = true) ∧
      ∀ statuses, let v : Survey := ⟨dc, found, planned, statuses⟩
        (∀ p ∈ found, planned.find? p.1 = some (v.group p).desiredReplicas) ∧
        (∀ reason, v.decision ≠ .inconsistent reason) ∧
        (∀ r m status, v.decision ≠ .waitForDecommission r m status) ∧
        Policy v.outlook dc.previousPhase dc.spec.replicas.toInt v.decision := by
  obtain ⟨planned, hwhole⟩ := exists_planned hracks hnn hsum
  refine ⟨planned, (hwhole ⟨.empty⟩).plan, fits_planned (hwhole ⟨.empty⟩), fun statuses => ?_⟩
  have hv := hwhole statuses
  exact ⟨fun p hp => find?_planned hv hp, decision_ne_inconsistent hv,
    decision_ne_waitForDecommission hv, Outlook.policy_decide (nodup_groups hv) _ _⟩

/-- Two racks of a DataCenter that wants three replicas, edited from outside to five and none. -/
def edited : List (Rack × StatefulSet) := [(.new 0, Outlook.pods 5), (.new 1, Outlook.pods 0)]

theorem decision_of_edited : let dc := Fixture.dataCenter "dc" 3 2
    edited.map (·.1) = dc.racks ∧ (∀ p ∈ edited, 0 ≤ p.2.replicas) ∧
      (edited.map (·.2.replicas)).sum < 2 ^ 31 ∧
      ∃ planned, Layout.planned? (SortedMap.ofList (edited.map fun p => (p.1, p.2.replicas))) 3 =
          some planned ∧
        ∀ statuses reason, decision ⟨dc, edited, planned, statuses⟩ ≠ .inconsistent reason := by
  intro dc
  have hracks : edited.map (·.1) = dc.racks := rfl
  have hnn : ∀ p ∈ edited, 0 ≤ p.2.replicas := by
    simp only [edited, List.forall_mem_cons]
    decide
  have hsum : (edited.map (·.2.replicas)).sum < 2 ^ 31 := by decide
  obtain ⟨planned, hplan, -, h⟩ := decision_of_own_plan dc edited hracks hnn hsum
  exact ⟨hracks, hnn, hsum, planned, hplan, fun statuses => (h statuses).2.1⟩

end Pass.Survey

end RackOperator
