import Mathlib.Algebra.Order.BigOperators.Group.List
import Mathlib.Algebra.Order.Group.Int
import RackOperator.Proofs.Generations
import RackOperator.Proofs.Layouts
import RackOperator.Proofs.Pass.Survey

/-!
# What a plan leaves to decide

The plan of a pass moves at most one rack by one replica, and toward the total wanted
(`Survey.planned_cases`). So of the racks a pass has found at most one is to be grown or shrunk,
the guards against more than that never stop it, and each decision says where the total stands:
below the one wanted if a rack is grown, above it if one is shrunk or to be shrunk
(`Survey.course`). A decision behind the roll of racks left behind was made with none behind.
-/

namespace RackOperator

namespace Layout

/-- The better of a candidate and the best before it. -/
def better (best : Option (Rack × Int)) (c : Rack × Int) : Option (Rack × Int) :=
  match best with
  | none => some c
  | some b => if growsBefore c b then some c else some b

/-- The best of some candidates has no more replicas than each of them. The induction is on the
candidates still to be seen. -/
theorem foldl_better_le {cs : List (Rack × Int)} {best : Option (Rack × Int)} {c : Rack × Int}
    (h : cs.foldl better best = some c) : (∀ b ∈ best, c.2 ≤ b.2) ∧ ∀ d ∈ cs, c.2 ≤ d.2 := by
  refine foldl_choice_best (fun a b => a.2 ≤ b.2) (fun a => Int.le_refl a.2) Int.le_trans
    (fun best c => ?_) h
  cases best with
  | none => exact ⟨c, rfl, fun b hb => (by cases hb), Int.le_refl _⟩
  | some b =>
    by_cases hlt : growsBefore c b = true
    · refine ⟨c, if_pos hlt, fun b' hb => ?_, Int.le_refl _⟩
      cases hb
      exact le_of_growsBefore hlt
    · refine ⟨b, if_neg hlt, fun b' hb => ?_, le_of_not_growsBefore hlt⟩
      cases hb
      exact Int.le_refl _

/-- No candidate has fewer replicas than the one that is grown. -/
theorem rackToGrow?_le {cs : List (Rack × Int)} {c : Rack × Int} (h : rackToGrow? cs = some c) :
    ∀ d ∈ cs, c.2 ≤ d.2 :=
  have hfold : cs.foldl better none = some c := h
  (foldl_better_le hfold).2

end Layout

namespace Pass.Survey

variable {v : Survey}

/-- The replicas of all racks found. -/
def total (v : Survey) : Int := (v.counts.map (·.2)).sum

/-- The replicas wanted. -/
def wanted (v : Survey) : Int := max v.dc.spec.replicas.toInt 0

/-- The racks of a DataCenter are in order, and so are their counts. -/
theorem pairwise_of_racks {dc : DataCenter} {found : List (Rack × StatefulSet)}
    (h : found.map (·.1) = dc.racks) :
    (found.map fun p => (p.1, p.2.replicas)).Pairwise fun a b => a.1 < b.1 := by
  have hlt : (found.map (·.1)).Pairwise (· < ·) := by
    rw [h]
    exact Rack.pairwise_all _
  exact List.pairwise_map.mpr (List.pairwise_map.mp hlt)

theorem Whole.pairwise_counts (hv : v.Whole) : v.counts.Pairwise fun a b => a.1 < b.1 :=
  pairwise_of_racks hv.racks

/-- What is planned is one step from what was found, as a survey finds every rack once and in order.
-/
theorem planned_eq (hv : v.Whole) : v.planned =
    Layout.step ⟨v.counts, hv.pairwise_counts⟩ v.total v.dc.spec.replicas.toInt := by
  have hplan := hv.plan
  rw [SortedMap.ofList_eq_mk hv.pairwise_counts] at hplan
  obtain ⟨t, ht, he⟩ := Option.map_eq_some_iff.mp hplan
  have hsum := Layout.sumFrom?_eq ht
  rw [Int.zero_add] at hsum
  rw [← he, hsum]
  rfl

/-- The count wanted of a rack is the one planned, where this fits. -/
theorem desired_eq {p : Rack × StatefulSet} {n : Int} (h : v.planned.find? p.1 = some n)
    (hl : -2 ^ 31 ≤ n) (hu : n < 2 ^ 31) : (v.group p).desiredReplicas = n := by
  show (Int32.ofInt ((v.planned.find? p.1).getD 0)).toInt = n
  rw [h, Option.getD_some]
  exact Int32.toInt_ofInt_of_le hl hu

theorem find?_counts (hv : v.Whole) {p : Rack × StatefulSet} (hp : p ∈ v.found) :
    (⟨v.counts, hv.pairwise_counts⟩ : Layout.Counts).find? p.1 = some p.2.replicas :=
  SortedMap.lookup_eq_some hv.pairwise_counts
    (List.mem_map_of_mem (f := fun p : Rack × StatefulSet => (p.1, p.2.replicas)) hp)

/-- A rack that is to be grown has room for one more: it has the fewest replicas, and the total is
below one that fits. -/
theorem room_of_grown {q : Rack × Int} (hq : Layout.rackToGrow? v.counts = some q)
    (ht : v.total < v.wanted) : q.2 + 1 < 2 ^ 31 := by
  have hmem := Layout.rackToGrow?_mem hq
  have hmin := Layout.rackToGrow?_le hq
  have hwanted : v.wanted < 2 ^ 31 := by
    have := v.dc.spec.replicas.toInt_lt
    unfold wanted
    omega
  by_contra hfull
  -- the total is that of this rack at least
  have hle : q.2 ≤ v.total := by
    refine List.single_le_sum (fun n hn => ?_) q.2 (List.mem_map_of_mem (f := (·.2)) hmem)
    obtain ⟨d, hd, rfl⟩ := List.mem_map.mp hn
    have := hmin d hd
    omega
  omega

/-- One rack found is wanted at another count, the others at theirs. -/
def Only (v : Survey) (q : Rack × StatefulSet) (n : Int) : Prop :=
  (v.group q).desiredReplicas = n ∧
    ∀ p ∈ v.found, p.1 ≠ q.1 → (v.group p).desiredReplicas = p.2.replicas

/-- A plan that gives one rack another count leaves the others as they were found. -/
theorem only_of_insert (hv : v.Whole) {q : Rack × StatefulSet} {n : Int}
    (hl : -2 ^ 31 ≤ n) (hu : n < 2 ^ 31)
    (hp : v.planned = (⟨v.counts, hv.pairwise_counts⟩ : Layout.Counts).insert q.1 n) :
    v.Only q n := by
  refine ⟨desired_eq ?_ hl hu, fun p hmem hne => ?_⟩
  · rw [hp, SortedMap.find?_insert, if_pos rfl]
  · refine desired_eq ?_ p.2.replicas_ge p.2.replicas_lt
    rw [hp, SortedMap.find?_insert, if_neg fun h => hne h.symm]
    exact find?_counts hv hmem

/-- What is planned is what was found, but for at most one rack, whose count is moved by one. So one
scaling at a time is a property of the plan, and the decision has nothing to hold back. -/
theorem planned_moves (hv : v.Whole) :
    (v.total < v.wanted ∧ ∃ q ∈ v.found, q.2.replicas + 1 < 2 ^ 31 ∧
        v.planned = (⟨v.counts, hv.pairwise_counts⟩ : Layout.Counts).insert q.1
          (q.2.replicas + 1)) ∨
      (v.wanted < v.total ∧ ∃ q ∈ v.found, 0 < q.2.replicas ∧
        v.planned = (⟨v.counts, hv.pairwise_counts⟩ : Layout.Counts).insert q.1
          (q.2.replicas - 1)) ∨
      v.planned = ⟨v.counts, hv.pairwise_counts⟩ := by
  have hplan := planned_eq hv
  unfold Layout.step at hplan
  dsimp only at hplan
  -- The branches of one planning step, each with the rack it has picked.
  split at hplan
  next hup =>
    split at hplan
    next r n hgrow =>
      obtain ⟨q, hq, he⟩ := List.mem_map.mp (Layout.rackToGrow?_mem hgrow)
      cases he
      have hroom := room_of_grown hgrow hup
      exact .inl ⟨hup, q, hq, hroom, hplan⟩
    next => exact .inr (.inr hplan)
  next =>
    split at hplan
    next hdown =>
      split at hplan
      next r n hshrink =>
        obtain ⟨hmem, hpos⟩ := List.mem_filter.mp (Layout.rackToShrink?_mem hshrink)
        obtain ⟨q, hq, he⟩ := List.mem_map.mp hmem
        cases he
        exact .inr (.inl ⟨hdown, q, hq, of_decide_eq_true hpos, hplan⟩)
      next => exact .inr (.inr hplan)
    next => exact .inr (.inr hplan)

/-- The plan moves one rack by one toward the total wanted, or none. -/
theorem planned_cases (hv : v.Whole) :
    (v.total < v.wanted ∧ ∃ q ∈ v.found, v.Only q (q.2.replicas + 1)) ∨
      (v.wanted < v.total ∧ ∃ q ∈ v.found, 0 < q.2.replicas ∧ v.Only q (q.2.replicas - 1)) ∨
      ∀ p ∈ v.found, (v.group p).desiredReplicas = p.2.replicas := by
  rcases planned_moves hv with ⟨ht, q, hq, hroom, he⟩ | ⟨ht, q, hq, hpos, he⟩ | he
  · have hl := q.2.replicas_ge
    exact .inl ⟨ht, q, hq, only_of_insert hv (by omega) hroom he⟩
  · have hu := q.2.replicas_lt
    exact .inr (.inl ⟨ht, q, hq, hpos, only_of_insert hv (by omega) (by omega) he⟩)
  · refine .inr (.inr fun p hp => ?_)
    exact desired_eq (by rw [he]; exact find?_counts hv hp) p.2.replicas_ge p.2.replicas_lt

/-- Two racks wanted at other counts than theirs are one, so no pass has two to scale. -/
theorem eq_of_resized (hv : v.Whole) {p q : Rack × StatefulSet} (hp : p ∈ v.found)
    (hq : q ∈ v.found) (hpn : (v.group p).desiredReplicas ≠ p.2.replicas)
    (hqn : (v.group q).desiredReplicas ≠ q.2.replicas) : p.1 = q.1 := by
  have hone : ∀ {n : Int} {c : Rack × StatefulSet}, v.Only c n → p.1 = q.1 := by
    intro n c honly
    have hpc : p.1 = c.1 := by_contra fun hne => hpn (honly.2 p hp hne)
    have hqc : q.1 = c.1 := by_contra fun hne => hqn (honly.2 q hq hne)
    rw [hpc, hqc]
  rcases planned_cases hv with ⟨-, c, -, honly⟩ | ⟨-, c, -, -, honly⟩ | hstill
  · exact hone honly
  · exact hone honly
  · exact absurd (hstill p hp) hpn

/-- A rack is to be grown only below the total wanted. -/
theorem lt_wanted_of_scaleUp (hv : v.Whole) {p : Rack × StatefulSet} (hp : p ∈ v.found)
    (hm : (v.view p).mode = .scaleUp) : v.total < v.wanted := by
  have hlt : p.2.replicas < (v.group p).desiredReplicas := RackMode.classify_scaleUp hm
  rcases planned_cases hv with ⟨ht, -⟩ | ⟨-, q, hq, hpos, hone, hothers⟩ | hstill
  · exact ht
  · by_cases he : p.1 = q.1
    · rw [List.inj_on_of_nodup_map hv.nodup_racks hp hq he] at hlt
      omega
    · have := hothers p hp he
      omega
  · have := hstill p hp
    omega

/-- A rack is to be shrunk only above the total wanted, and only if it has a replica. -/
theorem wanted_lt_of_scaleDown (hv : v.Whole) {p : Rack × StatefulSet} (hp : p ∈ v.found)
    (hm : (v.view p).mode = .scaleDown) : v.wanted < v.total ∧ 0 < p.2.replicas := by
  have hlt : (v.group p).desiredReplicas < p.2.replicas := RackMode.classify_scaleDown hm
  rcases planned_cases hv with ⟨-, q, hq, hone, hothers⟩ | ⟨ht, q, hq, hpos, hone, hothers⟩ | hstill
  · by_cases he : p.1 = q.1
    · rw [List.inj_on_of_nodup_map hv.nodup_racks hp hq he] at hlt
      omega
    · have := hothers p hp he
      omega
  · by_cases he : p.1 = q.1
    · rw [List.inj_on_of_nodup_map hv.nodup_racks hp hq he]
      exact ⟨ht, hpos⟩
    · have := hothers p hp he
      omega
  · have := hstill p hp
    omega

theorem nodup_racksIn (hv : v.Whole) (m : RackMode) : (v.observation.racksIn m).Nodup := by
  have hracks : (v.observation.racks.map fun x => x.group.rack).Perm (v.found.map (·.1)) := by
    have hsort := (List.mergeSort_perm v.groups fun a b => decide (¬b.rack < a.rack)).map
      RackGroup.rack
    have hgroups : v.groups.map RackGroup.rack = v.found.map (·.1) := List.map_map
    rw [hgroups] at hsort
    unfold observation Observation.ofGroups
    rw [List.map_map]
    exact hsort
  exact (hracks.nodup_iff.mpr hv.nodup_racks).sublist (List.filter_sublist.map _)

/-- Nothing stops a pass for being asked to scale more than one rack. The check is there for plans
made otherwise: one made from the counts found moves a single rack. -/
theorem oneScaling (hv : v.Whole) : v.observation.OneScaling := by
  -- Two racks in a mode of scaling would both be planned at another count than theirs.
  have hlen : ∀ m, (∀ p : Rack × StatefulSet, (v.view p).mode = m →
      (v.group p).desiredReplicas ≠ p.2.replicas) → (v.observation.racksIn m).length ≤ 1 := by
    intro m hm
    have hnd := nodup_racksIn hv m
    have hall : ∀ r ∈ v.observation.racksIn m, ∀ r' ∈ v.observation.racksIn m, r = r' := by
      intro r hr r' hr'
      obtain ⟨p, hp, rfl, hpm⟩ := mem_racksIn hr
      obtain ⟨q, hq, rfl, hqm⟩ := mem_racksIn hr'
      exact eq_of_resized hv hp hq (hm p hpm) (hm q hqm)
    rcases hl : v.observation.racksIn m with _ | ⟨a, _ | ⟨b, rest⟩⟩
    · exact Nat.zero_le 1
    · exact Nat.le_refl 1
    · rw [hl] at hnd hall
      have hab := hall a List.mem_cons_self b (List.mem_cons_of_mem _ List.mem_cons_self)
      rw [hab] at hnd
      exact absurd List.mem_cons_self (List.nodup_cons.mp hnd).1
  refine ⟨?_, hlen _ fun p hm => ?_, hlen _ fun p hm => ?_⟩
  · by_contra hboth
    push Not at hboth
    obtain ⟨r, hr⟩ := List.exists_mem_of_ne_nil _ hboth.1
    obtain ⟨r', hr'⟩ := List.exists_mem_of_ne_nil _ hboth.2
    obtain ⟨p, hp, -, hpm⟩ := mem_racksIn hr
    obtain ⟨q, hq, -, hqm⟩ := mem_racksIn hr'
    have hup := lt_wanted_of_scaleUp hv hp hpm
    have hdown := (wanted_lt_of_scaleDown hv hq hqm).1
    omega
  · have hlt : p.2.replicas < (v.group p).desiredReplicas := RackMode.classify_scaleUp hm
    omega
  · have hlt : (v.group p).desiredReplicas < p.2.replicas := RackMode.classify_scaleDown hm
    omega

/-! ## Decisions -/

/-- What a pass may decide, and what is so then. -/
inductive Choice (v : Survey) : Decision → Prop
  /-- Racks are waited for. -/
  | waitForRacks (racks : List Rack) : Choice v (.waitForRacks racks)
  /-- Members are waited for. -/
  | waitForMembers (members : List String) : Choice v (.waitForMembers members)
  /-- A rack left behind is rolled. -/
  | updateRack {r : Rack} (h : r ∈ v.observation.racksIn .behind) : Choice v (.updateRack r)
  /-- A rack is grown. -/
  | scaleUp {r : Rack} {n : Int} (hcurrent : v.observation.racksIn .behind = [])
    (ht : v.total < v.wanted) : Choice v (.scaleUp r n)
  /-- A rack is shrunk, or its last member is to leave first. -/
  | scaleDown {d : Decision} (hcurrent : v.observation.racksIn .behind = [])
    (ht : v.wanted < v.total) (hphase : ∀ previous, d.phase previous = .scalingDown) : Choice v d
  /-- Everything has converged. -/
  | converged (hcurrent : v.observation.racksIn .behind = []) : Choice v
    (.converged (Decision.cleanupDue v.dc.previousPhase v.dc.spec.replicas.toInt))

/-- A rack that is to be shrunk has a last member, so there is somebody to ask. -/
theorem exists_last {p : Rack × StatefulSet} (hv : v.Whole) (hp : p ∈ v.found)
    (hpos : 0 < p.2.replicas) : ∃ m ∈ v.observation.membersOf p.1,
      m.ordinal = max (p.2.replicas - 1) 0 := by
  refine ⟨v.dc.naming.member p.1 (p.2.replicas - 1).toNat, ?_, ?_⟩
  · unfold Observation.membersOf
    rw [find?_eq_view hv hp]
    refine Naming.mem_members.mpr ⟨(p.2.replicas - 1).toNat, ?_, rfl⟩
    show _ < p.2.replicas.toNat
    omega
  · show ((p.2.replicas - 1).toNat : Int) = _
    omega

/-- Every decision of a pass is one of those its survey allows. Later proofs go through these cases
and never open the decision again. -/
theorem choice (hv : v.Whole) : v.Choice v.decision := by
  unfold decision
  rcases Decision.decide_cases v.observation v.dc.previousPhase v.dc.spec.replicas.toInt with
    ⟨hnone, -⟩ | ⟨racks, he⟩ | ⟨ms, he⟩ | ⟨-, he⟩
  · exact absurd (oneScaling hv) hnone
  · rw [he]
    exact .waitForRacks racks
  · rw [he]
    exact .waitForMembers ms
  rw [he]
  rcases Decision.proceed_cases v.observation (v.observation.racksIn .scaleUp)
      (v.observation.racksIn .scaleDown) v.dc.previousPhase v.dc.spec.replicas.toInt with
    ⟨r, hr, he⟩ | ⟨hcurrent, ⟨r, hr, g, hg, he⟩ | ⟨r, hr, g, hg, he⟩ | he⟩
  · rw [he]
    exact .updateRack hr
  · rw [he]
    obtain ⟨p, hp, -, hm⟩ := mem_racksIn hr
    exact .scaleUp hcurrent (lt_wanted_of_scaleUp hv hp hm)
  · rw [he]
    obtain ⟨p, hp, rfl, hm⟩ := mem_racksIn hr
    obtain ⟨ht, hpos⟩ := wanted_lt_of_scaleDown hv hp hm
    obtain rfl : g = v.group p := by
      rw [Observation.group?, find?_eq_view hv hp] at hg
      exact (Option.some.inj hg).symm
    -- The last member is there, so shrinking does not come to an inconsistency.
    obtain ⟨last, hlast, hord⟩ := exists_last hv hp hpos
    rcases Decision.shrink_cases v.observation p.1 (v.group p).existingReplicas with
      ⟨hnone, -⟩ | ⟨m, -, -, ⟨-, he⟩ | ⟨-, he⟩ | ⟨s, he⟩⟩
    · exact absurd hord (hnone last hlast)
    · rw [he]
      exact .scaleDown hcurrent ht fun _ => rfl
    · rw [he]
      exact .scaleDown hcurrent ht fun _ => rfl
    · rw [he]
      exact .scaleDown hcurrent ht fun _ => rfl
  · rw [he]
    exact .converged hcurrent

/-- No rack is behind when one is scaled, since rolling comes first. -/
theorem current_of_scales (hv : v.Whole) (h : v.decision.phase .running = .scalingUp ∨
    v.decision.phase .running = .scalingDown) : v.observation.racksIn .behind = [] := by
  have hc := choice hv
  generalize v.decision = d at hc h
  cases hc with
  | waitForRacks => rcases h with h | h <;> cases h
  | waitForMembers => rcases h with h | h <;> cases h
  | updateRack => rcases h with h | h <;> cases h
  | scaleUp hcurrent => exact hcurrent
  | scaleDown hcurrent => exact hcurrent
  | converged hcurrent => exact hcurrent

end Pass.Survey

end RackOperator
