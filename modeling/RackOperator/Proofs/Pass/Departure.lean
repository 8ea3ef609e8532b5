import RackOperator.Proofs.Pass.Convergence
import RackOperator.Proofs.Pass.Decommission
import RackOperator.Proofs.Pass.Plans

/-!
# From the request to leave to the smaller rack

A member that has been asked to leave cannot be taken back into the ring, and no pass remembers
that it was asked. What has the rack shrunk in the end is that each later pass makes the same plan:
while fewer replicas are wanted than there are, the rack to shrink is picked by the counts alone,
and the counts do not change before that rack is shrunk. So each pass waits, rolls a rack, or goes
on about that one member (`Departing`), and RUNNING is not stored as long as the member is part of
its rack (`not_running_until_removed`), whatever the members are reported to be.

It takes that fewer replicas stay wanted. If the total is raised again before the member is
removed, the counts are those wanted, and RUNNING is stored over a member that has left the ring.
And it takes that the phase was noted: a pass that waits stores the phase again that it has read,
so where the status of the pass that asked was refused, RUNNING is stored once more (`stranded`).
-/

namespace RackOperator

/-- The status of a member that a copy of the statuses gives. -/
def Answered.tells? (m : Member) : Answered → Option NodeStatus
  | ⟨.snapshot _, statuses⟩ => some (statuses.statusOf m.name)
  | _ => none

/-- A copy of the statuses was taken, and the member had this one. -/
def History.Tells (h : History) (m : Member) (status : NodeStatus) : Prop :=
  ∃ a ∈ h, a.tells? m = some status

/-- What a program that has come to its end has come to; nothing after a crash. -/
def Underway.result? {α : Type} (u : Underway α) : Option α :=
  match u.rest with
  | .done a => some a
  | _ => none

/-- A program that comes to its end while nothing else goes on has run over the store. Passes of
examples are run in a world and spoken of as runs. -/
theorem Underway.ran_forward {α : Type} (n : Nat) {w : World} (hw : w.storePlans = {})
    {u : Underway α} (hend : (u.forward n w).2.next? = none) :
    (∃ h, (u.forward n w).2.history = u.history ++ h ∧
      u.rest.Ran w.store h (u.forward n w).2.result? (u.forward n w).1.store) ∧
      (u.forward n w).1.storePlans = {} := by
  induction n generalizing w u with
  | zero =>
    refine ⟨⟨[], (List.append_nil _).symm, ?_⟩, hw⟩
    obtain ⟨h, rest⟩ := u
    cases rest with
    | done a => exact .done a _
    | crash => exact .crash _
    | perform e next => cases hend
  | succ n ih =>
    obtain ⟨h, rest⟩ := u
    cases rest with
    | done a => exact ⟨⟨[], (List.append_nil _).symm, .done a _⟩, hw⟩
    | crash => exact ⟨⟨[], (List.append_nil _).symm, .crash _⟩, hw⟩
    | perform e next =>
      obtain ⟨hs, hw'⟩ := Program.serves_perform hw e
      obtain ⟨⟨h', hhistory, hr⟩, hplans⟩ := ih hw' hend
      refine ⟨⟨⟨e, (w.perform e).1⟩ :: h', ?_, .perform hs hr⟩, hplans⟩
      rw [List.append_cons]
      exact hhistory

namespace Pass

open Relation (ReflTransGen)

variable {config : Config} {key : ClusterKey} {dc dc' : DataCenter} {v : Survey} {m : Member}
  {s s' : MemoryStore}

/-- A member is part of its rack: the rack's StatefulSet asks for it. -/
def Part (key : ClusterKey) (dc : DataCenter) (m : Member) (s : MemoryStore) : Prop :=
  m.ordinal < ((stored? key dc s m.rack).map StatefulSet.replicas).getD 0

instance : Decidable (Part key dc m s) := inferInstanceAs (Decidable (_ < _))

/-- A DataCenter has the racks and the names of another. -/
structure SameRacks (dc dc' : DataCenter) : Prop where
  racks : dc'.racks = dc.racks
  naming : dc'.naming = dc.naming

/-- The outside edits a DataCenter, but not its racks, its names and its status, and leaves its
StatefulSets with their counts. -/
structure Respecified (key : ClusterKey) (s s' : MemoryStore) : Prop where
  dataCenter : ∀ dc, s.dataCenters.find? ⟨key.ns, key.name⟩ = some dc →
    ∃ dc', s'.dataCenters.find? ⟨key.ns, key.name⟩ = some dc' ∧ SameRacks dc dc' ∧
      dc'.status = dc.status
  counts : ∀ dc, s.dataCenters.find? ⟨key.ns, key.name⟩ = some dc → ∀ r ∈ dc.racks,
    (stored? key dc s' r).map StatefulSet.replicas = (stored? key dc s r).map StatefulSet.replicas

/-- A pass over a DataCenter, which with what the pass has done is as `P` says, or a change from
outside between two passes. -/
inductive Event (key : ClusterKey) (P : DataCenter → History → Prop) :
    MemoryStore → MemoryStore → Prop
  | pass {config : Config} {s s' : MemoryStore} {h : History}
    {o : Option (Except OperatorError Action)} {dc : DataCenter}
    (hdc : s.dataCenters.find? ⟨key.ns, key.name⟩ = some dc) (hp : P dc h)
    (hr : Program.Ran (run config key).run s h o s') : Event key P s s'
  | edit {s s' : MemoryStore} (he : Respecified key s s') : Event key P s s'

theorem SameRacks.trans {dc₁ dc₂ dc₃ : DataCenter} (h : SameRacks dc₁ dc₂)
    (h' : SameRacks dc₂ dc₃) : SameRacks dc₁ dc₃ :=
  ⟨h'.racks.trans h.racks, h'.naming.trans h.naming⟩

/-- DataCenters of the same racks and names find the same stored. -/
theorem SameRacks.stored? (h : SameRacks dc dc') :
    Pass.stored? key dc' s = Pass.stored? key dc s := by
  unfold Pass.stored?
  rw [h.naming]

/-! ## The rack to shrink -/

namespace Survey

/-- The rack with the most replicas, the last of these. -/
def pick? (v : Survey) : Option (Rack × Int) :=
  Layout.rackToShrink? (v.counts.filter fun p => 0 < p.2)

/-- Where fewer replicas are wanted than there are, the plan is for one less in the rack picked, and
for what there is in the others. -/
theorem planned_of_pick (hv : v.Whole) (ht : v.wanted < v.total) : v.planned =
    match v.pick? with
    | some (r, n) => (⟨v.counts, hv.pairwise_counts⟩ : Layout.Counts).insert r (n - 1)
    | none => ⟨v.counts, hv.pairwise_counts⟩ := by
  have hnot : ¬v.total < v.wanted := by omega
  rw [planned_eq hv]
  unfold Layout.step
  exact (if_neg hnot).trans (if_pos ht)

/-- The rack picked is one that was found, with a member to give away. -/
theorem mem_of_pick {r : Rack} {n : Int} (h : v.pick? = some (r, n)) :
    ∃ q ∈ v.found, q.1 = r ∧ q.2.replicas = n ∧ 0 < n := by
  obtain ⟨hmem, hpos⟩ := List.mem_filter.mp (Layout.rackToShrink?_mem h)
  obtain ⟨q, hq, he⟩ := List.mem_map.mp hmem
  cases he
  exact ⟨q, hq, rfl, rfl, of_decide_eq_true hpos⟩

theorem only_of_pick (hv : v.Whole) (ht : v.wanted < v.total) {q : Rack × StatefulSet}
    (h : v.pick? = some (q.1, q.2.replicas)) : v.Only q (q.2.replicas - 1) := by
  obtain ⟨-, -, -, -, hpos⟩ := mem_of_pick h
  have hu := q.2.replicas_lt
  have hplan := planned_of_pick hv ht
  rw [h] at hplan
  exact only_of_insert hv (by omega) (by omega) hplan

/-- The rack picked is to be shrunk. -/
theorem shrinks_of_pick (hv : v.Whole) (ht : v.wanted < v.total) {r : Rack} {n : Int}
    (h : v.pick? = some (r, n)) : ∃ q ∈ v.found, (v.group q).Shrinks := by
  obtain ⟨q, hq, rfl, rfl, -⟩ := mem_of_pick h
  refine ⟨q, hq, ?_⟩
  show (v.group q).desiredReplicas < q.2.replicas
  rw [(only_of_pick hv ht h).1]
  omega

/-- A rack that is to be shrunk is the one picked, so there is one at most. -/
theorem pick_of_shrinks (hv : v.Whole) {p : Rack × StatefulSet} (hp : p ∈ v.found)
    (hdown : (v.group p).Shrinks) :
    v.wanted < v.total ∧ v.pick? = some (p.1, p.2.replicas) := by
  have hlt : (v.group p).desiredReplicas < p.2.replicas := hdown
  have ht : v.wanted < v.total :=
    (wanted_lt_of_scaleDown hv hp (RackMode.classify_scaleDown_iff.mpr hdown)).1
  refine ⟨ht, ?_⟩
  cases hpick : v.pick? with
  | none =>
    have hplan := planned_of_pick hv ht
    rw [hpick] at hplan
    have hsame : (v.group p).desiredReplicas = p.2.replicas :=
      desired_eq (by rw [hplan]; exact find?_counts hv hp) p.2.replicas_ge p.2.replicas_lt
    omega
  | some c =>
    obtain ⟨q, hq, hrack, hcount, -⟩ := mem_of_pick (r := c.1) (n := c.2) hpick
    obtain rfl : (q.1, q.2.replicas) = c := Prod.ext hrack hcount
    -- The plan lowers one rack alone, so the rack that shrinks is the one picked.
    have honly := only_of_pick hv ht hpick
    have he : p.1 = q.1 := by
      by_contra hne
      have hsame := honly.2 p hp hne
      omega
    rw [List.inj_on_of_nodup_map hv.nodup_racks hp hq he]

end Survey

/-- A decision that waits, rolls a rack, or is about one member: it is asked to leave, or its rack
is shrunk to its ordinal. -/
inductive Departing (m : Member) : Decision → Prop
  | waitForRacks (racks : List Rack) : Departing m (.waitForRacks racks)
  | waitForMembers (members : List String) : Departing m (.waitForMembers members)
  | updateRack (r : Rack) : Departing m (.updateRack r)
  | decommission : Departing m (.decommission m.rack m)
  | scaleDown : Departing m (.scaleDown m.rack m.ordinal m)

/-- The member is the last of the rack that is to be shrunk. -/
structure Survey.Drops (v : Survey) (m : Member) : Prop where
  fewer : v.wanted < v.total
  pick : v.pick? = some (m.rack, m.ordinal + 1)
  member : m = v.dc.naming.member m.rack m.ordinal

namespace Survey

/-- The last member of a rack that is to be shrunk is the one to be dropped. -/
theorem drops_last (hv : v.Whole) {p : Rack × StatefulSet} (hp : p ∈ v.found)
    (hdown : (v.group p).Shrinks) : v.Drops (v.outlook.last (v.group p)) := by
  obtain ⟨ht, hpick⟩ := pick_of_shrinks hv hp hdown
  refine ⟨ht, ?_, rfl⟩
  rw [hpick]
  show some (p.1, p.2.replicas) = some (p.1, p.2.replicas - 1 + 1)
  rw [Int.sub_add_cancel]

/-- There is one such member, as there is one such rack and a member's ordinal is fixed by its
count. -/
theorem Drops.eq {m' : Member} (hd : v.Drops m) (hd' : v.Drops m') : m = m' := by
  have hpick := hd.pick.symm.trans hd'.pick
  simp only [Option.some.injEq, Prod.mk.injEq] at hpick
  have hordinal : m.ordinal = m'.ordinal := by omega
  rw [hd.member, hd'.member, hpick.1, hordinal]

/-- What a pass decides while a member is to be dropped: to wait, to roll a rack, to ask the member
to leave, or to remove it. -/
theorem Drops.departing (hv : v.Whole) (hd : v.Drops m) : Departing m v.decision := by
  have hrule : Policy v.outlook v.dc.previousPhase v.dc.spec.replicas.toInt v.decision :=
    Outlook.policy_decide (nodup_groups hv) _ _
  have hfound : ∀ g ∈ v.outlook.groups, ∃ p ∈ v.found, v.group p = g := fun g hg =>
    List.mem_map.mp hg
  have hlast : ∀ g ∈ v.outlook.groups, g.Shrinks → v.outlook.last g = m := by
    intro g hg hdown
    obtain ⟨p, hp, rfl⟩ := hfound g hg
    exact (drops_last hv hp hdown).eq hd
  -- By the rule that applied: those that grow, or find nothing to do, contradict that fewer
  -- replicas are wanted; those that shrink are about the member to be dropped.
  generalize he : v.decision = d at hrule ⊢
  cases hrule with
  | bothWays => exact absurd he (decision_ne_inconsistent hv _)
  | severalUp => exact absurd he (decision_ne_inconsistent hv _)
  | severalDown => exact absurd he (decision_ne_inconsistent hv _)
  | waitForRacks => exact .waitForRacks _
  | waitForMembers => exact .waitForMembers _
  | updateRack => exact .updateRack _
  | scaleUp _ hg hup =>
    obtain ⟨p, hp, rfl⟩ := hfound _ hg
    have hlt := lt_wanted_of_scaleUp hv hp (RackMode.classify_scaleUp_iff.mpr hup)
    exact absurd hlt (not_lt_of_gt hd.fewer)
  | decommission _ hg hdown =>
    obtain rfl := hlast _ hg hdown
    exact .decommission
  | scaleDown _ hg hdown =>
    obtain rfl := hlast _ hg hdown
    exact .scaleDown
  | noMember => exact absurd he (decision_ne_inconsistent hv _)
  | converged _ hdone =>
    obtain ⟨q, hq, hdown⟩ := shrinks_of_pick hv hd.fewer hd.pick
    exact absurd hdown (hdone _ (List.mem_map_of_mem hq)).2

/-- A member that a pass asks to leave is to be dropped. -/
theorem drops_of_decommission (hv : v.Whole) {r : Rack} (h : v.decision = .decommission r m) :
    v.Drops m := by
  have hrule : Policy v.outlook v.dc.previousPhase v.dc.spec.replicas.toInt v.decision :=
    Outlook.policy_decide (nodup_groups hv) _ _
  rw [h] at hrule
  cases hrule with
  | decommission _ hg hdown =>
    obtain ⟨p, hp, rfl⟩ := List.mem_map.mp hg
    exact drops_last hv hp hdown

/-- With the same counts and fewer replicas wanted, the same member is to be dropped. How many fewer
does not matter, since one leaves at a time. -/
theorem Drops.of_counts {v₀ : Survey} (hd : v₀.Drops m) (hcounts : v.counts = v₀.counts)
    (hnaming : v.dc.naming = v₀.dc.naming) (ht : v.wanted < v₀.total) : v.Drops m := by
  refine ⟨?_, ?_, ?_⟩
  · unfold total
    rw [hcounts]
    exact ht
  · unfold pick?
    rw [hcounts]
    exact hd.pick
  · rw [hnaming]
    exact hd.member

end Survey

/-! ## Runs -/

/-- None of these decisions ends in RUNNING, unless it was RUNNING before and is kept. -/
theorem Departing.phase_ne_running {d : Decision} {previous : DataCenterPhase}
    (hd : Departing m d) (hp : previous ≠ .running) : d.phase previous ≠ .running := by
  cases hd with
  | waitForRacks => exact hp
  | waitForMembers => exact hp
  | updateRack => exact nofun
  | decommission => exact nofun
  | scaleDown => exact nofun

/-- A pass that leaves the member in its rack leaves all counts, as it could only have changed that
one: the plan of a total above the wanted one moves no other rack. -/
theorem counts_acted (hv : v.Whole) (hf : ∀ p ∈ v.found, stored? key v.dc s p.1 = some p.2)
    (hd : Departing m v.decision) (hpart : Part key v.dc m (v.acted key s)) :
    ∀ r ∈ v.dc.racks, (stored? key v.dc (v.acted key s) r).map StatefulSet.replicas =
      (stored? key v.dc s r).map StatefulSet.replicas := by
  intro r hr
  rcases acted_cases v key s with ⟨sts, hw, hacted⟩ | ⟨hc, -⟩ | ⟨-, -, hacted⟩
  · obtain ⟨p, hp, hname, hmode⟩ := Survey.written_mode hv hw
    rw [hacted] at hpart ⊢
    rcases hmode with ⟨-, -, hn⟩ | ⟨hup, -⟩ | ⟨⟨m', hdown⟩, -, hn, -⟩
    · rw [stored?_replaced hv hf hp hname hr]
      split
      next he =>
        rw [he, hf p hp]
        exact congrArg some ((MemoryStore.replicas_keeping _ _ _).trans hn)
      next => rfl
    · rw [hup] at hd
      cases hd
    · -- the member would be gone
      rw [hdown] at hd
      generalize hcount : p.2.replicas - 1 = n at hd hn
      generalize hrack : p.1 = rack at hd
      cases hd with
      | scaleDown =>
        unfold Part at hpart
        rw [stored?_replaced hv hf hp hname (hrack ▸ hv.mem_racks hp), if_pos hrack.symm] at hpart
        change m.ordinal < (_ : StatefulSet).replicas at hpart
        rw [MemoryStore.replicas_keeping, hn] at hpart
        exact absurd hpart (Int.lt_irrefl _)
  · rw [hc] at hd
    cases hd
  · rw [hacted]

/-- Since the store was `s₀` no count has changed, and the phase stored is not RUNNING. -/
structure Awaiting (key : ClusterKey) (dc : DataCenter) (s₀ s : MemoryStore) : Prop where
  dataCenter : ∃ dc', s.dataCenters.find? ⟨key.ns, key.name⟩ = some dc' ∧ SameRacks dc dc' ∧
    dc'.previousPhase ≠ .running
  counts : ∀ r ∈ dc.racks, (stored? key dc s r).map StatefulSet.replicas =
    (stored? key dc s₀ r).map StatefulSet.replicas

/-- Whether the status is stored or refused, the phase is not RUNNING: it is that of the decision,
or the one before. -/
theorem awaiting_reported {s₀ : MemoryStore} {status : DataCenterStatus}
    (hdc : s.dataCenters.find? ⟨key.ns, key.name⟩ = some dc')
    (hsame : SameRacks dc dc')
    (hold : (∃ u, (reported key s status).1 = .ok u) ∨ dc'.previousPhase ≠ .running)
    (hnew : status.phase ≠ .running)
    (hcounts : ∀ r ∈ dc.racks, (stored? key dc s r).map StatefulSet.replicas =
      (stored? key dc s₀ r).map StatefulSet.replicas) :
    Awaiting key dc s₀ (reported key s status).2 := by
  refine ⟨?_, ?_⟩
  · have hstored : SameRacks dc { dc' with status := some status } := ⟨hsame.racks, hsame.naming⟩
    -- A refused status leaves the old one, which is why the old phase matters.
    rcases hold with ⟨u, hok⟩ | hold
    · exact ⟨_, MemoryStore.find?_of_acknowledged hdc hok, hstored, hnew⟩
    · rcases MemoryStore.find?_replaceDataCenterStatus_cases hdc status with h | h
      · exact ⟨dc', h, hsame, hold⟩
      · exact ⟨_, h, hstored, hnew⟩
  · rw [stored?_of_eq (statefulSets_reported s status)]
    exact hcounts

section Asked

variable {v₀ : Survey} {s₀ : MemoryStore} (hv₀ : v₀.Whole)
  (hf₀ : ∀ p ∈ v₀.found, stored? key v₀.dc s₀ p.1 = some p.2) (hd : v₀.Drops m)

include hv₀ hf₀ hd

/-- As long as fewer replicas are wanted, a pass that leaves the member in its rack leaves all
counts, and stores no RUNNING. This is the step of the induction over passes. -/
theorem awaiting_pass {h : History} {o : Option (Except OperatorError Action)}
    (ha : Awaiting key v₀.dc s₀ s) (hdc : s.dataCenters.find? ⟨key.ns, key.name⟩ = some dc)
    (hfewer : wanted dc < total key v₀.dc s₀) (hr : Program.Ran (run config key).run s h o s')
    (hpart : Part key v₀.dc m s') : Awaiting key v₀.dc s₀ s' := by
  obtain ⟨⟨dc', hdc', hsame, hphase⟩, hcounts⟩ := ha
  cases hdc.symm.trans hdc'
  -- A pass that finds the DataCenter and all racks either overflows or settles.
  cases ended_of_ran hr with
  | gone hnone =>
    rw [hdc] at hnone
    cases hnone
  | created hdc₁ hm =>
    cases hdc.symm.trans hdc₁
    refine absurd (List.filter_eq_nil_iff.mpr fun r hr => ?_) hm
    rw [hsame.racks, ← hv₀.racks] at hr
    obtain ⟨p, hp, rfl⟩ := List.mem_map.mp hr
    have hcount := hcounts _ (hv₀.mem_racks hp)
    rw [hf₀ p hp] at hcount
    obtain ⟨sts, hsts, -⟩ := Option.map_eq_some_iff.mp hcount
    rw [hsame.stored?, hsts]
    exact Bool.false_ne_true
  | overflowed hdc₁ =>
    refine ⟨⟨dc, ?_, hsame, hphase⟩, ?_⟩
    · rw [dataCenters_served]
      exact hdc
    · rw [stored?_of_eq (statefulSets_served _ s)]
      exact hcounts
  | @settled v hv hreads status hnew =>
    cases hdc.symm.trans hreads.dataCenter
    have hf := found_served hreads
    -- The counts are those of the request, so the member to be dropped is the same.
    have hdrops : v.Drops m := by
      refine hd.of_counts ?_ hsame.naming ?_
      · rw [Survey.counts_stored hv hreads.found, Survey.counts_stored hv₀ hf₀, hsame.racks,
          hsame.stored?]
        exact List.map_congr_left fun r hr =>
          congrArg (fun n : Option Int => (r, n.getD 0)) (hcounts r hr)
      · rw [total_eq hv₀ hf₀]
        exact hfewer
    have hdeparting := hdrops.departing hv
    have hleft : Part key v.dc m (v.acted key (served key v.dc s)) := by
      unfold Part at hpart ⊢
      rwa [stored?_of_eq (statefulSets_reported _ _), ← hsame.stored?] at hpart
    refine awaiting_reported (dataCenter_acted hreads) hsame (.inr hphase) ?_ fun r hrack => ?_
    · rw [hnew]
      exact hdeparting.phase_ne_running hphase
    · rw [← hcounts r hrack, ← hsame.stored?, ← hsame.stored?, ← stored?_of_eq
        (statefulSets_served v.dc s)]
      exact counts_acted hv hf hdeparting hleft r (hsame.racks ▸ hrack)

end Asked

/-- An edit keeps the counts and the phase, so it keeps the member awaited. -/
theorem awaiting_respecified {s₀ : MemoryStore} (ha : Awaiting key dc s₀ s)
    (he : Respecified key s s') : Awaiting key dc s₀ s' := by
  obtain ⟨⟨dc₁, hdc₁, hsame, hphase⟩, hcounts⟩ := ha
  obtain ⟨dc₂, hdc₂, hsame', hstatus⟩ := he.dataCenter dc₁ hdc₁
  have hkept := he.counts dc₁ hdc₁
  rw [hsame.racks, hsame.stored?, hsame.stored?] at hkept
  refine ⟨⟨dc₂, hdc₂, hsame.trans hsame', ?_⟩, fun r hr => (hkept r hr).trans (hcounts r hr)⟩
  unfold DataCenter.previousPhase at hphase ⊢
  rwa [hstatus]

/-- A pass asks a member to leave only by deciding so. -/
theorem decommission_of_asked {d : Decision} {es : List Effect} (ha : Asked config d es)
    (hm : .request m .decommission ∈ es) : ∃ r, d = .decommission r m := by
  cases d with
  | decommission r m' =>
    obtain ⟨n, -, rfl⟩ := ha
    rcases List.mem_cons.mp hm with he | hm
    · cases he
    · cases List.eq_of_mem_replicate hm
      exact ⟨r, rfl⟩
  | _ =>
    cases ha
    exact absurd hm List.not_mem_nil

/-- **No member is stranded while fewer replicas are wanted.** A pass asks a member to leave, and
its status is stored or RUNNING was not the phase before. Then follow passes and edits in any
number, with members in any status, the replicas wanted at each pass being fewer than the racks had
at the request. As long as the member is part of its rack, all racks keep their counts, and the
phase stored is not RUNNING. -/
theorem not_running_until_removed {s₀ s₁ : MemoryStore} {h : History}
    {o : Option (Except OperatorError Action)}
    (hdc : s₀.dataCenters.find? ⟨key.ns, key.name⟩ = some dc)
    (hr : Program.Ran (run config key).run s₀ h o s₁) (hasked : leave m ∈ h)
    (hnoted : (∃ a, o = some (.ok a)) ∨ dc.previousPhase ≠ .running)
    (hstays : ReflTransGen (fun s s' => Event key (fun dc' _ => wanted dc' < total key dc s₀) s s' ∧
      Part key dc m s') s₁ s) :
    counts key dc s = counts key dc s₀ ∧
      ∀ dc', s.dataCenters.find? ⟨key.ns, key.name⟩ = some dc' → dc'.previousPhase ≠ .running := by
  have hsidecar : .request m .decommission ∈ History.sidecars h :=
    List.mem_filter.mpr ⟨List.mem_map_of_mem hasked, rfl⟩
  have hnone : History.Stores h → False := fun hs => by
    rw [hs.sidecars] at hsidecar
    exact absurd hsidecar List.not_mem_nil
  -- A pass that asks a sidecar has settled; the other ends only call the store.
  cases ended_of_ran hr with
  | gone _ hh => exact (hnone hh).elim
  | created _ _ hh => exact (hnone hh).elim
  | overflowed _ _ hh =>
    rw [hh] at hsidecar
    exact absurd hsidecar List.not_mem_nil
  | @settled v hv hreads status hphase hh =>
    cases hdc.symm.trans hreads.dataCenter
    obtain ⟨r, hdecision⟩ := decommission_of_asked hh hsidecar
    have hdrops := Survey.drops_of_decommission hv hdecision
    have hidle : v.acted key (served key v.dc s₀) = served key v.dc s₀ :=
      acted_of_idle (by rw [hdecision]; rfl) (by rw [hdecision]; exact nofun) _
    have hstored : (∃ u, (reported key (v.acted key (served key v.dc s₀)) status).1 = .ok u) ∨
        v.dc.previousPhase ≠ .running := by
      refine hnoted.imp_left fun ⟨a, ha⟩ => ?_
      cases hok : (reported key (v.acted key (served key v.dc s₀)) status).1 with
      | ok u => exact ⟨u, rfl⟩
      | error e =>
        rw [hok] at ha
        cases ha
    have hawaits : Awaiting key v.dc s₀ s := by
      -- On what follows the request, passes and edits; the first link is the status of the asking
      -- pass.
      induction hstays with
      | refl =>
        refine awaiting_reported (dataCenter_acted hreads) ⟨rfl, rfl⟩ hstored ?_ fun r _ => ?_
        · rw [hphase, hdecision]
          exact nofun
        · rw [hidle, stored?_of_eq (statefulSets_served v.dc s₀)]
      | tail _ hlast ih =>
        obtain ⟨hevent, hpart⟩ := hlast
        cases hevent with
        | pass hdc₁ hfewer hran =>
          exact awaiting_pass hv hreads.found hdrops ih hdc₁ hfewer hran hpart
        | edit he => exact awaiting_respecified ih he
    refine ⟨List.map_congr_left fun r hr => ?_, fun dc' hdc' => ?_⟩
    · rw [hawaits.counts r hr]
    · obtain ⟨dc₁, hdc₁, -, hne⟩ := hawaits.dataCenter
      cases hdc'.symm.trans hdc₁
      exact hne

/-! ## Three runs -/

/-- A pass over the small DataCenter, with nothing else going on. -/
def passed (w : World) : World × Course := (Underway.fresh (run {} smallKey)).forward 30 w

theorem ran_passed {w : World} (hw : w.storePlans = {}) (hend : (passed w).2.next? = none) :
    Program.Ran (run {} smallKey).run w.store (passed w).2.history (passed w).2.result?
      (passed w).1.store ∧ (passed w).1.storePlans = {} := by
  obtain ⟨⟨h, hhistory, hr⟩, hplans⟩ := Underway.ran_forward 30 hw hend
  have he : (passed w).2.history = h := hhistory
  rw [he]
  exact ⟨hr, hplans⟩

/-- The DataCenter is stored with another total and another generation. -/
def resize (key : ClusterKey) (replicas : Int32) (generation : Int64) (s : MemoryStore) :
    MemoryStore :=
  match s.dataCenters.find? ⟨key.ns, key.name⟩ with
  | none => s
  | some dc => { s with dataCenters := s.dataCenters.insert ⟨key.ns, key.name⟩ { dc with
      metadata := { dc.metadata with generation := some generation }
      spec := { dc.spec with replicas } } }

/-- A StatefulSet reports no pods. -/
def unready (k : NamespacedName) (s : MemoryStore) : MemoryStore :=
  match s.statefulSets.find? k with
  | none => s
  | some sts => { s with statefulSets := s.statefulSets.insert k { sts with status := none } }

theorem respecified_resize (key : ClusterKey) (replicas : Int32) (generation : Int64)
    (s : MemoryStore) : Respecified key s (resize key replicas generation s) := by
  unfold resize
  split
  next hnone => exact ⟨fun dc hdc => absurd (hnone.symm.trans hdc) nofun, fun _ _ _ _ => rfl⟩
  next dc hdc =>
    refine ⟨fun dc₁ hdc₁ => ?_, fun _ _ _ _ => rfl⟩
    cases hdc.symm.trans hdc₁
    exact ⟨_, (SortedMap.find?_insert _ _ _ _).trans (if_pos rfl), ⟨rfl, rfl⟩, rfl⟩

theorem respecified_unready (key : ClusterKey) (k : NamespacedName) (s : MemoryStore) :
    Respecified key s (unready k s) := by
  unfold unready
  split
  next => exact ⟨fun dc hdc => ⟨dc, hdc, ⟨rfl, rfl⟩, rfl⟩, fun _ _ _ _ => rfl⟩
  next sts hsts =>
    refine ⟨fun dc hdc => ⟨dc, hdc, ⟨rfl, rfl⟩, rfl⟩, fun dc _ r _ => ?_⟩
    unfold stored?
    dsimp only
    rw [SortedMap.find?_insert]
    split
    next he =>
      rw [← he, hsts]
      rfl
    next => rfl

/-- The phase in the status stored. -/
def phase? (key : ClusterKey) (s : MemoryStore) : Option DataCenterPhase :=
  ((s.dataCenters.find? ⟨key.ns, key.name⟩).bind (·.status)).map (·.phase)

/-- A run in which a pass asks a member to leave, with success, and the phase stored then is not
RUNNING. Each later pass is over a DataCenter that wants `n` replicas and reads that the member is
DECOMMISSIONED. The member is part of its rack throughout, and RUNNING is stored in the end. -/
def Stranded (key : ClusterKey) (dc : DataCenter) (n : Int32)
    (o : Option (Except OperatorError Action)) : Prop :=
  ∃ s₀ h s₁ s m, s₀.dataCenters.find? ⟨key.ns, key.name⟩ = some dc ∧
    Program.Ran (run {} key).run s₀ h o s₁ ∧ leave m ∈ h ∧ phase? key s₁ ≠ some .running ∧
    ReflTransGen (fun s s' =>
      Event key (fun dc' h => dc'.spec.replicas = n ∧ h.Tells m .decommissioned) s s' ∧
        Part key dc m s') s₁ s ∧
    phase? key s = some .running

/-- The small DataCenter with its one member, of which none is wanted; some status writes are to be
refused. -/
def asking (refused : Nat) : World :=
  let w := (smallWatch 0 1 (SortedMap.insert {} (podKey smallRack 0) .normal)).scene.world
  { w with store := { w.store with refusedStatusWrites := refused } }

/-- The member has been asked to leave and is reported DECOMMISSIONED, and the store is changed. -/
def departed (refused : Nat) (change : MemoryStore → MemoryStore) : World :=
  let w := (passed (asking refused)).1
  { w with
    store := change w.store
    cache := SortedMap.insert {} (podKey smallRack 0) .decommissioned }

/-- Its replica is wanted again. -/
def raised : World := departed 0 (resize smallKey 1 2)

/-- Its rack is not ready. -/
def waiting (refused : Nat) : World := departed refused (unready smallRack)

theorem exists_ok {o : Option (Except OperatorError Action)} (h : o.map Except.isOk = some true) :
    ∃ a, o = some (.ok a) := by
  obtain ⟨r, rfl, hr⟩ := Option.map_eq_some_iff.mp h
  cases r with
  | ok a => exact ⟨a, rfl⟩
  | error e => cases hr

theorem exists_error {o : Option (Except OperatorError Action)}
    (h : o.map Except.isOk = some false) : ∃ e, o = some (.error e) := by
  obtain ⟨r, rfl, hr⟩ := Option.map_eq_some_iff.mp h
  cases r with
  | ok a => cases hr
  | error e => exact ⟨e, rfl⟩

/-- The pass that asks the member, run to its end over the world of the example. -/
theorem ran_asking (refused : Nat) (hend : (passed (asking refused)).2.next? = none)
    (hasked : ∃ a ∈ (passed (asking refused)).2.history, a.leaver? = some smallMember) :
    Program.Ran (run {} smallKey).run (asking refused).store (passed (asking refused)).2.history
        (passed (asking refused)).2.result? (passed (asking refused)).1.store ∧
      leave smallMember ∈ (passed (asking refused)).2.history ∧
      (passed (asking refused)).1.storePlans = {} := by
  obtain ⟨hr, hplans⟩ := ran_passed (w := asking refused) rfl hend
  obtain ⟨a, ha, hleave⟩ := hasked
  rw [Answered.eq_of_leaver? hleave] at ha
  exact ⟨hr, ha, hplans⟩

/-- A pass behind it, with what it tells of the member. -/
theorem event_passed {n : Int32} {w : World} (hw : w.storePlans = {})
    (hend : (passed w).2.next? = none)
    (hdc : (w.store.dataCenters.find? smallKey).map (·.spec.replicas) = some n)
    (htold : ∃ a ∈ (passed w).2.history, a.tells? smallMember = some .decommissioned) :
    Event smallKey (fun dc h => dc.spec.replicas = n ∧ h.Tells smallMember .decommissioned)
      w.store (passed w).1.store := by
  obtain ⟨dc, hdc, hn⟩ := Option.map_eq_some_iff.mp hdc
  exact .pass hdc ⟨hn, htold⟩ (ran_passed hw hend).1

/-- **Members that are stranded.** The replica is wanted again when its member has left the ring:
the rack is rolled, and RUNNING is stored. Or none is wanted all along, but the status of the pass
that asked is refused: the next pass finds the rack not ready and stores RUNNING, as before. -/
theorem stranded : (∃ a, Stranded smallKey (small 1 0 1) 1 (some (.ok a))) ∧
    ∃ e, Stranded smallKey (small 1 0 1) 0 (some (.error e)) := by
  constructor
  · obtain ⟨hr, hasked, hplans⟩ := ran_asking 0 (by decide +kernel) (by decide +kernel)
    obtain ⟨a, ho⟩ := exists_ok (o := (passed (asking 0)).2.result?) (by decide +kernel)
    rw [ho] at hr
    -- the edit moves the generation on, so the rack is rolled before everything has converged
    have hroll := event_passed (n := 1) (w := raised) hplans
      (by decide +kernel) (by decide +kernel) (by decide +kernel)
    have hplans' := (ran_passed (w := raised) hplans (by decide +kernel)).2
    have hrun := event_passed (n := 1) (w := (passed raised).1) hplans'
      (by decide +kernel) (by decide +kernel) (by decide +kernel)
    refine ⟨a, _, _, _, _, smallMember, rfl, hr, hasked, by decide +kernel,
      ((ReflTransGen.single ⟨.edit (respecified_resize smallKey 1 2 _), ?_⟩).tail
        ⟨hroll, ?_⟩).tail ⟨hrun, ?_⟩, by decide +kernel⟩
    all_goals decide +kernel
  · obtain ⟨hr, hasked, hplans⟩ := ran_asking 1 (by decide +kernel) (by decide +kernel)
    obtain ⟨e, ho⟩ := exists_error (o := (passed (asking 1)).2.result?) (by decide +kernel)
    rw [ho] at hr
    have hwait := event_passed (n := 0) (w := waiting 1) hplans
      (by decide +kernel) (by decide +kernel) (by decide +kernel)
    refine ⟨e, _, _, _, _, smallMember, rfl, hr, hasked, by decide +kernel,
      (ReflTransGen.single ⟨.edit (respecified_unready smallKey smallRack _), ?_⟩).tail
        ⟨hwait, ?_⟩, by decide +kernel⟩
    all_goals decide +kernel

/-- While the rack is not ready the member is not removed, and the phase stays that of the pass that
asked. So the conditions for not being stranded are met. -/
theorem member_awaited : ∃ s₀ s₁ s h a,
    s₀.dataCenters.find? smallKey = some (small 1 0 1) ∧
      Program.Ran (run {} smallKey).run s₀ h (some (.ok a)) s₁ ∧ leave smallMember ∈ h ∧
      ReflTransGen (fun s s' =>
        Event smallKey (fun dc _ => wanted dc < total smallKey (small 1 0 1) s₀) s s' ∧
          Part smallKey (small 1 0 1) smallMember s') s₁ s ∧
      counts smallKey (small 1 0 1) s = counts smallKey (small 1 0 1) s₀ ∧
      ∀ dc, s.dataCenters.find? smallKey = some dc → dc.previousPhase ≠ .running := by
  obtain ⟨hr, hasked, hplans⟩ := ran_asking 0 (by decide +kernel) (by decide +kernel)
  obtain ⟨a, ho⟩ := exists_ok (o := (passed (asking 0)).2.result?) (by decide +kernel)
  rw [ho] at hr
  have hran := (ran_passed (w := waiting 0) hplans (by decide +kernel)).1
  have hnone : ((waiting 0).store.dataCenters.find? smallKey).map wanted = some 0 := by
    decide +kernel
  obtain ⟨dc, hdc, hwanted⟩ := Option.map_eq_some_iff.mp hnone
  have hfewer : wanted dc < total smallKey (small 1 0 1) (asking 0).store := by
    rw [hwanted]
    decide +kernel
  -- Between the request and the second pass the rack has ceased to be ready.
  have hstays : ReflTransGen (fun s s' =>
      Event smallKey (fun dc _ => wanted dc < total smallKey (small 1 0 1) (asking 0).store) s s' ∧
        Part smallKey (small 1 0 1) smallMember s') (passed (asking 0)).1.store
      (passed (waiting 0)).1.store := by
    refine (ReflTransGen.single ⟨.edit (respecified_unready smallKey smallRack _), ?_⟩).tail
      ⟨.pass hdc hfewer hran, ?_⟩
    all_goals decide +kernel
  have hend := not_running_until_removed rfl hr hasked (.inl ⟨a, rfl⟩) hstays
  exact ⟨_, _, _, _, a, rfl, hr, hasked, hstays, hend⟩

end Pass

end RackOperator
