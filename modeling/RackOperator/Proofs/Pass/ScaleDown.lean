import Mathlib
import RackOperator.Proofs.Pass.Forward
import RackOperator.Proofs.Pass.Statuses

/-!
# Scaling down loses no node

Shrinking a rack takes its last pod away, with the data on it. Along every run of passes,
whatever happens to specs, statuses and sidecars meanwhile, a stored replica count moves by
at most one at a time, and it moves down only under a pass that saw the last member
DECOMMISSIONED, every rack ready and no member moving.

No single stage guarantees this. The plan moves one count by one, the classification and
the guards let one rack through, the member is chosen by the count read, and the count is
written to the StatefulSet that was read: `Survey.written_cases` and `Survey.seen_of_acts`
say what these stages come to together, and `touches_of_move` that what was read is what
the write meets.
-/

namespace RackOperator.Pass

/-- What a pass had seen of a rack when it lowered its count from `n`: the rack's StatefulSet
as it was stored, all racks of the DataCenter ready, all members NORMAL or DECOMMISSIONED,
and the rack's last member DECOMMISSIONED. -/
structure SawLeft (key : ClusterKey) (v : Survey) (k : NamespacedName) (old : StatefulSet) :
    Prop where
  whole : v.Whole
  rack : ∃ p ∈ v.found, k = ⟨key.ns, v.dc.naming.statefulSetName p.1⟩ ∧ p.2.shape = old.shape ∧
    v.statuses.statusOf (v.dc.naming.podName p.1 (old.replicas - 1)) = .decommissioned
  seen : v.Seen

/-- **Scale-down safety.** In every run a stored count changes by at most one; where it is
lowered, the pass under way has just finished reading and saw the last member of the rack
decommissioned, every rack ready and every member settled. -/
theorem count_lowered_safely {config : Config} {w : World} {s s' : Scene}
    (hr : Reaches config ⟨w, none⟩ s) (hs : Step config s s') {k : NamespacedName}
    {old new : StatefulSet} (hold : s.stored k = some old) (hnew : s'.stored k = some new) :
    (new.replicas - old.replicas).natAbs ≤ 1 ∧
      (new.replicas < old.replicas → new.replicas = old.replicas - 1 ∧
        ∃ key v rest, s.pass = some (key, ⟨v.history key, rest⟩) ∧ SawLeft key v k old) := by
  have hi := sound_of_reaches hr
  have hsame : new.replicas = old.replicas → (new.replicas - old.replicas).natAbs ≤ 1 ∧
      (new.replicas < old.replicas → new.replicas = old.replicas - 1 ∧
        ∃ key v rest, s.pass = some (key, ⟨v.history key, rest⟩) ∧ SawLeft key v k old) :=
    fun he => ⟨by omega, fun hlt => by omega⟩
  -- An edit leaves counts alone; a move changes one by a replacement that its pass has decided on.
  cases hs with
  | edit he =>
    have hk := he k
    unfold Scene.stored at hold hnew
    rw [hold, hnew] at hk
    exact hsame (StatefulSet.replicas_of_shape (Option.some.inj hk))
  | move hm =>
    cases touches_of_move hi hm hold hnew with
    | spares he => exact hsame (by rw [he])
    | @replaces key v p _ sts _ next hpass hv hw hk hp hread hcount hn hstatus =>
      have hrep : old.replicas = p.2.replicas := StatefulSet.replicas_of_shape hread
      rcases hcount with hc | hc | ⟨hc, hpos, hleft⟩
      · exact hsame (by omega)
      · exact ⟨by omega, fun hlt => by omega⟩
      · refine ⟨by omega, fun _ => ⟨by omega, key, v, _, hpass, hv, ⟨p, hp, hk, hread.symm, ?_⟩,
          Survey.seen_of_acts (Survey.acts_of_written hw)⟩⟩
        rw [hrep]
        exact hleft

/-- One rack of one pod, to be shrunk to none, with its member gone. -/
def lastPod : Survey where
  dc := small 1 0 1
  found := [(.new 0, smallSet 1 0)]
  planned := .ofList [(.new 0, 0)]
  statuses := .ofList [("c-d-rack1-0", .decommissioned)]

set_option maxRecDepth 4000 in
/-- With the last member decommissioned the rack is written without it. -/
theorem lastPod_written : lastPod.decision.written? lastPod.observation =
    some ((small 1 0 1).statefulSet (.new 0) 0) := by
  cbv

theorem lastPod_whole : lastPod.Whole where
  racks := rfl
  plan := congrArg some (SortedMap.insert_insert {} (Rack.new 0) (1 : Int) 0)

theorem lastPod_observed : ∃ status,
    (lastPod.dc.status.getD {}).observed? lastPod.observation lastPod.dc.metadata.generation =
      some status :=
  Survey.exists_observed lastPod_whole rfl rfl _ _

/-- A pass over that DataCenter does lower the count, so the theorem is not about nothing. -/
theorem lastPod_lowered : ∃ config w s s' k old new, Reaches config ⟨w, none⟩ s ∧
    Step config s s' ∧ s.stored k = some old ∧ s'.stored k = some new ∧
      old.replicas = 1 ∧ new.replicas = 0 ∧
        ∃ key v rest, s.pass = some (key, ⟨v.history key, rest⟩) ∧ SawLeft key v k old := by
  have hstands : lastPod.Stands ⟨"n", "d"⟩ (lastPod.world ⟨"n", "d"⟩ fun _ => .decommissioned) :=
    stands_world lastPod_whole (by cbv)
  obtain ⟨status, hstatus⟩ := lastPod_observed
  obtain ⟨s, s', w', hw⟩ := writes_of_stands {} lastPod_whole hstands hstatus
    lastPod_written rfl
  obtain ⟨hold, hnew⟩ := hw.stored hstands List.mem_cons_self rfl
  have hr := reaches_of_moves hw.arrives
  have hs := Step.move hw.writes
  have hlt : (0 : Int) < 1 := by omega
  exact ⟨_, _, s, s', _, _, _, hr, hs, hold, hnew, rfl, rfl,
    ((count_lowered_safely hr hs hold hnew).2 hlt).2⟩

end RackOperator.Pass
