import Mathlib.Data.List.Induction
import Mathlib.Logic.Relation
import RackOperator.Admission
import RackOperator.Proofs.Layouts
import RackOperator.Proofs.Pass.Records

/-!
# A layout does not tell its history

Whatever totals a DataCenter is given one after the other, at whatever point of its way from one
to the next: once all its racks exist, their counts are those a new DataCenter of the same
total would begin with (`layout_of_rounds`). What carries this is `Laid`, the racks hold the
shares of some total. A first pass creates them so, and a pass that changes a count takes one
step of the plan, which leads from a spread to a spread (`Layout.planned?_spread`).
-/

namespace RackOperator.Pass

open Relation (ReflTransGen)

variable {config : Config} {key : ClusterKey} {dc dc' : DataCenter} {v : Survey}
  {s s' : MemoryStore}

/-- The number of racks a DataCenter asks for. -/
def rackCount (dc : DataCenter) : Nat := dc.spec.racks.toInt.toNat

/-- The counts of a DataCenter's racks, in rack order. -/
def counts (key : ClusterKey) (dc : DataCenter) (s : MemoryStore) : List Int :=
  dc.racks.map fun r => ((stored? key dc s r).map StatefulSet.replicas).getD 0

/-- The racks hold the shares of a total. -/
def Laid (key : ClusterKey) (dc : DataCenter) (total : Nat) (s : MemoryStore) : Prop :=
  ∀ i < rackCount dc, (stored? key dc s (.new i)).map StatefulSet.replicas =
    some (Layout.share total (rackCount dc) i : Int)

/-- An admissible DataCenter has no StatefulSet, or all of them with the shares of a total. -/
def Even (key : ClusterKey) (s : MemoryStore) : Prop :=
  ∃ dc, s.dataCenters.find? ⟨key.ns, key.name⟩ = some dc ∧ DataCenter.specFault? dc.spec = none ∧
    ((∀ r ∈ dc.racks, stored? key dc s r = none) ∨ ∃ total < 2 ^ 31, Laid key dc total s)

/-- The outside changes a DataCenter as admission allows, and of its StatefulSets anything but
whether they are there and their counts. -/
structure Revised (key : ClusterKey) (s s' : MemoryStore) : Prop where
  admitted : ∃ dc dc', s.dataCenters.find? ⟨key.ns, key.name⟩ = some dc ∧
    s'.dataCenters.find? ⟨key.ns, key.name⟩ = some dc' ∧ dc'.fault? (some dc) = none
  counts : ∀ dc, s.dataCenters.find? ⟨key.ns, key.name⟩ = some dc → ∀ r ∈ dc.racks,
    (stored? key dc s' r).map StatefulSet.replicas = (stored? key dc s r).map StatefulSet.replicas

/-- A pass, or a change from outside between two passes. -/
inductive Round (key : ClusterKey) : MemoryStore → MemoryStore → Prop
  | pass {config : Config} {s s' : MemoryStore} {h : History}
    {o : Option (Except OperatorError Action)}
    (hr : Program.Ran (run config key).run s h o s') : Round key s s'
  | revise {s s' : MemoryStore} (hr : Revised key s s') : Round key s s'

/-- The racks of a DataCenter are those whose index is below their number. -/
theorem mem_racks_new {i : Nat} : Rack.new i ∈ dc.racks ↔ i < rackCount dc := by
  unfold DataCenter.racks rackCount
  rw [Rack.mem_all]
  refine ⟨fun ⟨j, hj, he⟩ => ?_, fun h => ⟨i, h, rfl⟩⟩
  rw [show i = j from congrArg Rack.index he]
  exact hj

theorem length_racks (dc : DataCenter) : dc.racks.length = rackCount dc := by
  unfold DataCenter.racks Rack.all rackCount
  rw [List.length_map, List.length_range]

/-! ## What a pass does to the counts -/

theorem Laid.of_eq {total : Nat} (hl : Laid key dc total s)
    (h : ∀ i < rackCount dc, (stored? key dc s' (.new i)).map StatefulSet.replicas =
      (stored? key dc s (.new i)).map StatefulSet.replicas) : Laid key dc total s' :=
  fun i hi => (h i hi).trans (hl i hi)

/-- StatefulSets created have their initial counts, each by the share of its rack. -/
theorem stored?_created (key : ClusterKey) (racks : List Rack)
    (hsub : ∀ r ∈ racks, r ∈ dc.racks) {r : Rack} (hr : r ∈ racks) (s : MemoryStore) :
    (stored? key dc (created key dc s racks) r).map StatefulSet.replicas =
      some (dc.initial r).replicas := by
  -- from the end, where the last one created is
  induction racks using List.reverseRecOn with
  | nil => exact absurd hr List.not_mem_nil
  | append_singleton racks last ih =>
    have hlast : created key dc s (racks ++ [last]) =
        ((created key dc s racks).perform (.createStatefulSet key.ns (dc.initial last))).2 :=
      List.foldl_append
    have hr' := hsub r hr
    rw [hlast, stored?_createStatefulSet (hsub last (by simp)) hr']
    by_cases he : last = r
    · rw [he, if_pos rfl]
      rfl
    · rw [if_neg he]
      refine ih (fun r' h => hsub r' (List.mem_append_left _ h)) ?_
      rcases List.mem_append.mp hr with h | h
      · exact h
      · exact absurd (List.mem_singleton.mp h).symm he

/-- Other StatefulSets than those created are as they were. -/
theorem stored?_created_of_notMem (key : ClusterKey) (racks : List Rack)
    (hsub : ∀ r ∈ racks, r ∈ dc.racks) {r : Rack} (hr : r ∈ dc.racks) (hn : r ∉ racks)
    (s : MemoryStore) :
    stored? key dc (created key dc s racks) r = stored? key dc s r := by
  induction racks generalizing s with
  | nil => rfl
  | cons first rest ih =>
    rw [List.mem_cons, not_or] at hn
    refine (ih (fun r' h => hsub r' (List.mem_cons_of_mem _ h)) hn.2 _).trans ?_
    rw [stored?_createStatefulSet (hsub first List.mem_cons_self) hr, if_neg fun he => hn.1 he.symm]

/-- A DataCenter that is created begins with the spread of its total. -/
theorem replicas_initial {i : Nat} (hi : i < rackCount dc) :
    (dc.initial (.new i)).replicas =
      Layout.share dc.spec.replicas.toInt.toNat (rackCount dc) i := by
  have hget : (Layout.initialDistribution dc.spec.replicas.toInt dc.racks.length).getD i 0 =
      (Layout.share dc.spec.replicas.toInt.toNat (rackCount dc) i : Int) := by
    rw [Layout.initialDistribution_eq, length_racks, List.getD_eq_getElem?_getD, List.getElem?_map,
      List.getElem?_range hi]
    rfl
  have hle := Layout.share_le dc.spec.replicas.toInt.toNat hi
  have hlt := dc.spec.replicas.toInt_lt
  show (Int32.ofInt ((Layout.initialDistribution dc.spec.replicas.toInt dc.racks.length).getD i
    0)).toInt = _
  rw [hget]
  exact Int32.toInt_ofInt_of_le (by omega) (by omega)

/-- Where no rack was there, all are created, and the replicas are laid out from the start. -/
theorem laid_created (hnone : ∀ r ∈ dc.racks, stored? key dc s r = none) :
    Laid key dc dc.spec.replicas.toInt.toNat
      (created key dc (served key dc s) (missing key dc s)) := by
  have hall : missing key dc s = dc.racks :=
    List.filter_eq_self.mpr fun r hr => by rw [hnone r hr]; rfl
  intro i hi
  rw [hall, stored?_created key _ (fun _ h => h) (mem_racks_new.mpr hi), replicas_initial hi]

section Steps

variable {total : Nat}

/-- The counts a survey has found are the shares of the total. -/
theorem replicas_found (hv : v.Whole) (hf : ∀ p ∈ v.found, stored? key v.dc s p.1 = some p.2)
    (hl : Laid key v.dc total s) {p : Rack × StatefulSet} (hp : p ∈ v.found) :
    ∃ i < rackCount v.dc, p.1 = .new i ∧
      p.2.replicas = Layout.share total (rackCount v.dc) i := by
  obtain ⟨i, hi, he⟩ := Rack.mem_all.mp (hv.mem_racks hp)
  have hcount := hl i hi
  rw [← he, hf p hp] at hcount
  exact ⟨i, hi, he, Option.some.inj hcount⟩

/-- What a survey plans from the shares of a total is the shares of the next, up or down by one. The
plan is made rack by rack, and comes to what a layout from nothing would have given. -/
theorem planned_of_laid (hv : v.Whole)
    (hf : ∀ p ∈ v.found, stored? key v.dc s p.1 = some p.2) (hn : 0 < rackCount v.dc)
    (hl : Laid key v.dc total s) :
    v.planned = Layout.spread (Layout.toward total v.dc.spec.replicas.toInt) (rackCount v.dc) := by
  -- What the pass found are the shares themselves, so the plan starts from a spread.
  have hcounts : v.counts = Layout.shares total (rackCount v.dc) := by
    have hmap : v.counts = (v.found.map (·.1)).map fun r =>
        (r, (Layout.share total (rackCount v.dc) r.index : Int)) := by
      rw [List.map_map]
      refine List.map_congr_left fun p hp => ?_
      obtain ⟨i, -, he, hcount⟩ := replicas_found hv hf hl hp
      show (p.1, p.2.replicas) = (p.1, (Layout.share total (rackCount v.dc) p.1.index : Int))
      rw [hcount, he]
      rfl
    rw [hmap, hv.racks]
    rfl
  have hplan := hv.plan
  rw [hcounts, SortedMap.ofList_eq_mk (Layout.pairwise_shares _ _)] at hplan
  exact Layout.planned?_spread hn hplan

theorem desired_of_laid (hv : v.Whole)
    (hf : ∀ p ∈ v.found, stored? key v.dc s p.1 = some p.2) (ht : total < 2 ^ 31)
    (hl : Laid key v.dc total s) {p : Rack × StatefulSet} {i : Nat} (hi : i < rackCount v.dc)
    (he : p.1 = .new i) :
    (v.group p).desiredReplicas =
      Layout.share (Layout.toward total v.dc.spec.replicas.toInt) (rackCount v.dc) i := by
  have hnext := Layout.toward_lt ht v.dc.spec.replicas.toInt_lt
  have hle := Layout.share_le (Layout.toward total v.dc.spec.replicas.toInt) hi
  show (Int32.ofInt ((v.planned.find? p.1).getD 0)).toInt = _
  rw [planned_of_laid hv hf (by omega) hl, he, Layout.find?_spread hi]
  exact Int32.toInt_ofInt_of_le (by rw [Option.getD_some]; omega) (by rw [Option.getD_some]; omega)

/-- One rack is given another share, the others keep theirs. The shares of two totals next to each
other differ in one rack only. -/
theorem laid_replaced (hv : v.Whole) (hf : ∀ p ∈ v.found, stored? key v.dc s p.1 = some p.2)
    (hl : Laid key v.dc total s) {p : Rack × StatefulSet} (hp : p ∈ v.found) {i : Nat}
    (he : p.1 = .new i) {sts : StatefulSet}
    (hname : sts.metadata.anyName = v.dc.naming.statefulSetName p.1) {next : Nat}
    (hnext : sts.replicas = Layout.share next (rackCount v.dc) i)
    (hothers : ∀ j < rackCount v.dc, j ≠ i →
      Layout.share next (rackCount v.dc) j = Layout.share total (rackCount v.dc) j) :
    Laid key v.dc next (s.perform (.replaceStatefulSet key.ns sts)).2 := by
  intro j hj
  rw [stored?_replaced hv hf hp hname (mem_racks_new.mpr hj)]
  by_cases hij : j = i
  · rw [hij, he, if_pos rfl, ← hnext]
    rfl
  · rw [if_neg fun h => hij (congrArg Rack.index (h.trans he)), hothers j hj hij]
    exact hl j hj

/-- A pass leads from the shares of a total to the shares of this or the next. A rack that is
resized gets the count planned for it, and it is the one rack in which the two layouts differ. -/
theorem laid_acted (hv : v.Whole) (hf : ∀ p ∈ v.found, stored? key v.dc s p.1 = some p.2)
    (ht : total < 2 ^ 31) (hl : Laid key v.dc total s) :
    ∃ next < 2 ^ 31, Laid key v.dc next (v.acted key s) := by
  rcases acted_cases v key s with ⟨sts, hw, hacted⟩ | ⟨-, hacted⟩ | ⟨-, -, hacted⟩
  · obtain ⟨p, hp, hname, hmode⟩ := Survey.written_mode hv hw
    obtain ⟨i, hi, he, hcount⟩ := replicas_found hv hf hl hp
    have hdesired := desired_of_laid hv hf ht hl hi he
    have hexisting : (v.group p).existingReplicas = p.2.replicas := rfl
    rw [hacted]
    rcases hmode with ⟨-, -, hn⟩ | ⟨-, hm, hn⟩ | ⟨-, hm, hn, -⟩
    · exact ⟨total, ht, laid_replaced hv hf hl hp he hname (hn.trans hcount) fun _ _ _ => rfl⟩
    · -- one rack is below its share of the next total, so it is the one whose turn it is
      have hlt := RackMode.classify_scaleUp hm
      rw [hdesired, hexisting, hcount] at hlt
      obtain ⟨hnext, hturn⟩ := Layout.of_share_lt_toward hi (Int.ofNat_lt.mp hlt)
      refine ⟨total + 1, ?_, laid_replaced hv hf hl hp he hname ?_ fun j hj hij => ?_⟩
      · rw [← hnext]
        exact Layout.toward_lt ht v.dc.spec.replicas.toInt_lt
      · rw [hn, hcount, Layout.share_succ _ hi, if_pos hturn]
        rfl
      · rw [Layout.share_succ _ hj, if_neg (hturn ▸ hij)]
        rfl
    · -- and one above it is the one that had the last replica
      have hlt := RackMode.classify_scaleDown hm
      rw [hdesired, hexisting, hcount] at hlt
      obtain ⟨hnext, hturn⟩ := Layout.of_toward_lt_share hi (Int.ofNat_lt.mp hlt)
      refine ⟨Layout.toward total v.dc.spec.replicas.toInt, by omega,
        laid_replaced hv hf hl hp he hname ?_ fun j hj hij => ?_⟩
      · have hsucc := Layout.share_succ (Layout.toward total v.dc.spec.replicas.toInt) hi
        rw [if_pos hturn, ← hnext] at hsucc
        omega
      · have hsucc := Layout.share_succ (Layout.toward total v.dc.spec.replicas.toInt) hj
        rw [if_neg (hturn ▸ hij), ← hnext] at hsucc
        exact hsucc.symm
  · refine ⟨total, ht, hl.of_eq fun i _ => ?_⟩
    rw [hacted, stored?_of_eq (MemoryStore.statefulSets_perform s rfl)]
  · rw [hacted]
    exact ⟨total, ht, hl⟩

end Steps

/-! ## Rounds -/

/-- An admissible DataCenter has a rack, so shares can be counted off. -/
theorem rackCount_pos (h : DataCenter.specFault? dc.spec = none) : 0 < rackCount dc := by
  unfold DataCenter.specFault? at h
  split_ifs at h with _ _ _ hracks
  unfold rackCount
  omega

/-- A status that is written does not move anything. -/
theorem Even.report (hs : DataCenter.specFault? dc.spec = none)
    (hdc : s.dataCenters.find? ⟨key.ns, key.name⟩ = some dc)
    (hl : (∀ r ∈ dc.racks, stored? key dc s r = none) ∨ ∃ total < 2 ^ 31, Laid key dc total s)
    (status : DataCenterStatus) : Even key (reported key s status).2 := by
  have hstored : ∀ dc, stored? key dc (reported key s status).2 = stored? key dc s :=
    stored?_of_eq (statefulSets_reported s status)
  rcases MemoryStore.find?_replaceDataCenterStatus_cases hdc status with h | h
  · refine ⟨dc, h, hs, ?_⟩
    unfold Laid
    rw [hstored dc]
    exact hl
  · refine ⟨_, h, hs, ?_⟩
    unfold Laid
    rw [hstored]
    exact hl

/-- A pass keeps a DataCenter evenly laid out, however it ends. The cases are the ways it can go: it
creates the racks that are missing by the initial shares, or it converges over those it has found.
-/
theorem even_pass {h : History} {o : Option (Except OperatorError Action)} (he : Even key s)
    (hr : Program.Ran (run config key).run s h o s') : Even key s' := by
  obtain ⟨dc, hdc, hs, hl⟩ := he
  cases ended_of_ran hr with
  | gone hnone => exact ⟨dc, hdc, hs, hl⟩
  | @created dc' hdc' hm =>
    cases hdc.symm.trans hdc'
    have hnone : ∀ r ∈ dc.racks, stored? key dc s r = none := by
      rcases hl with hnone | ⟨total, -, hl⟩
      · exact hnone
      · -- nothing was missing
        refine absurd (List.filter_eq_nil_iff.mpr fun r hr => ?_) hm
        obtain ⟨i, hi, rfl⟩ := Rack.mem_all.mp hr
        have hsome := hl i hi
        cases hst : stored? key dc s (.new i) with
        | none =>
          rw [hst] at hsome
          cases hsome
        | some sts => exact Bool.false_ne_true
    refine ⟨dc, ?_, hs, .inr ⟨_, ?_, laid_created hnone⟩⟩
    · rw [dataCenters_created, dataCenters_served]
      exact hdc
    · have hlt := dc.spec.replicas.toInt_lt
      omega
  | @overflowed dc' hdc' hm =>
    cases hdc.symm.trans hdc'
    refine ⟨dc, ?_, hs, ?_⟩
    · rw [dataCenters_served]
      exact hdc
    · unfold Laid
      rw [stored?_of_eq (statefulSets_served dc s)]
      exact hl
  | @settled v hv hreads status =>
    cases hdc.symm.trans hreads.dataCenter
    have hf : ∀ p ∈ v.found, stored? key v.dc (served key v.dc s) p.1 = some p.2 := by
      rw [stored?_of_eq (statefulSets_served v.dc s)]
      exact hreads.found
    refine Even.report hs ?_ ?_ status
    · rw [dataCenters_acted, dataCenters_served]
      exact hdc
    · rcases hl with hnone | ⟨total, ht, hl⟩
      · -- the survey has found a StatefulSet
        have hfirst : Rack.new 0 ∈ v.dc.racks := mem_racks_new.mpr (rackCount_pos hs)
        rw [← hv.racks] at hfirst
        obtain ⟨p, hp, he⟩ := List.mem_map.mp hfirst
        have hsome := hreads.found p hp
        rw [hnone p.1 (hv.mem_racks hp)] at hsome
        cases hsome
      · refine .inr (laid_acted hv hf ht (hl.of_eq fun i _ => ?_))
        rw [stored?_of_eq (statefulSets_served v.dc s)]

/-- A change that admission allows keeps the racks and their names, so what is stored for them stays
found. -/
theorem kept_of_admitted (h : dc'.fault? (some dc) = none) :
    DataCenter.specFault? dc'.spec = none ∧ dc'.racks = dc.racks ∧ rackCount dc' = rackCount dc ∧
      ∀ r, dc'.naming.statefulSetName r = dc.naming.statefulSetName r := by
  obtain ⟨hspec, hchange⟩ := Option.or_eq_none_iff.mp h
  change DataCenter.changeFault? dc.spec dc'.spec = none at hchange
  unfold DataCenter.changeFault? at hchange
  split_ifs at hchange with hracks hcluster hname
  rw [not_not] at hracks hcluster hname
  refine ⟨hspec, ?_, ?_, fun r => ?_⟩
  · unfold DataCenter.racks
    rw [hracks]
  · unfold rackCount
    rw [hracks]
  · unfold DataCenter.naming Naming.statefulSetName Naming.stem
    rw [hcluster, hname]

/-- An accepted edit keeps it evenly laid out, whatever number of replicas it asks for. What
admission refuses is what would break this: racks and the parts of their names may not be changed.
-/
theorem even_revised (he : Even key s) (hr : Revised key s s') : Even key s' := by
  obtain ⟨dc, hdc, -, hl⟩ := he
  obtain ⟨dc₁, dc', hdc₁, hdc', hfault⟩ := hr.admitted
  cases hdc.symm.trans hdc₁
  obtain ⟨hspec, hracks, hcount, hnames⟩ := kept_of_admitted hfault
  have hstored : ∀ r ∈ dc.racks, (stored? key dc' s' r).map StatefulSet.replicas =
      (stored? key dc s r).map StatefulSet.replicas := by
    intro r hmem
    rw [← hr.counts dc hdc r hmem]
    unfold stored?
    rw [hnames]
  refine ⟨dc', hdc', hspec, ?_⟩
  -- An admitted edit keeps names and racks: what was laid out stays so under the new spec.
  rcases hl with hnone | ⟨total, ht, hl⟩
  · left
    intro r hmem
    rw [hracks] at hmem
    have hmap := hstored r hmem
    rw [hnone r hmem] at hmap
    exact Option.map_eq_none_iff.mp hmap
  · refine .inr ⟨total, ht, fun i hi => ?_⟩
    rw [hcount] at hi ⊢
    rw [hstored _ (mem_racks_new.mpr hi)]
    exact hl i hi

theorem even_round (he : Even key s) (h : Round key s s') : Even key s' := by
  cases h with
  | pass hr => exact even_pass he hr
  | revise hr => exact even_revised he hr

/-- It stays so over any number of them, by induction on the rounds. -/
theorem even_of_rounds (he : Even key s) (h : ReflTransGen (Round key) s s') : Even key s' := by
  induction h with
  | refl => exact he
  | tail _ hround ih => exact even_round ih hround

/-- Racks with the shares of a total are laid out as that of a new DataCenter, and this is their
sum. -/
theorem counts_of_laid {total : Nat} (hn : 0 < rackCount dc) (hl : Laid key dc total s) :
    counts key dc s = Layout.initialDistribution (counts key dc s).sum dc.racks.length := by
  have hcounts : counts key dc s =
      ((List.range (rackCount dc)).map (Layout.share total (rackCount dc))).map
        fun n : Nat => (n : Int) := by
    unfold counts DataCenter.racks Rack.all
    rw [List.map_map, List.map_map]
    refine List.map_congr_left fun i hi => ?_
    show ((stored? key dc s (.new i)).map StatefulSet.replicas).getD 0 = _
    rw [hl i (List.mem_range.mp hi)]
    rfl
  have hsum : (counts key dc s).sum = total := by
    rw [hcounts, ← Nat.cast_list_sum, Layout.sum_share hn]
  rw [hsum, length_racks, Layout.initialDistribution_eq, hcounts, List.map_map]
  rfl

/-- The layout does not tell its history. Passes, changes of a DataCenter that admission allows and
any change of its StatefulSets' statuses may follow each other as they like, from an admissible
DataCenter that has no StatefulSets yet: whenever all its racks exist, their counts are those that
a new DataCenter of the same total begins with. -/
theorem layout_of_rounds {s₀ : MemoryStore} {dc₀ : DataCenter}
    (hdc₀ : s₀.dataCenters.find? ⟨key.ns, key.name⟩ = some dc₀) (hvalid : dc₀.fault? none = none)
    (hnew : ∀ r ∈ dc₀.racks, stored? key dc₀ s₀ r = none)
    (hrounds : ReflTransGen (Round key) s₀ s)
    (hdc : s.dataCenters.find? ⟨key.ns, key.name⟩ = some dc)
    (hall : ∀ r ∈ dc.racks, (stored? key dc s r).isSome) :
    counts key dc s = Layout.initialDistribution (counts key dc s).sum dc.racks.length := by
  have hspec₀ : DataCenter.specFault? dc₀.spec = none := (Option.or_eq_none_iff.mp hvalid).1
  obtain ⟨dc', hdc', hspec, hl⟩ := even_of_rounds ⟨dc₀, hdc₀, hspec₀, .inl hnew⟩ hrounds
  cases hdc.symm.trans hdc'
  have hpos := rackCount_pos hspec
  rcases hl with hnone | ⟨total, -, hl⟩
  · -- there is a rack, and it exists
    have hfirst : Rack.new 0 ∈ dc.racks := mem_racks_new.mpr hpos
    have hsome := hall _ hfirst
    rw [hnone _ hfirst] at hsome
    cases hsome
  · exact counts_of_laid hpos hl

/-- Three racks created for four replicas, of which five are wanted then. -/
theorem layout_of_first_pass :
    let s₀ : MemoryStore := { dataCenters := SortedMap.insert {} ⟨"n", "d"⟩ (small 1 4 3) }
    ∃ s, ReflTransGen (Round ⟨"n", "d"⟩) s₀ s ∧
      s.dataCenters.find? ⟨"n", "d"⟩ = some (small 2 5 3) ∧
      counts ⟨"n", "d"⟩ (small 2 5 3) s =
        Layout.initialDistribution (counts ⟨"n", "d"⟩ (small 2 5 3) s).sum 3 := by
  intro s₀
  let key : ClusterKey := ⟨"n", "d"⟩
  obtain ⟨h, hr⟩ := Program.ran_run (run {} key).run (w := { store := s₀ }) rfl
  generalize ((run {} key).run.run (m := StateM World) World.perform { store := s₀ }).2.store = s₁
    at hr
  have hdc₀ : s₀.dataCenters.find? ⟨"n", "d"⟩ = some (small 1 4 3) :=
    (SortedMap.find?_insert _ _ _ _).trans (if_pos rfl)
  -- No rack is there, so the first pass creates all three.
  have hmissing : missing key (small 1 4 3) s₀ = (small 1 4 3).racks :=
    List.filter_eq_self.mpr fun r _ => rfl
  have hs₁ := created_of_ran hr hdc₀ (by rw [hmissing]; exact List.cons_ne_nil _ _)
  rw [hmissing] at hs₁
  have hdc₁ : s₁.dataCenters.find? ⟨"n", "d"⟩ = some (small 1 4 3) := by
    rw [hs₁, dataCenters_created, dataCenters_served]
    exact hdc₀
  -- Then one replica more is wanted, at the next generation.
  let s₂ := { s₁ with dataCenters := s₁.dataCenters.insert ⟨"n", "d"⟩ (small 2 5 3) }
  have hdc₂ : s₂.dataCenters.find? ⟨"n", "d"⟩ = some (small 2 5 3) :=
    (SortedMap.find?_insert _ _ _ _).trans (if_pos rfl)
  have hrevised : Revised key s₁ s₂ := ⟨⟨_, _, hdc₁, hdc₂, by decide⟩, fun dc _ r _ => rfl⟩
  have hrounds : ReflTransGen (Round key) s₀ s₂ :=
    (ReflTransGen.single (.pass hr)).tail (.revise hrevised)
  have hall : ∀ r ∈ (small 2 5 3).racks, (stored? key (small 2 5 3) s₂ r).isSome := by
    intro r hmem
    have hsome := stored?_created key _ (fun r (h : r ∈ (small 1 4 3).racks) => h) hmem
      (served key (small 1 4 3) s₀)
    rw [← hs₁] at hsome
    rw [← Option.isSome_map (f := StatefulSet.replicas)]
    show ((stored? key (small 1 4 3) s₁ r).map StatefulSet.replicas).isSome
    rw [hsome]
    rfl
  exact ⟨s₂, hrounds, hdc₂,
    layout_of_rounds hdc₀ (by decide) (fun r _ => rfl) hrounds hdc₂ hall⟩

end RackOperator.Pass
