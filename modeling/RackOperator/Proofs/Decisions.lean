import RackOperator.Decision
import RackOperator.Proofs.Maps
import Mathlib.Algebra.Ring.Int.Defs

/-!
# What a decision rests on

A decision that acts was made with every rack ready and no member moving
(`decide_cases`): the guards come first, and only behind them is a step chosen. The step
then says what was seen of its rack (`Chosen`, `chosen_of_acts`). A rolled rack was behind, a
grown or shrunk one was in that mode, the new count is the existing one moved by one, and the
member that goes is the last of its rack.
-/

namespace RackOperator

namespace RackMode

/-- A rack is behind only at the count it is to have; before that it is scaled. -/
theorem classify_behind {desired existing : Int} {recorded current : Option Int}
    (h : RackMode.classify desired existing recorded current = .behind) : desired = existing := by
  unfold RackMode.classify at h
  split at h
  next => cases h
  next =>
    split at h
    next => cases h
    next => omega

/-- A rack at its count is behind exactly if it records a generation before the present one. A rack
that records none is taken to be up to date. -/
theorem classify_behind_iff {n : Int} {recorded current : Option Int} :
    RackMode.classify n n recorded current = .behind ↔
      ∃ r ∈ recorded, ∃ c ∈ current, r < c := by
  unfold RackMode.classify
  rw [if_neg (Int.lt_irrefl n), if_neg (Int.lt_irrefl n)]
  cases recorded with
  | none => simp
  | some r =>
    cases current with
    | none => simp
    | some c => by_cases h : r < c <;> simp [h]

/-- A rack is scaled up only if the plan has more replicas for it than there are. -/
theorem classify_scaleUp {desired existing : Int} {recorded current : Option Int}
    (h : RackMode.classify desired existing recorded current = .scaleUp) : existing < desired := by
  unfold RackMode.classify at h
  split at h
  next hlt => exact hlt
  next =>
    split at h
    next => cases h
    next =>
      split at h
      · split at h <;> cases h
      · cases h

/-- A rack is scaled down only if the plan has fewer. -/
theorem classify_scaleDown {desired existing : Int} {recorded current : Option Int}
    (h : RackMode.classify desired existing recorded current = .scaleDown) :
    desired < existing := by
  unfold RackMode.classify at h
  split at h
  next => cases h
  next =>
    split at h
    next hlt => exact hlt
    next =>
      split at h
      · split at h <;> cases h
      · cases h

theorem classify_scaleUp_iff {desired existing : Int} {recorded current : Option Int} :
    RackMode.classify desired existing recorded current = .scaleUp ↔ existing < desired :=
  ⟨classify_scaleUp, fun h => if_pos h⟩

theorem classify_scaleDown_iff {desired existing : Int} {recorded current : Option Int} :
    RackMode.classify desired existing recorded current = .scaleDown ↔ desired < existing := by
  refine ⟨classify_scaleDown, fun h => ?_⟩
  unfold RackMode.classify
  rw [if_neg (by omega), if_pos h]

end RackMode

namespace StatefulSet

/-- The count of a StatefulSet is a 32-bit number, which is where bounds on counts come from. -/
theorem replicas_lt (s : StatefulSet) : s.replicas < 2 ^ 31 := s.replicas32.toInt_lt

theorem replicas_ge (s : StatefulSet) : -2 ^ 31 ≤ s.replicas := s.replicas32.le_toInt

end StatefulSet

namespace Layout

/-- A fold that keeps the best so far or takes the candidate at hand ends with a candidate. Both
choices of a rack to scale are folds of this kind. -/
theorem foldl_choice_mem {α : Type} {f : Option α → α → Option α}
    (hf : ∀ best c d, f best c = some d → best = some d ∨ d = c) {cs : List α} {d : α}
    (h : cs.foldl f none = some d) : d ∈ cs := by
  suffices hs : ∀ best, cs.foldl f best = some d → best = some d ∨ d ∈ cs by
    rcases hs none h with h | h
    · cases h
    · exact h
  clear h
  induction cs with
  | nil => exact fun best h => .inl h
  | cons c rest ih =>
    intro best h
    rcases ih _ h with h | h
    · rcases hf best c d h with h | rfl
      · exact .inl h
      · exact .inr List.mem_cons_self
    · exact .inr (List.mem_cons_of_mem _ h)

/-- A fold that leaves something no worse than the best so far and the candidate at hand ends with
something no worse than every candidate. -/
theorem foldl_choice_best {α : Type} {f : Option α → α → Option α} (le : α → α → Prop)
    (hrefl : ∀ a, le a a) (htrans : ∀ {a b c}, le a b → le b c → le a c)
    (hf : ∀ best c, ∃ d, f best c = some d ∧ (∀ b ∈ best, le d b) ∧ le d c) {cs : List α} :
    ∀ {best d}, cs.foldl f best = some d → (∀ b ∈ best, le d b) ∧ ∀ c ∈ cs, le d c := by
  induction cs with
  | nil =>
    intro best d h
    refine ⟨fun b hb => ?_, fun c hc => absurd hc List.not_mem_nil⟩
    rw [show b = d from Option.some.inj (hb.symm.trans h)]
    exact hrefl d
  | cons c rest ih =>
    intro best d h
    obtain ⟨e, he, hbest, hc⟩ := hf best c
    rw [List.foldl_cons, he] at h
    obtain ⟨hde, hrest⟩ := ih h
    exact ⟨fun b hb => htrans (hde e rfl) (hbest b hb),
      List.forall_mem_cons.mpr ⟨htrans (hde e rfl) hc, hrest⟩⟩

/-- A rack that grows before another has no more members than it. -/
theorem le_of_growsBefore {a b : Rack × Int} (h : growsBefore a b = true) : a.2 ≤ b.2 := by
  simp only [growsBefore, Bool.or_eq_true, Bool.and_eq_true, decide_eq_true_eq, beq_iff_eq] at h
  omega

theorem le_of_not_growsBefore {a b : Rack × Int} (h : ¬ growsBefore a b = true) : b.2 ≤ a.2 := by
  simp only [growsBefore, Bool.or_eq_true, Bool.and_eq_true, decide_eq_true_eq, beq_iff_eq] at h
  omega

/-- What is grown is the best so far or the candidate at hand, so it is one of the racks given. -/
theorem rackToGrow?_choice (best : Option (Rack × Int)) (c d : Rack × Int)
    (h : (match best with
      | none => some c
      | some b => if growsBefore c b then some c else some b) = some d) :
    best = some d ∨ d = c := by
  cases best with
  | none => exact .inr (Option.some.inj h).symm
  | some b =>
    dsimp only at h
    split at h
    · exact .inr (Option.some.inj h).symm
    · exact .inl h

theorem rackToShrink?_choice (best : Option (Rack × Int)) (c d : Rack × Int)
    (h : (match best with
      | none => some c
      | some b => if growsBefore c b then some b else some c) = some d) :
    best = some d ∨ d = c := by
  cases best with
  | none => exact .inr (Option.some.inj h).symm
  | some b =>
    dsimp only at h
    split at h
    · exact .inl h
    · exact .inr (Option.some.inj h).symm

theorem rackToGrow?_mem {cs : List (Rack × Int)} {c : Rack × Int} (h : rackToGrow? cs = some c) :
    c ∈ cs :=
  foldl_choice_mem rackToGrow?_choice h

theorem rackToShrink?_mem {cs : List (Rack × Int)} {c : Rack × Int}
    (h : rackToShrink? cs = some c) : c ∈ cs :=
  foldl_choice_mem rackToShrink?_choice h

end Layout

namespace Observation

/-- At most one rack is to be grown or shrunk. -/
structure OneScaling (o : Observation) : Prop where
  way : o.racksIn .scaleUp = [] ∨ o.racksIn .scaleDown = []
  up : (o.racksIn .scaleUp).length ≤ 1
  down : (o.racksIn .scaleDown).length ≤ 1

/-- Every rack has converged and every member is settled. -/
structure Calm (o : Observation) : Prop where
  ready : ∀ v ∈ o.racks, v.ready = true
  still : ∀ m ∈ o.members, (o.statusOf m).isMoving = false

/-- A view that is found is one of those observed, and of the rack asked for. -/
theorem find?_eq_some {o : Observation} {r : Rack} {x : RackView} (h : o.find? r = some x) :
    x ∈ o.racks ∧ x.group.rack = r :=
  ⟨List.mem_of_find?_eq_some h, by simpa using List.find?_some h⟩

/-- The racks on one side are those whose views say so, in the order in which they were observed. -/
theorem racksReady_eq (o : Observation) (ready : Bool) :
    o.racksReady ready = (o.racks.filter fun v => v.ready = ready).map fun v => v.group.rack :=
  SortedMap.getD_find?_grouped ..

theorem racksReady_false_eq_nil {o : Observation} (h : o.racksReady false = []) :
    ∀ v ∈ o.racks, v.ready = true := by
  intro v hv
  simp only [racksReady_eq, List.map_eq_nil_iff, List.filter_eq_nil_iff, decide_eq_true_eq,
    Bool.not_eq_false] at h
  exact h v hv

theorem movingMembers_eq_nil {o : Observation} (h : o.movingMembers = []) :
    ∀ m ∈ o.members, (o.statusOf m).isMoving = false := by
  intro m hm
  simp only [movingMembers, List.filter_eq_nil_iff, Bool.not_eq_true] at h
  exact h m hm

end Observation

namespace Decision

variable {o : Observation} {previous : DataCenterPhase} {size : Int}

/-- A guard stops the pass, or everything is calm and a step is chosen. Facts about decisions are
shown by these cases and never by the code of the decision itself. -/
theorem decide_cases (o : Observation) (previous : DataCenterPhase) (size : Int) :
    (¬o.OneScaling ∧ ∃ reason, decide o previous size = .inconsistent reason) ∨
      (∃ racks, decide o previous size = .waitForRacks racks) ∨
      (∃ members, decide o previous size = .waitForMembers members) ∨
      o.Calm ∧ decide o previous size =
        proceed o (o.racksIn .scaleUp) (o.racksIn .scaleDown) previous size := by
  -- The guards one after the other, in the order of the code; only behind the last of them is
  -- everything calm.
  unfold decide
  dsimp only
  split
  next hboth =>
    simp only [Bool.and_eq_true, Bool.not_eq_true', List.isEmpty_eq_false_iff] at hboth
    exact .inl ⟨fun h => h.way.elim hboth.1 hboth.2, _, rfl⟩
  next =>
  split
  next hup => exact .inl ⟨fun h => absurd h.up (Nat.not_le.mpr hup), _, rfl⟩
  next =>
  split
  next hdown => exact .inl ⟨fun h => absurd h.down (Nat.not_le.mpr hdown), _, rfl⟩
  next =>
  split
  next => exact .inr (.inl ⟨_, rfl⟩)
  next hready =>
  split
  next => exact .inr (.inr (.inl ⟨_, rfl⟩))
  next hstill =>
    simp only [Bool.not_eq_true', Bool.not_eq_false, List.isEmpty_iff] at hready hstill
    exact .inr (.inr (.inr ⟨⟨Observation.racksReady_false_eq_nil hready,
      Observation.movingMembers_eq_nil hstill⟩, rfl⟩))

/-- What shrinking a rack comes to: the last member is missing, or its status says whether it is
asked to leave, waited for or taken away. -/
theorem shrink_cases (o : Observation) (r : Rack) (n : Int) :
    ((∀ m ∈ o.membersOf r, m.ordinal ≠ max (n - 1) 0) ∧
        ∃ reason, shrink o r n = .inconsistent reason) ∨
      ∃ m ∈ o.membersOf r, m.ordinal = max (n - 1) 0 ∧
        (o.statusOf m = .normal ∧ shrink o r n = .decommission r m ∨
          o.statusOf m = .decommissioned ∧ shrink o r n = .scaleDown r (max (n - 1) 0) m ∨
          ∃ s, shrink o r n = .waitForDecommission r m s) := by
  unfold shrink
  dsimp only
  split
  -- Not one of the rack's members has the highest ordinal: the survey contradicts itself.
  next hnone => exact .inl ⟨fun m hm => by simpa using List.find?_eq_none.mp hnone m hm, _, rfl⟩
  next m hm =>
    have hord : m.ordinal = max (n - 1) 0 := by simpa using List.find?_some hm
    refine .inr ⟨m, List.mem_of_find?_eq_some hm, hord, ?_⟩
    split
    next hs => exact .inl ⟨hs, rfl⟩
    next hs => exact .inr (.inl ⟨hs, rfl⟩)
    next => exact .inr (.inr ⟨_, rfl⟩)

/-- A candidate is a rack that was observed, with the count it has. -/
theorem mem_candidates {racks : List Rack} {r : Rack} {n : Int}
    (h : (r, n) ∈ candidates o racks) :
    r ∈ racks ∧ ∃ g, o.group? r = some g ∧ n = g.existingReplicas := by
  obtain ⟨s, hs, he⟩ := List.mem_filterMap.mp h
  obtain ⟨g, hg, he⟩ := Option.map_eq_some_iff.mp he
  cases he
  exact ⟨hs, g, hg, rfl⟩

/-- The step chosen, and what was seen of its rack. Rolling comes before growing, and growing before
shrinking. -/
theorem proceed_cases (o : Observation) (up down : List Rack) (previous : DataCenterPhase)
    (size : Int) :
    (∃ r ∈ o.racksIn .behind, proceed o up down previous size = .updateRack r) ∨
      o.racksIn .behind = [] ∧
        ((∃ r ∈ up, ∃ g, o.group? r = some g ∧
            proceed o up down previous size = .scaleUp r (g.existingReplicas + 1)) ∨
          (∃ r ∈ down, ∃ g, o.group? r = some g ∧
            proceed o up down previous size = shrink o r g.existingReplicas) ∨
          proceed o up down previous size = .converged (cleanupDue previous size)) := by
  unfold proceed
  split
  next r rest h => exact .inl ⟨r, by simp [h], rfl⟩
  next hbehind =>
    refine .inr ⟨hbehind, ?_⟩
    split
    next r n h =>
      obtain ⟨hr, g, hg, rfl⟩ := mem_candidates (Layout.rackToGrow?_mem h)
      exact .inl ⟨r, hr, g, hg, rfl⟩
    next =>
      split
      next r n h =>
        obtain ⟨hr, g, hg, rfl⟩ := mem_candidates (Layout.rackToShrink?_mem h)
        exact .inr (.inl ⟨r, hr, g, hg, rfl⟩)
      next => exact .inr (.inr rfl)

/-- A rack that is still to shrink does not make for convergence. -/
theorem shrink_ne_converged (o : Observation) (r : Rack) (n : Int) (cleanup : Bool) :
    shrink o r n ≠ .converged cleanup := by
  rcases shrink_cases o r n with
    ⟨-, reason, he⟩ | ⟨m, -, -, ⟨-, he⟩ | ⟨-, he⟩ | ⟨s, he⟩⟩
  all_goals
    rw [he]
    exact nofun

/-- The phase before bears on nothing but whether a cleanup is due, and on that only where all racks
are as they should be. -/
theorem proceed_previous (o : Observation) (up down : List Rack)
    (previous previous' : DataCenterPhase) (size : Int) :
    (∀ cleanup, proceed o up down previous size ≠ .converged cleanup) ∧
        proceed o up down previous' size = proceed o up down previous size ∨
      proceed o up down previous size = .converged (cleanupDue previous size) ∧
        proceed o up down previous' size = .converged (cleanupDue previous' size) := by
  unfold proceed
  split
  next => exact .inl ⟨nofun, rfl⟩
  next =>
    split
    next => exact .inl ⟨nofun, rfl⟩
    next =>
      split
      next => exact .inl ⟨shrink_ne_converged o _ _, rfl⟩
      next => exact .inr ⟨rfl, rfl⟩

/-- What is decided depends on the phase before in nothing but the cleanup that goes with
convergence. Over the same observation two passes may therefore differ only where both converge. -/
theorem decide_previous (o : Observation) (previous previous' : DataCenterPhase) (size : Int) :
    (∀ cleanup, decide o previous size ≠ .converged cleanup) ∧
        decide o previous' size = decide o previous size ∨
      decide o previous size = .converged (cleanupDue previous size) ∧
        decide o previous' size = .converged (cleanupDue previous' size) := by
  unfold decide
  dsimp only
  split
  · exact .inl ⟨nofun, rfl⟩
  · split
    · exact .inl ⟨nofun, rfl⟩
    · split
      · exact .inl ⟨nofun, rfl⟩
      · split
        · exact .inl ⟨nofun, rfl⟩
        · split
          · exact .inl ⟨nofun, rfl⟩
          · exact proceed_previous ..

/-- A decision about a rack was made when everything was calm. -/
inductive Chosen (o : Observation) : Decision → Prop
  | updateRack {r} (h : r ∈ o.racksIn .behind) : Chosen o (.updateRack r)
  | scaleUp {r g} (h : r ∈ o.racksIn .scaleUp) (hg : o.group? r = some g) :
    Chosen o (.scaleUp r (g.existingReplicas + 1))
  | decommission {r g m} (h : r ∈ o.racksIn .scaleDown) (hg : o.group? r = some g)
    (hm : m ∈ o.membersOf r) (ho : m.ordinal = max (g.existingReplicas - 1) 0)
    (hs : o.statusOf m = .normal) : Chosen o (.decommission r m)
  | scaleDown {r g m} (h : r ∈ o.racksIn .scaleDown) (hg : o.group? r = some g)
    (hm : m ∈ o.membersOf r) (ho : m.ordinal = max (g.existingReplicas - 1) 0)
    (hs : o.statusOf m = .decommissioned) :
    Chosen o (.scaleDown r (max (g.existingReplicas - 1) 0) m)

/-- Whether a decision writes a StatefulSet or asks a member to leave. -/
def acts (d : Decision) : Bool :=
  d.writesStatefulSet || match d with
    | decommission .. => true
    | _ => false

/-- A decision that acts was made in calm, and is one of four: to roll, to grow, to shrink a rack,
or to have a member leave. -/
theorem chosen_of_acts (h : (decide o previous size).acts = true) :
    o.Calm ∧ Chosen o (decide o previous size) := by
  -- The guards in front of the choice give answers that do not act.
  rcases decide_cases o previous size with ⟨-, reason, he⟩ | ⟨racks, he⟩ | ⟨ms, he⟩ | ⟨hc, he⟩
  · rw [he] at h; cases h
  · rw [he] at h; cases h
  · rw [he] at h; cases h
  rw [he] at h ⊢
  refine ⟨hc, ?_⟩
  rcases proceed_cases o (o.racksIn .scaleUp) (o.racksIn .scaleDown) previous size with
    ⟨r, hr, hp⟩ | ⟨-, ⟨r, hr, g, hg, hp⟩ | ⟨r, hr, g, hg, hp⟩ | hp⟩
  · rw [hp]; exact .updateRack hr
  · rw [hp]; exact .scaleUp hr hg
  · rw [hp] at h ⊢
    rcases shrink_cases o r g.existingReplicas with
      ⟨-, reason, he⟩ | ⟨m, hm, ho, ⟨hs, he⟩ | ⟨hs, he⟩ | ⟨s, he⟩⟩
    · rw [he] at h; cases h
    · rw [he]; exact .decommission hr hg hm ho hs
    · rw [he]; exact .scaleDown hr hg hm ho hs
    · rw [he] at h; cases h
  · rw [hp] at h; cases h

end Decision

end RackOperator
