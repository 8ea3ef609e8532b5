import RackOperator.Proofs.Queue.Runs
import RackOperator.Proofs.Queue.Weights
import Mathlib.Algebra.BigOperators.Group.Finset.Basic
import Mathlib.Logic.Hydra

/-!
# A queue comes to an end

Once nothing more is submitted, every handle resolves: as long as one has not, something
can move on (`exists_moves`), and things cannot move on for ever (`moves_less`). This holds
whatever comes next at each moment, and whatever the outside does to the world in between
(`Scene.Settles`).

What is left to do of the units goes down as a multiset of programs, one of which is
replaced by a later part of it or falls away; while it stays, the weight of the queue goes
down.
-/

namespace RackOperator

/-- The first program is what is left of the second after one effect. -/
def Program.After {β : Type} (p' p : Program β) : Prop :=
  ∃ e next r, p = .perform e next ∧ p' = next r

/-- A program has no endless path, as it is a tree all of whose branches end. -/
theorem Program.wellFounded_after (β : Type) :
    WellFounded (Program.After : Program β → Program β → Prop) := by
  refine ⟨fun p => ?_⟩
  induction p with
  | done a => exact ⟨_, fun p' ⟨e, next, r, hp, _⟩ => by cases hp⟩
  | crash => exact ⟨_, fun p' ⟨e, next, r, hp, _⟩ => by cases hp⟩
  | perform e next ih =>
    refine ⟨_, fun p' ⟨e', next', r, hp, hp'⟩ => ?_⟩
    cases hp
    rw [hp']
    exact ih r

namespace WorkQueue

open Relation (CutExpand)

variable {α : Type} {p : Nat} {s s' : Scene α}

namespace Scene

/-- What is left to do of a unit. -/
def left (s : Scene α) (t : Ticket) : Multiset (Program (Except OperatorError α)) :=
  match s.result t, s.body t, s.units[t]? with
  | some _, _, _ => 0
  | none, some b, _ => {b.rest}
  | none, none, some u => {u.work}
  | none, none, none => 0

/-- What is left to do of all units. -/
def remaining (s : Scene α) : Multiset (Program (Except OperatorError α)) :=
  ∑ t ∈ Finset.range s.units.length, s.left t

/-- Something moves on: a drainer or a unit, and nothing is submitted. The outside may have changed
the world before. -/
def Moves (s s' : Scene α) : Prop :=
  ∃ w, Step { s with world := w } s' ∧ s'.units = s.units ∧
    (s'.queue ≠ s.queue ∨ s'.body ≠ s.body)

/-- Every handle has resolved. -/
def Resolved (s : Scene α) : Prop := ∀ t, t < s.units.length → (s.result t).isSome

/-- However things move on, every handle resolves. -/
inductive Settles : Scene α → Prop
  | now {s : Scene α} (h : s.Resolved) : Settles s
  | later {s : Scene α} (hmove : ∃ s', s.Moves s') (h : ∀ s', s.Moves s' → Settles s') : Settles s

end Scene

open Scene

/-! ## What moves on becomes less -/

/-- If only one unit has changed, what is left of the others is the same. -/
theorem exists_remaining {t : Ticket} (hu : s'.units = s.units) (ht : t < s.units.length)
    (hoff : ∀ t', t' ≠ t → s'.left t' = s.left t') :
    ∃ rest, s.remaining = s.left t + rest ∧ s'.remaining = s'.left t + rest := by
  refine ⟨∑ t' ∈ (Finset.range s.units.length).erase t, s.left t', ?_, ?_⟩
  · exact (Finset.add_sum_erase _ _ (Finset.mem_range.mpr ht)).symm
  · unfold remaining
    rw [hu, ← Finset.add_sum_erase _ _ (Finset.mem_range.mpr ht)]
    exact congrArg _ (Finset.sum_congr rfl fun t' ht' => hoff t' (Finset.ne_of_mem_erase ht'))

theorem left_of_body {t : Ticket} {b : Underway (Except OperatorError α)}
    (hr : s.result t = none) (hb : s.body t = some b) : s.left t = {b.rest} := by
  unfold left
  rw [hr, hb]

theorem left_of_units {t : Ticket} {u : WorkUnit α} (hr : s.result t = none)
    (hb : s.body t = none) (hu : s.units[t]? = some u) : s.left t = {u.work} := by
  unfold left
  rw [hr, hb, hu]

theorem left_of_result {t : Ticket} {r : Except OperatorError α} (hr : s.result t = some r) :
    s.left t = 0 := by
  unfold left
  rw [hr]

theorem left_congr {t : Ticket} (hu : s'.units = s.units) (hb : s'.body t = s.body t)
    (hr : s'.result t = s.result t) : s'.left t = s.left t := by
  unfold left
  rw [hu, hb, hr]

/-- Less is left of the units; or as much, and less is ahead of the queue. -/
def Less (s' s : Scene α) : Prop :=
  Prod.Lex (CutExpand Program.After) (· < ·) (s'.remaining, s'.queue.weight)
    (s.remaining, s.queue.weight)

/-- The work that is left cannot go down for ever, nor the weight of the queue where no work is
done. -/
theorem wellFounded_less : WellFounded (Less : Scene α → Scene α → Prop) :=
  InvImage.wf (fun s : Scene α => (s.remaining, s.queue.weight))
    (WellFounded.prod_lex (Program.wellFounded_after _).cutExpand Nat.lt_wfRel.wf)

/-- A step of the queue alone makes it lighter and leaves the work as it is. -/
theorem less_of_queue {q : State} (h : q.weight < s.queue.weight) : Less { s with queue := q } s :=
  .right _ h

/-- Starting a unit takes nothing off its work, but brings its drainer a stage on. The work comes
first in the measure and the stages second. -/
theorem less_start (hk : Kept p s) {d : Drainer} {t : Ticket} {u : WorkUnit α}
    (hd : s.queue.drainer? d.id = some d) (hs : d.stage = .permitted t)
    (hu : s.units[t]? = some u) :
    Less { s with
      queue := s.queue.start d.id
      started := s.started ++ [t]
      body := Function.update s.body t (some (.fresh u.work)) } s := by
  obtain ⟨-, hnew⟩ := hk.of_pending (mem_pending_of_permitted hk.orderly hd hs)
  rw [hk.fate, not_or, Option.not_isSome_iff_eq_none, Option.not_isSome_iff_eq_none] at hnew
  obtain ⟨hb, hr⟩ := hnew
  let s' : Scene α := { s with
    queue := s.queue.start d.id
    started := s.started ++ [t]
    body := Function.update s.body t (some (.fresh u.work)) }
  obtain ⟨rest, hrest, hrest'⟩ := exists_remaining (show s'.units = s.units from rfl)
    (List.getElem?_eq_some_iff.mp hu).1
    fun t' ht' => left_congr rfl (Function.update_of_ne ht' _ _) rfl
  have hleft : s'.left t = {u.work} :=
    left_of_body (b := .fresh u.work) hr (Function.update_self t _ s.body)
  -- Before and after, all of its work is left.
  have hsame : s'.remaining = s.remaining := by
    rw [hrest, hrest', hleft, left_of_units hr hb hu]
  have hlt : s'.queue.weight < s.queue.weight := State.start_lt hk.orderly hd hs
  unfold Less
  rw [hsame]
  exact .right _ hlt

/-- An effect that is done is one less to do, in whatever way it is answered. Programs have no bound
on their effects, so it is the rest of the program that gets smaller and not a number. -/
theorem less_act (hk : Kept p s) {t : Ticket} {b b' : Underway (Except OperatorError α)}
    {w w' : World} (hb : s.body t = some b) (ha : b.Acts w b' w') :
    Less { s with world := w', body := Function.update s.body t (some b') } s := by
  have hsome : (s.body t).isSome := by rw [hb]; rfl
  have hr := hk.unresolved t hsome
  let s' : Scene α := { s with world := w', body := Function.update s.body t (some b') }
  -- Only this unit's part of the measure changes; the rest is the same on both sides.
  obtain ⟨rest, hrest, hrest'⟩ := exists_remaining (show s'.units = s.units from rfl)
    (hk.below t ((hk.fate t).mpr (.inl hsome)))
    fun t' ht' => left_congr rfl (Function.update_of_ne ht' _ _) rfl
  have hleft : s'.left t = {b'.rest} :=
    left_of_body (b := b') hr (Function.update_self t _ s.body)
  have hafter : Program.After b'.rest b.rest := by
    cases ha with
    | act ha => exact ⟨_, _, _, rfl, rfl⟩
  refine .left _ _ ?_
  rw [hrest, hrest', hleft, left_of_body hr hb]
  exact Relation.cutExpand_single_add hafter rest

/-- A unit that ends leaves nothing of its work. -/
theorem less_conclude (hk : Kept p s) {d : Drainer} {t : Ticket}
    {b : Underway (Except OperatorError α)} {r : Except OperatorError α} (hb : s.body t = some b) :
    Less { s with
      queue := s.queue.conclude d.id
      body := Function.update s.body t none
      result := Function.update s.result t (some r) } s := by
  have hsome : (s.body t).isSome := by rw [hb]; rfl
  let s' : Scene α := { s with
    queue := s.queue.conclude d.id
    body := Function.update s.body t none
    result := Function.update s.result t (some r) }
  obtain ⟨rest, hrest, hrest'⟩ := exists_remaining (show s'.units = s.units from rfl)
    (hk.below t ((hk.fate t).mpr (.inl hsome)))
    fun t' ht' => left_congr rfl (Function.update_of_ne ht' _ _) (Function.update_of_ne ht' _ _)
  have hleft : s'.left t = 0 := left_of_result (r := r) (Function.update_self t _ s.result)
  refine .left _ _ ?_
  rw [hrest, hrest', hleft, left_of_body (hk.unresolved t hsome) hb]
  refine ⟨0, b.rest, fun _ h => absurd h (Multiset.notMem_zero _), ?_⟩
  rw [zero_add, add_zero, add_comm]

/-- Whatever moves on leaves less, of the work or of the way through the queue. Submissions and
edits from outside are no moves, and are not counted on to end. -/
theorem moves_less (hk : Kept p s) (h : s.Moves s') : Less s' s := by
  obtain ⟨w, hstep, hunits, hchange⟩ := h
  have hk := kept_edit hk w
  -- the world does not count
  suffices hless : Less s' { s with world := w } from hless
  have hqueue : ∀ {q : State}, s' = { s with world := w, queue := q } →
      (q.weight < s.queue.weight ∨ q = s.queue) → Less s' { s with world := w } := by
    rintro q rfl (hlt | he)
    · exact less_of_queue hlt
    · exact absurd he (hchange.resolve_right fun hb => hb rfl)
  cases hstep with
  | submit u =>
    have hlength := congrArg List.length hunits
    rw [List.length_append, List.length_singleton] at hlength
    exact absurd hlength (Nat.succ_ne_self _)
  | receive id => exact hqueue rfl (State.receive_cases hk.orderly id)
  | recheck id => exact hqueue rfl (State.recheck_cases hk.orderly id)
  | request id => exact hqueue rfl (State.request_cases hk.orderly id)
  | start hd hs hu => exact less_start hk hd hs hu
  | act hb ha => exact less_act hk hb ha
  | conclude hd hs hb hu hr => exact less_conclude hk hb
  | release id => exact hqueue rfl (State.release_cases hk.orderly id)
  | edit w' =>
    rcases hchange with hne | hne
    · exact absurd rfl hne
    · exact absurd rfl hne

/-! ## Something moves on -/

theorem exists_unit {t : Ticket} {key : ClusterKey} (h : s.keyOf t = some key) :
    ∃ u, s.units[t]? = some u := by
  obtain ⟨u, hu, -⟩ := Option.map_eq_some_iff.mp h
  exact ⟨u, hu⟩

theorem moves_of_queue {q : State} (hstep : Step s { s with queue := q })
    (hlt : q.weight < s.queue.weight) : ∃ s', s.Moves s' :=
  ⟨_, s.world, hstep, rfl, .inl fun he => absurd hlt (by rw [show q = s.queue from he]; omega)⟩

/-- A unit that runs does its next effect or ends. It is not kept waiting by another unit. -/
theorem moves_of_running (hk : Kept p s) {d : Drainer} (hd : s.queue.drainer? d.id = some d)
    {t : Ticket} (hs : d.stage = .running t) : ∃ s', s.Moves s' := by
  obtain ⟨hsome, hkey⟩ := hk.of_running hd hs
  obtain ⟨b, hb⟩ := Option.isSome_iff_exists.mp hsome
  obtain ⟨u, hu⟩ := exists_unit hkey
  have hends : ∀ r, Outcome u b.rest r → ∃ s', s.Moves s' := by
    intro r hr
    refine ⟨_, s.world, .conclude s hd hs hb hu hr, rfl, .inr fun he => ?_⟩
    have hnone : Function.update s.body t none t = s.body t := congrFun he t
    rw [Function.update_self, hb] at hnone
    cases hnone
  obtain ⟨h, rest⟩ := b
  cases rest with
  | done r => exact hends r (.ended r)
  | crash => exact hends _ .crashed
  | perform e next =>
    have ha : Underway.Acts ⟨h, .perform e next⟩ s.world _ _ :=
      .act (Answers.answers_perform s.world e)
    refine ⟨_, s.world, .act s hb ha, rfl, .inr fun he => ?_⟩
    have hsame : Function.update s.body t (some _) t = s.body t := congrFun he t
    rw [Function.update_self, hb] at hsame
    -- the history has grown
    have hlength := congrArg (fun b => b.history.length) (Option.some.inj hsame)
    simp at hlength

/-- A drainer that does not wait can go on, whatever the others do. -/
theorem moves_of_drainer (hk : Kept p s) {d : Drainer} (hd : s.queue.drainer? d.id = some d)
    (hw : d.stage.isWaiting = false) : ∃ s', s.Moves s' := by
  -- Every stage but waiting for a permit has its own next step.
  cases hs : d.stage with
  | idle => exact moves_of_queue (.receive s d.id) (State.receive_lt hk.orderly hd hs)
  | emptyHanded => exact moves_of_queue (.recheck s d.id) (State.recheck_lt hk.orderly hd hs)
  | holding t => exact moves_of_queue (.request s d.id) (State.request_lt hk.orderly hd hs)
  | waiting t =>
    rw [hs] at hw
    cases hw
  | permitted t =>
    obtain ⟨hkey, -⟩ := hk.of_pending (mem_pending_of_permitted hk.orderly hd hs)
    obtain ⟨u, hu⟩ := exists_unit hkey
    refine ⟨_, s.world, .start s hd hs hu, rfl, .inl fun he => ?_⟩
    have hlt := State.start_lt hk.orderly hd hs
    rw [show s.queue.start d.id = s.queue from he] at hlt
    exact absurd hlt (Nat.lt_irrefl _)
  | running t => exact moves_of_running hk hd hs
  | ended t => exact moves_of_queue (.release s d.id) (State.release_lt hk.orderly hd hs)

/-- While a drainer waits, another has a permit, and that one does not wait. -/
theorem exists_permit (hk : Kept p s) {d : Drainer} (hd : s.queue.drainer? d.id = some d)
    (hw : d.stage.isWaiting = true) :
    ∃ f, s.queue.drainer? f.id = some f ∧ f.stage.isWaiting = false := by
  have hline : s.queue.line ≠ [] :=
    List.ne_nil_of_mem ((hk.orderly.line d.id).mpr ⟨d, hd, hw⟩)
  have hfree := hk.busy hline
  have hpermits := hk.orderly.permits
  obtain ⟨f, hf, hp⟩ := List.countP_pos_iff.mp
    (show 0 < s.queue.drainers.countP (·.stage.hasPermit) by omega)
  refine ⟨f, State.drainer?_of_mem hk.orderly.ids hf, ?_⟩
  cases hs : f.stage with
  | waiting t =>
    rw [hs] at hp
    cases hp
  | _ => rfl

/-- A unit whose program is under way is run by a drainer. -/
theorem exists_runner (hk : Kept p s) {t : Ticket} (hb : (s.body t).isSome) :
    ∃ d, s.queue.drainer? d.id = some d ∧ d.stage = .running t := by
  have ht := hk.below t ((hk.fate t).mpr (.inl hb))
  have hkey := keyOf_of_units (List.getElem?_eq_getElem ht)
  obtain ⟨d, hd, hrun⟩ := Option.bind_eq_some_iff.mp ((hk.running _ t).mpr ⟨hb, hkey⟩)
  exact ⟨d, (State.drainer?_of_serving hk.orderly hd).1, Stage.running?_eq_some.mp hrun⟩

/-- The drainer that has an unresolved unit, before it starts or while it runs. No unit is lost
between being submitted and being resolved. -/
theorem exists_drainer (hk : Kept p s) {t : Ticket} (ht : t < s.units.length)
    (hr : s.result t = none) : ∃ d, s.queue.drainer? d.id = some d ∧ t ∈ d.load := by
  obtain ⟨u, hu⟩ : ∃ u, s.units[t]? = some u := ⟨_, List.getElem?_eq_getElem ht⟩
  have hmem : t ∈ s.submitted u.key :=
    List.mem_filter.mpr ⟨List.mem_range.mpr ht, decide_eq_true (keyOf_of_units hu)⟩
  rw [← hk.order u.key, List.mem_append] at hmem
  rcases hmem with hmem | hmem
  · -- started and unresolved, it runs
    have hbody : (s.body t).isSome := by
      rcases (hk.fate t).mp (List.mem_filter.mp hmem).1 with h | h
      · exact h
      · rw [hr] at h
        cases h
    obtain ⟨d, hd, hs⟩ := exists_runner hk hbody
    refine ⟨d, hd, List.mem_append_left _ ?_⟩
    rw [hs]
    exact List.mem_singleton_self t
  · unfold State.pending at hmem
    cases hd : s.queue.serving u.key with
    | none =>
      rw [hd] at hmem
      cases hmem
    | some d =>
      rw [hd] at hmem
      exact ⟨d, (State.drainer?_of_serving hk.orderly hd).1, List.mem_append_right _ hmem⟩

/-- As long as a handle has not resolved, something can move on: the drainer that has its unit, or
the one whose permit that drainer waits for. -/
theorem exists_moves (hk : Kept p s) (h : ¬s.Resolved) : ∃ s', s.Moves s' := by
  unfold Resolved at h
  push Not at h
  obtain ⟨t, ht, hr⟩ := h
  obtain ⟨d, hd, -⟩ := exists_drainer hk ht (Option.not_isSome_iff_eq_none.mp hr)
  cases hw : d.stage.isWaiting with
  | false => exact moves_of_drainer hk hd hw
  | true =>
    obtain ⟨f, hf, hfw⟩ := exists_permit hk hd hw
    exact moves_of_drainer hk hf hfw

theorem kept_moves (hk : Kept p s) (h : s.Moves s') : Kept p s' := by
  obtain ⟨w, hstep, -⟩ := h
  exact kept_step (kept_edit hk w) hstep

/-- Whatever moves on and however often, every handle resolves. The induction is on what is left. -/
theorem settles_of_kept (hk : Kept p s) : s.Settles := by
  induction s using wellFounded_less.induction with
  | _ s ih =>
    by_cases h : s.Resolved
    · exact .now h
    · exact .later (exists_moves hk h) fun s' hm => ih s' (moves_less hk hm) (kept_moves hk hm)

end WorkQueue

end RackOperator
