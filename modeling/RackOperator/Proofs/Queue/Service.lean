import RackOperator.Proofs.Queue.Progress

/-!
# What a queue promises

However submissions, drainers and units interleave, a queue runs one unit of a key at a
time and the units of a key in the order of their submission; it runs no more units at once
than it has permits; it neither loses a unit nor runs it twice; and each handle resolves to
what came of its own unit, an error if that unit crashed (`served_of_reaches`).
-/

namespace RackOperator.WorkQueue

variable {α : Type} {p : Nat} {s s' : Scene α}

namespace Scene

/-- The units that run. -/
def running (s : Scene α) : List Ticket :=
  (List.range s.units.length).filter fun t => (s.body t).isSome

/-- A live drainer, registered under the key of a unit, has it: it runs it, or will once. -/
structure Has (s : Scene α) (d : Drainer) (t : Ticket) : Prop where
  live : d ∈ s.queue.drainers
  key : s.keyOf t = some d.key
  registered : s.queue.registered.find? d.key = some d.id
  once : d.load.count t = 1
  runs : d.stage = .running t ↔ (s.body t).isSome

/-- Nothing has changed but for one unit: the others run on, are resolved or wait as before. -/
structure SameBut (t : Ticket) (s s' : Scene α) : Prop where
  world : s'.world = s.world
  units : s'.units = s.units
  started : s'.started = s.started
  pending : ∀ key, s'.queue.pending key = s.queue.pending key
  body : ∀ t', t' ≠ t → s'.body t' = s.body t'
  result : ∀ t', t' ≠ t → s'.result t' = s.result t'

/-- A queue with a number of permits serves its units. -/
structure Served (p : Nat) (s : Scene α) : Prop where
  /-- Of a key, one unit runs. -/
  alone : ∀ t t', (s.body t).isSome → (s.body t').isSome → s.keyOf t = s.keyOf t' → t = t'
  /-- The units of a key start in the order in which they were submitted. -/
  inOrder : ∀ key, s.startedOf key <+: s.submitted key
  /-- No unit starts twice. -/
  startedOnce : s.started.Nodup
  /-- Some units run, no more than there are permits. -/
  mem_running : ∀ t, t ∈ s.running ↔ (s.body t).isSome
  length_running : s.running.length ≤ max p 1
  /-- A unit that has not ended is with one drainer. -/
  inHand : ∀ t, t < s.units.length → s.result t = none → ∃ d, s.Has d t
  /-- A unit is with no other drainer, and with none once it has ended. -/
  nowhereElse : ∀ d ∈ s.queue.drainers, ∀ t ∈ d.load,
    t < s.units.length ∧ s.result t = none ∧ s.Has d t ∧ ∀ d', s.Has d' t → d' = d
  /-- A handle has resolved to what came of the unit's own program. -/
  own : ∀ t r, s.result t = some r →
    ∃ u h rest, s.units[t]? = some u ∧ u.work.Follows h rest ∧ Outcome u rest r
  /-- A handle resolves once, and this touches nothing else. -/
  resolves : ∀ s', Step s s' → ∀ t r, s'.result t = some r →
    s.result t = some r ∨ (s.result t = none ∧ s.SameBut t s')
  /-- All that can become of a unit that has crashed is an error of this unit. -/
  crashed : ∀ t u h, s.units[t]? = some u → s.body t = some ⟨h, .crash⟩ → ∀ s', Step s s' →
    s'.body t = some ⟨h, .crash⟩ ∨
      s'.result t = some (.error (.unit u.key.text u.description "unit panicked"))
  /-- Once nothing more is submitted, every handle resolves, whatever happens. -/
  settles : s.Settles

end Scene

open Scene

/-! ## Who has a unit -/

/-- A drainer has each of its units once. -/
theorem nodup_load (hk : Kept p s) {d : Drainer} (hd : s.queue.drainer? d.id = some d) :
    d.load.Nodup := by
  have hnd := nodup_submitted s d.key
  rw [← hk.order d.key, State.pending_of_drainer? hk.orderly hd, List.nodup_append'] at hnd
  refine List.nodup_append'.mpr ⟨?_, hnd.2.1, fun t ht hpending => ?_⟩
  · cases d.stage.running? with
    | none => exact .nil
    | some t => exact List.nodup_singleton t
  · -- what runs has started
    have hrun : s.queue.running? d.key = some t := by
      rw [State.running?_of_drainer? hk.orderly hd]
      exact Option.mem_toList.mp ht
    obtain ⟨hbody, hkey⟩ := (hk.running d.key t).mp hrun
    have hstarted := (hk.fate t).mpr (.inl hbody)
    exact hnd.2.2 (List.mem_filter.mpr ⟨hstarted, decide_eq_true hkey⟩) hpending

/-- A unit a drainer has was submitted under its key and is unresolved; the drainer runs it exactly
if its program is under way. -/
theorem of_mem_load (hk : Kept p s) {d : Drainer} (hd : s.queue.drainer? d.id = some d)
    {t : Ticket} (ht : t ∈ d.load) :
    s.keyOf t = some d.key ∧ s.result t = none ∧ (d.stage = .running t ↔ (s.body t).isSome) := by
  rcases List.mem_append.mp ht with hrun | hpending
  · have hs : d.stage = .running t := Stage.running?_eq_some.mp (Option.mem_toList.mp hrun)
    obtain ⟨hbody, hkey⟩ := hk.of_running hd hs
    exact ⟨hkey, hk.unresolved t hbody, fun _ => hbody, fun _ => hs⟩
  · have hmem : t ∈ s.queue.pending d.key := by
      rw [State.pending_of_drainer? hk.orderly hd]
      exact hpending
    obtain ⟨hkey, hnew⟩ := hk.of_pending hmem
    rw [hk.fate, not_or, Option.not_isSome_iff_eq_none, Option.not_isSome_iff_eq_none] at hnew
    refine ⟨hkey, hnew.2, fun hs => (hk.of_running hd hs).1, fun hbody => ?_⟩
    rw [hnew.1] at hbody
    cases hbody

theorem has_of_mem_load (hk : Kept p s) {d : Drainer} (hd : s.queue.drainer? d.id = some d)
    {t : Ticket} (ht : t ∈ d.load) : s.Has d t := by
  obtain ⟨hkey, -, hruns⟩ := of_mem_load hk hd ht
  exact ⟨State.mem_of_drainer? hd, hkey, (hk.orderly.registered d.key d.id).mpr ⟨d, hd, rfl⟩,
    List.count_eq_one_of_mem (nodup_load hk hd) ht, hruns⟩

/-- Two drainers do not have the same unit, so nobody else starts it. -/
theorem Scene.Has.unique (hk : Kept p s) {d d' : Drainer} {t : Ticket} (h : s.Has d t)
    (h' : s.Has d' t) : d = d' := by
  have hkey : d.key = d'.key := Option.some.inj (h.key.symm.trans h'.key)
  have hid : d.id = d'.id := by
    have hreg := h.registered
    rw [hkey, h'.registered] at hreg
    exact (Option.some.inj hreg).symm
  exact List.inj_on_of_nodup_map hk.orderly.ids h.live h'.live hid

/-! ## What runs -/

theorem mem_running (hk : Kept p s) (t : Ticket) : t ∈ s.running ↔ (s.body t).isSome :=
  ⟨fun h => (List.mem_filter.mp h).2, fun h =>
    List.mem_filter.mpr ⟨List.mem_range.mpr (hk.below t ((hk.fate t).mpr (.inl h))), h⟩⟩

/-- Of two units of one key at most one runs, since one drainer serves the key. -/
theorem alone (hk : Kept p s) {t t' : Ticket} (h : (s.body t).isSome) (h' : (s.body t').isSome)
    (hkey : s.keyOf t = s.keyOf t') : t = t' := by
  obtain ⟨d, hd, hs⟩ := exists_runner hk h
  have ht := hk.of_running hd hs
  have hrun := (hk.running d.key t).mpr ht
  have hrun' := (hk.running d.key t').mpr ⟨h', hkey ▸ ht.2⟩
  exact Option.some.inj (hrun.symm.trans hrun')

/-- Each unit that runs takes a permit, so no more run than there are permits. The drainers that run
a unit are among those that hold one, and those are counted. -/
theorem length_running_le (hk : Kept p s) : s.running.length ≤ max p 1 := by
  let runners := s.queue.drainers.filterMap (·.stage.running?)
  have hsub : s.running ⊆ runners := by
    intro t ht
    obtain ⟨d, hd, hs⟩ := exists_runner hk ((mem_running hk t).mp ht)
    refine List.mem_filterMap.mpr ⟨d, State.mem_of_drainer? hd, ?_⟩
    rw [hs]
    rfl
  -- Each running unit has a drainer of its own, and that drainer holds a permit.
  have hpermit : ∀ d ∈ s.queue.drainers, (d.stage.running?).isSome → d.stage.hasPermit := by
    intro d _ hd
    cases hs : d.stage with
    | running t => rfl
    | _ =>
      rw [hs] at hd
      cases hd
  calc s.running.length
      ≤ runners.length :=
        ((List.nodup_range.filter _).subperm hsub).length_le
    _ = s.queue.drainers.countP fun d => (d.stage.running?).isSome :=
        List.length_filterMap_eq_countP
    _ ≤ s.queue.drainers.countP (·.stage.hasPermit) := List.countP_mono_left hpermit
    _ ≤ max p 1 := by
        rw [← hk.orderly.permits]
        exact Nat.le_add_left _ _

/-- The units started are started once, whatever becomes of them. -/
theorem nodup_started (hk : Kept p s) : s.started.Nodup := by
  rw [List.nodup_iff_count_le_one]
  intro t
  by_cases ht : t ∈ s.started
  · obtain ⟨key, hkey⟩ : ∃ key, s.keyOf t = some key :=
      ⟨_, keyOf_of_units (List.getElem?_eq_getElem (hk.below t ht))⟩
    have hnd := nodup_submitted s key
    rw [← hk.order key, List.nodup_append'] at hnd
    calc s.started.count t
        = (s.startedOf key).count t :=
          (List.count_filter (p := fun t => s.keyOf t = some key) (decide_eq_true hkey)).symm
      _ ≤ 1 := List.nodup_iff_count_le_one.mp hnd.1 t
  · rw [List.count_eq_zero_of_not_mem ht]
    exact Nat.zero_le 1

/-! ## How handles resolve -/

/-- A step that resolves a handle is the end of this unit, and of no other. -/
theorem resolves (hk : Kept p s) (h : Step s s') {t : Ticket} {r : Except OperatorError α}
    (hr : s'.result t = some r) : s.result t = some r ∨ (s.result t = none ∧ s.SameBut t s') := by
  cases h with
  | conclude hd hs hb hu ho =>
    rename_i d t₀ u b r₀
    by_cases ht : t = t₀
    · refine .inr ?_
      rw [ht]
      refine ⟨hk.unresolved t₀ (by rw [hb]; rfl), rfl, rfl, rfl, ?_, ?_, ?_⟩
      · exact (State.conclude_spec hk.orderly hk.busy hd hs).2.2.1
      · exact fun t' ht' => Function.update_of_ne ht' _ _
      · exact fun t' ht' => Function.update_of_ne ht' _ _
    · have hsame : Function.update s.result t₀ (some r₀) t = s.result t :=
        Function.update_of_ne ht _ _
      exact .inl (hsame.symm.trans hr)
  | _ => exact .inl hr

/-- A unit that has crashed stays so until its handle resolves to its error. Its drainer goes on
with the next. -/
theorem crashed (h : Step s s') {t : Ticket} {u : WorkUnit α} {past : History}
    (hu : s.units[t]? = some u) (hb : s.body t = some ⟨past, .crash⟩) (hk : Kept p s) :
    s'.body t = some ⟨past, .crash⟩ ∨ s'.result t = some (.error (Schedule.crashed u)) := by
  -- A crashed unit has no effect left to do, and it has started already; it can only be concluded.
  cases h with
  | start hd hs hu' =>
    rename_i d t₀ u'
    obtain ⟨-, hnew⟩ := hk.of_pending (mem_pending_of_permitted hk.orderly hd hs)
    have hne : t ≠ t₀ := fun he => hnew ((hk.fate t₀).mpr (.inl (by rw [← he, hb]; rfl)))
    exact .inl ((Function.update_of_ne hne _ _).trans hb)
  | act hb' ha =>
    rename_i t₀ b b' w'
    have hne : t ≠ t₀ := by
      rintro rfl
      cases hb.symm.trans hb'
      cases ha
    exact .inl ((Function.update_of_ne hne _ _).trans hb)
  | conclude hd hs hb' hu' ho =>
    rename_i d t₀ u' b r
    by_cases ht : t = t₀
    · subst ht
      cases hb.symm.trans hb'
      cases hu.symm.trans hu'
      cases ho
      exact .inr (Function.update_self _ _ _)
    · exact .inl ((Function.update_of_ne ht _ _).trans hb)
  | _ => exact .inl hb

/-- What is kept along every run is what it means for units to be served. This is the one place
where the invariant is turned into what a caller of the queue can rely on. -/
theorem served_of_kept (hk : Kept p s) : s.Served p where
  alone t t' h h' hkey := alone hk h h' hkey
  inOrder key := ⟨_, hk.order key⟩
  startedOnce := nodup_started hk
  mem_running := mem_running hk
  length_running := length_running_le hk
  inHand t ht hr := by
    obtain ⟨d, hd, hload⟩ := exists_drainer hk ht hr
    exact ⟨d, has_of_mem_load hk hd hload⟩
  nowhereElse d hmem t ht := by
    have hd := State.drainer?_of_mem hk.orderly.ids hmem
    have hhas := has_of_mem_load hk hd ht
    obtain ⟨u, hu⟩ := exists_unit hhas.key
    exact ⟨(List.getElem?_eq_some_iff.mp hu).1, (of_mem_load hk hd ht).2.1, hhas,
      fun d' h' => h'.unique hk hhas⟩
  own := hk.result
  resolves s' h t r hr := resolves hk h hr
  crashed t u past hu hb s' h := crashed h hu hb hk
  settles := settles_of_kept hk

/-- A queue with any number of permits serves the units submitted to it, however their submission,
the drainers' steps and the units' programs interleave and whatever else happens to the world. -/
theorem served_of_reaches {w : World} (h : Reaches (.new w p) s) : s.Served p :=
  served_of_kept (kept_of_reaches h)

/-- Two units of one key and one permit: the first crashes while it runs, and the second runs next.
The crash costs the queue neither the permit nor the drainer. -/
theorem served_after_crash : ∃ s : Scene Unit,
    Reaches (.new {} 0) s ∧ s.Served 0 ∧
      s.result 0 = some (.error (.unit "ns/dc" "reconcile" "unit panicked")) ∧ s.running = [1] := by
  let key : ClusterKey := ⟨"ns", "dc"⟩
  let falls : WorkUnit Unit := ⟨key, "reconcile", .crash⟩
  let ends : WorkUnit Unit := ⟨key, "reconcile", .done (.ok ())⟩
  have h := Relation.ReflTransGen.single (Step.submit (.new {} 0) falls)
  have h := ((h.tail (.receive _ 0)).tail (.request _ 0)).tail
    (.start _ (d := ⟨0, key, [], .permitted 0⟩) rfl rfl rfl)
  -- the second is submitted while the first runs
  have h := (h.tail (.submit _ ends)).tail
    (.conclude _ (d := ⟨0, key, [1], .running 0⟩) rfl rfl rfl rfl .crashed)
  -- the scene written out, so that what is next computes from a small term
  let halfway : Scene Unit := {
    world := {}
    queue := {
      free := 0
      drainers := [⟨0, key, [1], .ended 0⟩]
      registered := SortedMap.insert {} key 0
      spawned := 1 }
    units := [falls, ends]
    started := [0]
    body := Function.update (Function.update (fun _ => none) 0 (some (.fresh .crash))) 0 none
    result := Function.update (fun _ => none) 0 (some (.error (Schedule.crashed falls))) }
  have h : Reaches (.new {} 0) halfway := h
  have h := (((h.tail (.release _ 0)).tail (.receive _ 0)).tail (.request _ 0)).tail
    (.start _ (d := ⟨0, key, [], .permitted 1⟩) rfl rfl rfl)
  exact ⟨_, h, served_of_reaches h, rfl, rfl⟩

end RackOperator.WorkQueue
