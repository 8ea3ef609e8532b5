import RackOperator.Proofs.Queue.Turns
import RackOperator.Proofs.Underway
import RackOperator.WorkQueue.Schedule
import Mathlib.Logic.Function.Basic
import Mathlib.Logic.Relation

/-!
# Runs of a queue

A `Scene` is a queue with the units submitted to it, which of them have started and in what
order, the program of each unit that runs and the result of each that has ended. A `Step`
is a submission, one atomic step of a drainer, the start of a unit, one effect of a unit
that runs, or its end; any step may follow any other. A unit ends when its program does, and
a program that crashes comes out as an error of its unit (`Outcome`).

`Kept` is what holds along every run: under each key the units started and those pending,
in this order, are those submitted; a key runs the unit that has a program under way; and
each program, and each result, is that of the unit submitted under its ticket.
-/

namespace RackOperator.WorkQueue

open Relation (ReflTransGen)

variable {α : Type}

/-- What comes of a unit when its program has come to an end. -/
inductive Outcome (u : WorkUnit α) :
    Program (Except OperatorError α) → Except OperatorError α → Prop
  | ended (r : Except OperatorError α) : Outcome u (.done r) r
  | crashed : Outcome u .crash (.error (Schedule.crashed u))

/-- A queue, its units and the world they act on. -/
structure Scene (α : Type) where
  world : World
  queue : State
  /-- The units submitted, by ticket. -/
  units : List (WorkUnit α) := []
  /-- The units started, oldest first. -/
  started : List Ticket := []
  /-- The programs of the units that run. -/
  body : Ticket → Option (Underway (Except OperatorError α)) := fun _ => none
  /-- What the handles have resolved to. -/
  result : Ticket → Option (Except OperatorError α) := fun _ => none

namespace Scene

/-- A new queue. -/
def new (w : World) (poolSize : Nat) : Scene α := { world := w, queue := .new poolSize }

/-- The key a ticket was submitted under. -/
def keyOf (s : Scene α) (t : Ticket) : Option ClusterKey := s.units[t]?.map (·.key)

/-- The tickets of a key in the order of submission. -/
def submitted (s : Scene α) (key : ClusterKey) : List Ticket :=
  (List.range s.units.length).filter fun t => s.keyOf t = some key

/-- The tickets of a key that have started, oldest first. -/
def startedOf (s : Scene α) (key : ClusterKey) : List Ticket :=
  s.started.filter fun t => s.keyOf t = some key

end Scene

/-- What can happen next. -/
inductive Step : Scene α → Scene α → Prop
  /-- A unit is submitted. -/
  | submit (s : Scene α) (u : WorkUnit α) :
    Step s { s with queue := s.queue.submit u.key s.units.length, units := s.units ++ [u] }
  /-- A drainer receives from its channel. -/
  | receive (s : Scene α) (id : Nat) : Step s { s with queue := s.queue.receive id }
  /-- A drainer looks once more, and goes if there is nothing. -/
  | recheck (s : Scene α) (id : Nat) : Step s { s with queue := s.queue.recheck id }
  /-- A drainer asks for a permit. -/
  | request (s : Scene α) (id : Nat) : Step s { s with queue := s.queue.request id }
  /-- A drainer with a permit starts its unit. -/
  | start (s : Scene α) {d : Drainer} {t : Ticket} {u : WorkUnit α}
    (hd : s.queue.drainer? d.id = some d) (hs : d.stage = .permitted t)
    (hu : s.units[t]? = some u) :
    Step s { s with
      queue := s.queue.start d.id
      started := s.started ++ [t]
      body := Function.update s.body t (some (.fresh u.work)) }
  /-- A unit that runs does one effect. -/
  | act (s : Scene α) {t : Ticket} {b b' : Underway (Except OperatorError α)} {w' : World}
    (hb : s.body t = some b) (ha : b.Acts s.world b' w') :
    Step s { s with world := w', body := Function.update s.body t (some b') }
  /-- A unit that runs ends, and its handle resolves. -/
  | conclude (s : Scene α) {d : Drainer} {t : Ticket} {u : WorkUnit α}
    {b : Underway (Except OperatorError α)} {r : Except OperatorError α}
    (hd : s.queue.drainer? d.id = some d) (hs : d.stage = .running t)
    (hb : s.body t = some b) (hu : s.units[t]? = some u) (hr : Outcome u b.rest r) :
    Step s { s with
      queue := s.queue.conclude d.id
      body := Function.update s.body t none
      result := Function.update s.result t (some r) }
  /-- A drainer hands its permit on. -/
  | release (s : Scene α) (id : Nat) : Step s { s with queue := s.queue.release id }
  /-- The outside changes the world. -/
  | edit (s : Scene α) (w' : World) : Step s { s with world := w' }

/-- Any number of steps. -/
abbrev Reaches : Scene α → Scene α → Prop := ReflTransGen Step

/-- What holds along every run of a queue with a number of permits. -/
structure Kept (p : Nat) (s : Scene α) : Prop where
  orderly : s.queue.Orderly p
  busy : s.queue.Busy
  below : ∀ t ∈ s.started, t < s.units.length
  order : ∀ key, s.startedOf key ++ s.queue.pending key = s.submitted key
  running : ∀ key t, s.queue.running? key = some t ↔ (s.body t).isSome ∧ s.keyOf t = some key
  fate : ∀ t, t ∈ s.started ↔ (s.body t).isSome ∨ (s.result t).isSome
  unresolved : ∀ t, (s.body t).isSome → s.result t = none
  body : ∀ t b, s.body t = some b →
    ∃ u, s.units[t]? = some u ∧ u.work.Follows b.history b.rest
  result : ∀ t r, s.result t = some r →
    ∃ u h rest, s.units[t]? = some u ∧ u.work.Follows h rest ∧ Outcome u rest r

variable {p : Nat} {s s' : Scene α}

/-- A new queue has all its permits, nobody in line and nothing submitted. -/
theorem kept_new (w : World) (p : Nat) : Kept p (.new w p : Scene α) where
  orderly := {
    ids := .nil
    below := fun d hd => absurd hd List.not_mem_nil
    registered := fun key id =>
      ⟨fun h => (by cases h), fun ⟨d, hd, _⟩ => (by cases hd)⟩
    inLine := .nil
    line := fun id => ⟨fun h => absurd h List.not_mem_nil, fun ⟨d, hd, _⟩ => (by cases hd)⟩
    permits := rfl }
  busy h := absurd rfl h
  below t ht := absurd ht List.not_mem_nil
  order key := rfl
  running key t := ⟨fun h => (by cases h), fun ⟨h, _⟩ => (by cases h)⟩
  fate t := ⟨fun h => absurd h List.not_mem_nil, fun h => (by rcases h with h | h <;> cases h)⟩
  unresolved t h := by cases h
  body t b h := by cases h
  result t r h := by cases h

theorem nodup_submitted (s : Scene α) (key : ClusterKey) : (s.submitted key).Nodup :=
  List.nodup_range.filter _

theorem keyOf_of_mem_submitted {key : ClusterKey} {t : Ticket} (h : t ∈ s.submitted key) :
    s.keyOf t = some key :=
  of_decide_eq_true (List.mem_filter.mp h).2

/-- Steps that start and end nothing keep what holds, if the queue stays orderly and every ticket
stays where it was. -/
theorem kept_of_keeps (hk : Kept p s) {q : State} (ho : q.Orderly p) (hb : q.Busy)
    (hq : s.queue.Keeps q) : Kept p { s with queue := q } where
  orderly := ho
  busy := hb
  below := hk.below
  order key := by
    show s.startedOf key ++ q.pending key = s.submitted key
    rw [hq.pending, hk.order]
  running key t := by
    show q.running? key = some t ↔ _
    rw [hq.running]
    exact hk.running key t
  fate := hk.fate
  unresolved := hk.unresolved
  body := hk.body
  result := hk.result

/-- A unit that is submitted goes behind those of its key, and is the last to have been. Its ticket
is a new one, so nothing that holds of the others is about it. -/
theorem kept_submit (hk : Kept p s) (u : WorkUnit α) :
    Kept p { s with queue := s.queue.submit u.key s.units.length, units := s.units ++ [u] } := by
  obtain ⟨ho, hb, hpending, hrunning⟩ := State.submit_spec hk.orderly hk.busy u.key s.units.length
  -- The units there were keep their places in the list, so nothing said of their tickets changes.
  have hold : ∀ t, t < s.units.length → (s.units ++ [u])[t]? = s.units[t]? :=
    fun t ht => List.getElem?_append_left ht
  have hkey : ∀ t, t < s.units.length →
      ((s.units ++ [u])[t]?).map (·.key) = s.keyOf t := fun t ht => by rw [hold t ht]; rfl
  have hbelow : ∀ t, (s.body t).isSome ∨ (s.result t).isSome → t < s.units.length :=
    fun t ht => hk.below t ((hk.fate t).mpr ht)
  refine ⟨ho, hb, fun t ht => ?_, fun key => ?_, fun key t => ?_, hk.fate, hk.unresolved,
    fun t b hbody => ?_, fun t r hr => ?_⟩
  · show t < (s.units ++ [u]).length
    rw [List.length_append]
    exact Nat.lt_add_right _ (hk.below t ht)
  · show s.started.filter (fun t => ((s.units ++ [u])[t]?).map (·.key) = some key) ++
        (s.queue.submit u.key s.units.length).pending key =
      (List.range (s.units ++ [u]).length).filter
        fun t => ((s.units ++ [u])[t]?).map (·.key) = some key
    have hstarted : s.started.filter (fun t => ((s.units ++ [u])[t]?).map (·.key) = some key) =
        s.startedOf key :=
      List.filter_congr fun t ht => by rw [hkey t (hk.below t ht)]
    have hsubmitted : (List.range s.units.length).filter
        (fun t => ((s.units ++ [u])[t]?).map (·.key) = some key) = s.submitted key :=
      List.filter_congr fun t ht => by rw [hkey t (List.mem_range.mp ht)]
    have hnew : ((s.units ++ [u])[s.units.length]?).map (·.key) = some u.key := by
      rw [List.getElem?_concat_length]
      rfl
    rw [hstarted, List.length_append, List.length_singleton, List.range_succ,
      List.filter_append, hsubmitted, List.filter_singleton, hnew, hpending, ← hk.order key]
    -- The new ticket goes behind those of its key, and is in no other key's order.
    by_cases hu : key = u.key
    · rw [if_pos hu, hu, decide_eq_true rfl, List.append_assoc]
      rfl
    · rw [if_neg hu, decide_eq_false fun h => hu (Option.some.inj h).symm]
      exact (List.append_nil _).symm
  · show (s.queue.submit u.key s.units.length).running? key = some t ↔
      (s.body t).isSome ∧ ((s.units ++ [u])[t]?).map (·.key) = some key
    rw [hrunning, hk.running]
    exact and_congr_right fun h => by rw [hkey t (hbelow t (.inl h))]
  · obtain ⟨v, hv, hf⟩ := hk.body t b hbody
    exact ⟨v, (hold t (hbelow t (.inl (by rw [hbody]; rfl)))).trans hv, hf⟩
  · obtain ⟨v, h, rest, hv, hf, ho⟩ := hk.result t r hr
    exact ⟨v, h, rest, (hold t (hbelow t (.inr (by rw [hr]; rfl)))).trans hv, hf, ho⟩

/-! ## Starts, effects and ends -/

theorem keyOf_of_units {t : Ticket} {u : WorkUnit α} (hu : s.units[t]? = some u) :
    s.keyOf t = some u.key := by
  unfold Scene.keyOf
  rw [hu]
  rfl

/-- A unit that is pending under a key was submitted under it and has not started. -/
theorem Kept.of_pending (hk : Kept p s) {key : ClusterKey} {t : Ticket}
    (ht : t ∈ s.queue.pending key) : s.keyOf t = some key ∧ t ∉ s.started := by
  have hsub : t ∈ s.submitted key := by
    rw [← hk.order key]
    exact List.mem_append_right _ ht
  have hkey := keyOf_of_mem_submitted hsub
  refine ⟨hkey, fun hs => ?_⟩
  have hnd := nodup_submitted s key
  rw [← hk.order key, List.nodup_append'] at hnd
  exact hnd.2.2 (List.mem_filter.mpr ⟨hs, decide_eq_true hkey⟩) ht

/-- The unit of a running drainer has its program under way, and is of the drainer's key. -/
theorem Kept.of_running (hk : Kept p s) {d : Drainer} (hd : s.queue.drainer? d.id = some d)
    {t : Ticket} (hs : d.stage = .running t) :
    (s.body t).isSome ∧ s.keyOf t = some d.key := by
  refine (hk.running d.key t).mp ?_
  rw [State.running?_of_drainer? hk.orderly hd, hs]
  rfl

/-- A unit whose drainer has a permit is still pending, as it has not started. -/
theorem mem_pending_of_permitted (ho : s.queue.Orderly p) {d : Drainer}
    (hd : s.queue.drainer? d.id = some d) {t : Ticket} (hs : d.stage = .permitted t) :
    t ∈ s.queue.pending d.key := by
  rw [State.pending_of_drainer? ho hd]
  unfold Drainer.pending
  rw [hs]
  exact List.mem_cons_self

/-- When a unit starts, the units of its key that started before it have ended. The drainer of the
key holds one ticket at a time, and it is the one that has been waiting longest. -/
theorem kept_start (hk : Kept p s) {d : Drainer} {t : Ticket} {u : WorkUnit α}
    (hd : s.queue.drainer? d.id = some d) (hs : d.stage = .permitted t)
    (hu : s.units[t]? = some u) :
    Kept p { s with
      queue := s.queue.start d.id
      started := s.started ++ [t]
      body := Function.update s.body t (some (.fresh u.work)) } := by
  obtain ⟨ho, hb, hpending, hrunning⟩ := State.start_spec hk.orderly hk.busy hd hs
  obtain ⟨hkey, hnew⟩ := hk.of_pending (mem_pending_of_permitted hk.orderly hd hs)
  have hlt : t < s.units.length := (List.getElem?_eq_some_iff.mp hu).1
  -- the key ran nothing else
  have hidle : s.queue.running? d.key = none := by
    rw [State.running?_of_drainer? hk.orderly hd, hs]
    rfl
  have hnone : s.result t = none := by
    rw [← Option.not_isSome_iff_eq_none]
    exact fun h => hnew ((hk.fate t).mpr (.inr h))
  refine {
    orderly := ho
    busy := hb
    below := List.forall_mem_append.mpr ⟨hk.below, List.forall_mem_singleton.mpr hlt⟩
    order := fun key => ?order
    running := fun key => (Function.forall_update_iff s.body fun t' b =>
      (s.queue.start d.id).running? key = some t' ↔ b.isSome ∧ s.keyOf t' = some key).mpr
        ⟨?runs, fun t' ht => ?ran⟩
    fate := (Function.forall_update_iff s.body fun t' b =>
      t' ∈ s.started ++ [t] ↔ b.isSome ∨ (s.result t').isSome).mpr
        ⟨⟨fun _ => .inl rfl, fun _ => List.mem_concat_self⟩, fun t' ht => ?fate⟩
    unresolved := (Function.forall_update_iff s.body fun t' b =>
      b.isSome → s.result t' = none).mpr ⟨fun _ => hnone, fun t' _ => hk.unresolved t'⟩
    body := (Function.forall_update_iff s.body fun t' o => ∀ b, o = some b →
      ∃ u, s.units[t']? = some u ∧ u.work.Follows b.history b.rest).mpr
        ⟨fun b hbody => ?body, fun t' _ => hk.body t'⟩
    result := hk.result }
  case order =>
    show (s.started ++ [t]).filter (fun t => s.keyOf t = some key) ++
      (s.queue.start d.id).pending key = s.submitted key
    rw [List.filter_append, List.filter_singleton, hkey, ← hk.order key, hpending key]
    by_cases hd' : key = d.key
    · rw [if_pos hd', hd', decide_eq_true rfl, List.append_assoc]
      rfl
    · rw [if_neg hd', decide_eq_false fun h => hd' (Option.some.inj h).symm]
      exact congrArg (· ++ _) (List.append_nil _)
  case runs =>
    rw [hrunning, hkey]
    by_cases hd' : key = d.key
    · rw [if_pos hd', hd']
      exact ⟨fun _ => ⟨rfl, rfl⟩, fun _ => rfl⟩
    · rw [if_neg hd', hk.running]
      refine ⟨fun ⟨h, _⟩ => absurd ((hk.fate t).mpr (.inl h)) hnew, fun ⟨_, h⟩ => ?_⟩
      exact absurd (Option.some.inj h).symm hd'
  case ran =>
    rw [hrunning, ← hk.running]
    by_cases hd' : key = d.key
    · rw [if_pos hd', hd', hidle]
      exact ⟨fun h => absurd (Option.some.inj h).symm ht, fun h => by cases h⟩
    · rw [if_neg hd']
  case fate =>
    rw [List.mem_append, List.mem_singleton, ← hk.fate]
    exact ⟨fun h => h.resolve_right ht, .inl⟩
  case body =>
    cases hbody
    exact ⟨u, hu, rfl⟩

/-- The effects of a unit change the world and its own program, and nothing of the queue. -/
theorem kept_act (hk : Kept p s) {t : Ticket} {b b' : Underway (Except OperatorError α)}
    {w' : World} (hb : s.body t = some b) (ha : b.Acts s.world b' w') :
    Kept p { s with world := w', body := Function.update s.body t (some b') } := by
  -- A unit under way stays under way, so who runs and who has ended is not touched.
  have hsome : ∀ t', (Function.update s.body t (some b') t').isSome = (s.body t').isSome :=
    (Function.forall_update_iff s.body fun t' o => o.isSome = (s.body t').isSome).mpr
      ⟨by rw [hb]; rfl, fun _ _ => rfl⟩
  refine { hk with
    running := fun key t' => ?running
    fate := fun t' => ?fate
    unresolved := fun t' => ?unresolved
    body := (Function.forall_update_iff s.body fun t' o => ∀ b, o = some b →
      ∃ u, s.units[t']? = some u ∧ u.work.Follows b.history b.rest).mpr
        ⟨fun c hc => ?body, fun t' _ => hk.body t'⟩ }
  case running =>
    show s.queue.running? key = some t' ↔ (Function.update s.body t _ t').isSome ∧ _
    rw [hsome]
    exact hk.running key t'
  case fate =>
    show t' ∈ s.started ↔ (Function.update s.body t _ t').isSome ∨ _
    rw [hsome]
    exact hk.fate t'
  case unresolved =>
    show (Function.update s.body t _ t').isSome → _
    rw [hsome]
    exact hk.unresolved t'
  case body =>
    cases hc
    obtain ⟨u, hu, hf⟩ := hk.body t b hb
    refine ⟨u, hu, ?_⟩
    cases ha with
    | act ha => exact Program.follows_append hf ⟨_, rfl, rfl⟩

/-- When a unit ends its handle resolves, with its result or with an error if it has crashed. Its
drainer is free for the next unit of the key either way. -/
theorem kept_conclude (hk : Kept p s) {d : Drainer} {t : Ticket} {u : WorkUnit α}
    {b : Underway (Except OperatorError α)} {r : Except OperatorError α}
    (hd : s.queue.drainer? d.id = some d) (hs : d.stage = .running t) (hb : s.body t = some b)
    (hu : s.units[t]? = some u) (hr : Outcome u b.rest r) :
    Kept p { s with
      queue := s.queue.conclude d.id
      body := Function.update s.body t none
      result := Function.update s.result t (some r) } := by
  obtain ⟨ho, hbusy, hpending, hrunning⟩ := State.conclude_spec hk.orderly hk.busy hd hs
  obtain ⟨hbody, hkey⟩ := hk.of_running hd hs
  refine {
    orderly := ho
    busy := hbusy
    below := hk.below
    order := fun key => (congrArg (s.startedOf key ++ ·) (hpending key)).trans (hk.order key)
    running := fun key => (Function.forall_update_iff s.body fun t' b =>
      (s.queue.conclude d.id).running? key = some t' ↔ b.isSome ∧ s.keyOf t' = some key).mpr
        ⟨?ended, fun t' ht => ?runs⟩
    fate := fun t' => ?fate
    unresolved := fun t' => ?unresolved
    body := (Function.forall_update_iff s.body fun t' o => ∀ b, o = some b →
      ∃ u, s.units[t']? = some u ∧ u.work.Follows b.history b.rest).mpr
        ⟨nofun, fun t' _ => hk.body t'⟩
    result := (Function.forall_update_iff s.result fun t' o => ∀ r, o = some r →
      ∃ u h rest, s.units[t']? = some u ∧ u.work.Follows h rest ∧ Outcome u rest r).mpr
        ⟨fun r' hr' => ?result, fun t' _ => hk.result t'⟩ }
  case ended =>
    refine ⟨fun h => ?_, fun ⟨h, _⟩ => (by cases h)⟩
    rw [hrunning] at h
    by_cases hd' : key = d.key
    · rw [if_pos hd'] at h
      cases h
    · rw [if_neg hd', hk.running, hkey] at h
      exact absurd (Option.some.inj h.2).symm hd'
  case runs =>
    rw [hrunning, ← hk.running]
    by_cases hd' : key = d.key
    · rw [if_pos hd', hd', (hk.running d.key t).mpr ⟨hbody, hkey⟩]
      exact ⟨fun h => (by cases h), fun h => absurd (Option.some.inj h).symm ht⟩
    · rw [if_neg hd']
  -- both what runs and what is resolved change under the one ticket
  case fate =>
    show t' ∈ s.started ↔
      (Function.update s.body t none t').isSome ∨ (Function.update s.result t (some r) t').isSome
    rw [hk.fate, Function.update_apply, Function.update_apply]
    by_cases ht : t' = t
    · rw [if_pos ht, if_pos ht, ht]
      exact ⟨fun _ => .inr rfl, fun _ => .inl hbody⟩
    · rw [if_neg ht, if_neg ht]
  case unresolved =>
    show (Function.update s.body t none t').isSome → Function.update s.result t (some r) t' = none
    rw [Function.update_apply, Function.update_apply]
    by_cases ht : t' = t
    · rw [if_pos ht]
      exact fun h => by cases h
    · rw [if_neg ht, if_neg ht]
      exact hk.unresolved t'
  case result =>
    cases hr'
    obtain ⟨v, hv, hf⟩ := hk.body t b hb
    cases hu.symm.trans hv
    exact ⟨u, b.history, b.rest, hu, hf, hr⟩

theorem kept_edit (hk : Kept p s) (w' : World) : Kept p { s with world := w' } :=
  ⟨hk.orderly, hk.busy, hk.below, hk.order, hk.running, hk.fate, hk.unresolved, hk.body, hk.result⟩

/-! ## Whole runs -/

/-- Each step keeps what holds: one lemma per kind of step is behind this. -/
theorem kept_step (hk : Kept p s) (h : Step s s') : Kept p s' := by
  cases h with
  | submit u => exact kept_submit hk u
  | receive id =>
    obtain ⟨ho, hb, hq⟩ := State.receive_spec hk.orderly hk.busy id
    exact kept_of_keeps hk ho hb hq
  | recheck id =>
    obtain ⟨ho, hb, hq⟩ := State.recheck_spec hk.orderly hk.busy id
    exact kept_of_keeps hk ho hb hq
  | request id =>
    obtain ⟨ho, hb, hq⟩ := State.request_spec hk.orderly hk.busy id
    exact kept_of_keeps hk ho hb hq
  | start hd hs hu => exact kept_start hk hd hs hu
  | act hb ha => exact kept_act hk hb ha
  | conclude hd hs hb hu hr => exact kept_conclude hk hd hs hb hu hr
  | release id =>
    obtain ⟨ho, hb, hq⟩ := State.release_spec hk.orderly hk.busy id
    exact kept_of_keeps hk ho hb hq
  | edit w' => exact kept_edit hk w'

/-- What holds of a new queue holds along every run. The induction is on the steps of the run. -/
theorem kept_of_reaches {w : World} (h : Reaches (.new w p) s) : Kept p s := by
  induction h with
  | refl => exact kept_new w p
  | tail _ hstep ih => exact kept_step ih hstep

end RackOperator.WorkQueue
