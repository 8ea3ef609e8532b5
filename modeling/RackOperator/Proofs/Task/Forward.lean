import RackOperator.Proofs.Task.Stages
import Mathlib.Data.Option.Defs

/-!
# An advance only goes forward

The entry of a pod begins WAITING, becomes RUNNING, and then SUCCEED or FAILED; it may fail
while WAITING too. The phase of the task goes the same way and may leave RUNNING out. One
status goes forward from another (`TaskStatus.Forward`) when its phase does and its entries
are those of the other one, each moved on; where the other one had none, they are all
WAITING.

An advance has shown a status when it read it or stored it, and has done nothing to the
task since (`Shown`). `Orderly key h e` says that an effect keeps to what was shown last: a
status that is stored goes forward from it, and neither that nor asking a sidecar happens
once it is terminal. `orderly_run` says so of a whole advance, whatever the effects are
answered. What carries it is the status in hand (`InHand`): between two status writes it
moves each entry at most once.
-/

namespace RackOperator

open Work

namespace TaskPhase

/-- How the entry of a pod may move. -/
inductive Moves : TaskPhase → TaskPhase → Prop
  | stay (p : TaskPhase) : Moves p p
  | begin : Moves waiting running
  | succeed : Moves running succeed
  | fail {p : TaskPhase} (hp : p.isTerminal = false) : Moves p failed

/-- How the phase of a task may move. -/
inductive Onward : TaskPhase → TaskPhase → Prop
  | stay (p : TaskPhase) : Onward p p
  | start : Onward waiting running
  | finish {p p' : TaskPhase} (hp : p.isTerminal = false) (hp' : p'.isTerminal = true) :
    Onward p p'

/-- What is still WAITING was so before, since no entry goes back. -/
theorem Moves.eq_waiting {p : TaskPhase} (h : p.Moves waiting) : p = waiting := by
  cases h with
  | stay => rfl

end TaskPhase

namespace TaskStatus

/-- The entries are the same, each moved on, and so is the phase. -/
structure Advances (s₀ s : TaskStatus) : Prop where
  entries : ∀ pod, Option.Rel TaskPhase.Moves (s₀.pods.find? pod) (s.pods.find? pod)
  phase : s₀.phase.Onward s.phase

/-- A status that may be stored after another one. -/
structure Forward (s s' : TaskStatus) : Prop where
  /-- The entries are the same, each moved on, or they are the first ones and WAITING. -/
  entries : (∀ pod, Option.Rel TaskPhase.Moves (s.pods.find? pod) (s'.pods.find? pod)) ∨
    s.pods.isEmpty = true ∧ ∀ pod p, s'.pods.find? pod = some p → p = .waiting
  phase : s.phase.Onward s'.phase

variable {s₀ s s' : TaskStatus}

theorem Advances.forward (h : s₀.Advances s) : s₀.Forward s := ⟨.inl h.entries, h.phase⟩

/-- Only the entries and the phase count; the message may change at any time. -/
theorem advances_of_eq (hpods : s.pods = s₀.pods) (hphase : s.phase = s₀.phase) :
    s₀.Advances s := by
  refine ⟨fun pod => ?_, ?_⟩
  · rw [hpods]
    cases s₀.pods.find? pod with
    | none => exact .none
    | some p => exact .some (.stay p)
  · rw [hphase]
    exact .stay _

theorem Advances.refl (s : TaskStatus) : s.Advances s := advances_of_eq rfl rfl

/-- Once there are entries, the pods that have one stay the same. -/
theorem Forward.contains_eq (h : s.Forward s') (hs : s.pods.isEmpty = false) (pod : String) :
    s'.pods.contains pod = s.pods.contains pod := by
  rcases h.entries with he | ⟨hempty, -⟩
  · have hrel := he pod
    unfold SortedMap.contains
    revert hrel
    generalize s.pods.find? pod = o
    generalize s'.pods.find? pod = o'
    intro hrel
    cases hrel with
    | some h => rfl
    | none => rfl
  · rw [hs] at hempty
    cases hempty

/-- One entry moves on by itself, and the others are as they were. -/
theorem Advances.insert (h : s₀.Advances s) {pod : String} {p p' : TaskPhase}
    (hp : s₀.pods.find? pod = some p) (hm : p.Moves p') {last : Option String} :
    s₀.Advances { s with pods := s.pods.insert pod p', lastMessage := last } := by
  refine ⟨fun other => ?_, h.phase⟩
  rw [SortedMap.find?_insert]
  by_cases he : pod = other
  · subst he
    rw [if_pos rfl, hp]
    exact .some hm
  · rw [if_neg he]
    exact h.entries other

/-- What is WAITING in the later status was so in the earlier one. -/
theorem Advances.waiting (h : s₀.Advances s) {pod : String}
    (hw : s.pods.find? pod = some .waiting) : s₀.pods.find? pod = some .waiting := by
  have hrel := h.entries pod
  rw [hw] at hrel
  revert hrel
  generalize s₀.pods.find? pod = o
  intro hrel
  cases hrel with
  | some hm => rw [hm.eq_waiting]

end TaskStatus

namespace Advance

open TaskStatus (Advances Forward)

/-- The status that a history read or stored last, if it has done nothing to a task since. -/
inductive Shown (key : NamespacedName) : History → TaskStatus → Prop
  | read (h : History) (t : CassandraTask) :
    Shown key (h ++ [reading key (some t)]) (t.status.getD {})
  | stored (h : History) (s : TaskStatus) : Shown key (h ++ [storing key s]) s
  | kept {h : History} {s : TaskStatus} {a : Answered} (hs : Shown key h s)
    (ha : a.effect.onTask = false) : Shown key (h ++ [a]) s

/-- What keeps to the status that was shown last. -/
inductive Orderly (key : NamespacedName) : History → Effect → Prop
  | read : Orderly key [] (.store (.getTask key.ns key.name))
  | persist {h : History} {s₀ s : TaskStatus} (hs : Shown key h s₀)
    (hp : s₀.phase.isTerminal = false) (hf : s₀.Forward s) :
    Orderly key h (.store (.replaceTaskStatus key.ns key.name s))
  | act {h : History} {e : Effect} (he : e.onTask = false)
    (hi : e.invokes ≠ [] → ∃ s₀, Shown key h s₀ ∧ s₀.phase.isTerminal = false) :
    Orderly key h e

/-- The status in hand has moved on from the one shown last, and the task goes on. -/
structure InHand (key : NamespacedName) (h : History) (s : TaskStatus) : Prop where
  shown : ∃ s₀, Shown key h s₀ ∧ s₀.phase.isTerminal = false ∧ s₀.Advances s
  goes : s.phase.isTerminal = false

variable {key : NamespacedName} {h : History} {s₀ s : TaskStatus}

theorem shown_nil : ¬Shown key [] s := by
  generalize hk : ([] : History) = k
  intro hs
  cases hs with
  | _ => exact absurd hk (by simp)

/-- The last effect shows a status, or leaves the one that was shown. -/
theorem shown_concat {a : Answered} (hs : Shown key (h ++ [a]) s) :
    (∃ t, a = reading key (some t) ∧ s = t.status.getD {}) ∨ a = storing key s ∨
      a.effect.onTask = false ∧ Shown key h s := by
  generalize hk : h ++ [a] = k at hs
  cases hs with
  | read h' t =>
    obtain ⟨-, ha⟩ := List.append_inj' hk rfl
    exact .inl ⟨t, List.singleton_inj.mp ha, rfl⟩
  | stored h' s =>
    obtain ⟨-, ha⟩ := List.append_inj' hk rfl
    exact .inr (.inl (List.singleton_inj.mp ha))
  | kept hs hq =>
    obtain ⟨rfl, ha⟩ := List.append_inj' hk rfl
    cases List.singleton_inj.mp ha
    exact .inr (.inr ⟨hq, hs⟩)

/-- What is done on no task leaves the status that was shown last. -/
theorem Shown.append (hs : Shown key h s) {h' : History}
    (hh : ∀ a ∈ h', a.effect.onTask = false) : Shown key (h ++ h') s := by
  induction h' generalizing h with
  | nil => rwa [List.append_nil]
  | cons a rest ih =>
    rw [List.append_cons]
    exact ih (hs.kept (hh a List.mem_cons_self)) fun b hb => hh b (List.mem_cons_of_mem _ hb)

theorem orderly_quiet {e : Effect} (he : e.onTask = false) (hi : e.invokes = []) :
    Orderly key h e :=
  .act he fun hne => absurd hi hne

/-- The status shown last may be gone on from while the task has not ended. -/
theorem Shown.inHand (hs : Shown key h s) (hp : s.phase.isTerminal = false) : InHand key h s :=
  ⟨⟨s, hs, hp, .refl s⟩, hp⟩

namespace InHand

/-- A status in hand may be stored, as it advances the one shown last. -/
theorem orderly (hi : InHand key h s) :
    Orderly key h (.store (.replaceTaskStatus key.ns key.name s)) := by
  obtain ⟨s₀, hs, hp, ha⟩ := hi.shown
  exact .persist hs hp ha.forward

theorem quiet (hi : InHand key h s) {a : Answered} (ha : a.effect.onTask = false) :
    InHand key (h ++ [a]) s := by
  obtain ⟨s₀, hs, hp, hadv⟩ := hi.shown
  exact ⟨⟨s₀, hs.kept ha, hp, hadv⟩, hi.goes⟩

/-- A WAITING entry may begin. It is stored to be RUNNING before its member is asked. -/
theorem begin (hi : InHand key h s) {m : Member} (hw : s.pods.find? m.name = some .waiting) :
    InHand key h (Advance.begin s m) := by
  obtain ⟨s₀, hs, hp, ha⟩ := hi.shown
  exact ⟨⟨s₀, hs, hp, ha.insert (ha.waiting hw) .begin⟩, hi.goes⟩

end InHand

/-! ## Entries that end -/

/-- An entry that was shown to be RUNNING may end, by success or failure. -/
theorem advances_record (ha : s₀.Advances s) {m : Member}
    (hr : s₀.pods.find? m.name = some .running) (outcome : Except OperatorError Unit) :
    s₀.Advances (record s m outcome) := by
  cases outcome with
  | ok u => exact ha.insert hr .succeed
  | error e => exact ha.insert hr (.fail rfl)

theorem phase_record (s : TaskStatus) (m : Member) (outcome : Except OperatorError Unit) :
    (record s m outcome).phase = s.phase := by
  cases outcome <;> rfl

theorem find?_begin (s : TaskStatus) (m : Member) :
    (begin s m).pods.find? m.name = some .running := by
  show (s.pods.insert m.name .running).find? m.name = _
  rw [SortedMap.find?_insert, if_pos rfl]

/-- Stale entries fail, and no others move. -/
theorem advances_failStale (s : TaskStatus) (ms : List Member) :
    s.Advances (failStale s ms) := by
  refine ⟨fun pod => ?_, .stay _⟩
  show Option.Rel _ _ ((s.pods.mapWithKey _).find? pod)
  rw [SortedMap.find?_mapWithKey]
  cases s.pods.find? pod with
  | none => exact .none
  | some p =>
    refine .some ?_
    unfold settled
    cases p with
    | waiting =>
      unfold staleReason?
      cases (ms.map (·.name)).contains pod with
      | true => exact .stay _
      | false => exact .fail rfl
    | running => exact .fail rfl
    | succeed => exact .stay _
    | failed => exact .stay _

/-! ## The two ways of walking the members -/

variable {run : Run}

/-- A sidecar is asked while the task goes on, and the status shown stays. -/
theorem orderly_step (m : Member) (hs : Shown run.key h s) (hp : s.phase.isTerminal = false) :
    (step run m).Holds (Orderly run.key) (fun h' _ => Shown run.key h' s) h :=
  holds_step_of (orderly_quiet rfl rfl) (fun _ => hs.kept rfl)
    (fun _ _ => .act rfl fun _ => ⟨s, hs.kept rfl, hp⟩) fun _ _ _ => (hs.kept rfl).kept rfl

/-- Members one at a time: each entry is stored to be RUNNING and then to have ended. The induction
is on the members left, with the status in hand at each. -/
theorem orderly_walk (pacing : Nat) (failFast : Bool) (ms : List Member)
    (hi : InHand run.key h s) (hnd : (ms.map (·.name)).Nodup)
    (hw : ∀ m ∈ ms, s.pods.find? m.name = some .waiting) :
    (walk run pacing failFast false s ms).Holds (Orderly run.key) (InHand run.key) h := by
  refine holds_walk_of (I := InHand run.key) ?_ ?_ (fun _ _ hi => hi) hnd hw hi false
  · exact fun h s hi => ⟨orderly_quiet rfl rfl, fun u => hi.quiet rfl⟩
  · intro h s hi m _ hm
    have hgoes : (begin s m).phase.isTerminal = false := hi.goes
    refine ⟨(hi.begin hm).orderly, Program.Holds.mono (fun _ _ h => h) (fun h' outcome hs => ?_)
      (orderly_step m (.stored h (begin s m)) hgoes)⟩
    -- what is shown then has the entry RUNNING, so it may end
    have hdone : (record (begin s m) m outcome).phase.isTerminal = false := by
      rw [phase_record]
      exact hgoes
    have hr : InHand run.key h' (record (begin s m) m outcome) :=
      ⟨⟨_, hs, hgoes, advances_record (.refl _) (find?_begin s m) outcome⟩, hdone⟩
    have hnext : InHand run.key _ (record (begin s m) m outcome) := (Shown.stored h' _).inHand hdone
    exact ⟨hr.orderly, fun _ => hnext, fun _ _ => hnext⟩

/-- Entries that begin leave the others alone. -/
theorem find?_begins_of_ne {ms : List Member} {pod : String} (hne : ∀ m ∈ ms, m.name ≠ pod) :
    (ms.foldl begin s).pods.find? pod = s.pods.find? pod := by
  induction ms generalizing s with
  | nil => rfl
  | cons m rest ih =>
    obtain ⟨hm, hrest⟩ := List.forall_mem_cons.mp hne
    rw [List.foldl_cons, ih hrest, find?_begin_of_ne hm]

/-- Several entries begin at once. They are of different pods, so each was WAITING until its turn.
-/
theorem InHand.begins (ms : List Member) (hi : InHand key h s) (hnd : (ms.map (·.name)).Nodup)
    (hw : ∀ m ∈ ms, s.pods.find? m.name = some .waiting) :
    InHand key h (ms.foldl Advance.begin s) ∧
      ∀ m ∈ ms, (ms.foldl Advance.begin s).pods.find? m.name = some .running := by
  induction ms generalizing s with
  | nil => exact ⟨hi, fun m hm => absurd hm List.not_mem_nil⟩
  | cons m rest ih =>
    rw [List.map_cons, List.nodup_cons] at hnd
    have hother : ∀ m' ∈ rest, m.name ≠ m'.name :=
      fun m' hm' he => hnd.1 (List.mem_map.mpr ⟨m', hm', he.symm⟩)
    obtain ⟨hrest, hrun⟩ := ih (hi.begin (hw m List.mem_cons_self)) hnd.2 fun m' hm' => by
      rw [find?_begin_of_ne (hother m' hm')]
      exact hw m' (List.mem_cons_of_mem _ hm')
    refine ⟨hrest, List.forall_mem_cons.mpr ⟨?_, hrun⟩⟩
    rw [List.foldl_cons, find?_begins_of_ne fun m' hm' => (hother m' hm').symm]
    exact find?_begin s m

/-- Entries shown to be RUNNING end, one after the other, each from the status that was shown. -/
theorem advances_records {α : Type} (f : Member → α → Except OperatorError Unit)
    (outcomes : List (Member × α)) (ha : s₀.Advances s)
    (hr : ∀ p ∈ outcomes, s₀.pods.find? p.1.name = some .running) :
    s₀.Advances (outcomes.foldl (fun s p => record s p.1 (f p.1 p.2)) s) := by
  induction outcomes generalizing s with
  | nil => exact ha
  | cons p rest ih =>
    exact ih (advances_record ha (hr p List.mem_cons_self) _) fun q hq =>
      hr q (List.mem_cons_of_mem _ hq)

theorem phase_records {α : Type} (f : Member → α → Except OperatorError Unit)
    (outcomes : List (Member × α)) (s : TaskStatus) :
    (outcomes.foldl (fun s p => record s p.1 (f p.1 p.2)) s).phase = s.phase := by
  induction outcomes generalizing s with
  | nil => rfl
  | cons p rest ih => rw [List.foldl_cons, ih, phase_record]

/-- All members at once: the entries are stored to be RUNNING and then to have ended. -/
theorem orderly_sweep (ms : List Member) (hi : InHand run.key h s)
    (hnd : (ms.map (·.name)).Nodup) (hw : ∀ m ∈ ms, s.pods.find? m.name = some .waiting) :
    (sweep run s ms).Holds (Orderly run.key) (InHand run.key) h := by
  obtain ⟨hb, hrun⟩ := hi.begins ms hnd hw
  have hs : Shown run.key (h ++ [storing run.key (ms.foldl begin s)]) (ms.foldl begin s) :=
    .stored h _
  refine holds_sweep_of hi hb.orderly (fun request => ?_) fun request replies => ?_
  · exact .act rfl fun _ => ⟨_, hs, hb.goes⟩
  · have hd : InHand run.key _ _ :=
      ⟨⟨_, hs.kept (a := ⟨.requestAll ms request, replies⟩) rfl, hb.goes,
        advances_records (judged request) (ms.zip replies) (.refl _) fun p hp =>
          hrun p.1 (List.of_mem_zip hp).1⟩, by rw [phase_records]; exact hb.goes⟩
    exact ⟨hd.orderly, (Shown.stored _ _).inHand hd.goes⟩

/-! ## The whole advance -/

/-- A task that has no entries is given them, all WAITING. One that has entries keeps their pods. -/
theorem orderly_start (ms : List Member) (statuses : StatusSnapshot) (hs : Shown run.key h s)
    (hp : s.phase.isTerminal = false) :
    (start run ms statuses s).Holds (Orderly run.key)
      (fun h' s' => Shown run.key h' s' ∧ s'.phase.isTerminal = false) h := by
  refine holds_start_of (fun _ => ⟨hs, hp⟩) (orderly_quiet rfl rfl) fun hempty t => ⟨?_, ?_⟩
  · -- the phase may be RUNNING already, with no entries yet
    have hphase : s.phase.Onward .running := by
      revert hp
      cases s.phase with
      | waiting => exact fun _ => .start
      | running => exact fun _ => .stay _
      | succeed => exact fun hp => by cases hp
      | failed => exact fun hp => by cases hp
    refine .persist (hs.kept rfl) hp ⟨.inr ⟨hempty, fun pod p hpod => ?_⟩, hphase⟩
    obtain ⟨m, -, hm⟩ := List.mem_map.mp (SortedMap.mem_of_find?_ofList hpod)
    exact (congrArg Prod.snd hm).symm
  · exact fun entry => ⟨orderly_quiet rfl rfl, fun u => ⟨(Shown.stored _ _).kept rfl, rfl⟩⟩

/-- The last status is stored, and nothing but an audit entry comes after it. -/
theorem orderly_finish (run : Run) (hs : Shown run.key h s₀)
    (hp : s₀.phase.isTerminal = false) (hf : s₀.Advances s) :
    (finish run s).Holds (Orderly run.key) (fun _ _ => True) h :=
  holds_finish_of (.persist hs hp hf.forward) fun _ => orderly_quiet rfl rfl

/-- A task that goes on is settled no further back than RUNNING, whatever its entries are. -/
theorem onward_aggregate {p : TaskPhase} (hp : p.isTerminal = false) (pods : Progress) :
    p.Onward (aggregate pods) := by
  unfold aggregate
  split
  next => exact .finish hp rfl
  next =>
    split
    next =>
      cases p with
      | waiting => exact .start
      | running => exact .stay _
      | succeed => cases hp
      | failed => cases hp
    next => exact .finish hp rfl

/-- What is concluded from the entries goes forward from the status in hand. -/
theorem orderly_conclude (run : Run) (hi : InHand run.key h s) :
    (conclude run s).Holds (Orderly run.key) (fun _ _ => True) h := by
  obtain ⟨s₀, hs₀, hp₀, ha⟩ := hi.shown
  refine holds_conclude_of (orderly_quiet rfl rfl) (fun t _ => ?_) fun _ => ?_
  · exact orderly_finish run (hs₀.kept rfl) hp₀ ⟨ha.entries, onward_aggregate hp₀ s.pods⟩
  · exact .persist hs₀ hp₀ (Advances.forward ⟨ha.entries, onward_aggregate hp₀ s.pods⟩)

theorem orderly_proceed (run : Run) (dc : DataCenter) (hs : Shown run.key h s)
    (hp : s.phase.isTerminal = false) :
    (proceed run dc s).Holds (Orderly run.key) (fun _ _ => True) h := by
  refine holds_proceed_of (I := fun _ => InHand run.key) (Q := InHand run.key)
    (fun _ _ _ => orderly_quiet rfl rfl) ?_ ?_ ?_ fun h s => orderly_conclude run
  · refine fun h' ms hh _ => ⟨orderly_quiet rfl rfl, fun statuses => ?_⟩
    refine Work.Holds.mono (fun _ _ h => h) (fun h'' s' hs' => ?_)
      (orderly_start ms statuses ((hs.append fun a ha => (hh a ha).onTask).kept rfl) hp)
    exact ⟨⟨s', hs'.1, hs'.2, advances_failStale s' ms⟩, hs'.2⟩
  · exact fun ms h s pacing failFast hi _ hnd hw => orderly_walk pacing failFast _ hi hnd hw
  · exact fun ms h s hi _ hnd hw => orderly_sweep _ hi hnd hw

/-- An advance keeps to the status shown last, however it is answered: it starts from the one read
and goes on from each that it has stored. -/
theorem orderly_run (config : Config) (key : NamespacedName) :
    (Advance.run config key).Holds (Orderly key) (fun _ _ => True) [] := by
  refine holds_run_of .read fun t kind hp _ => ?_
  let run : Run := { config, key, kind, datacenter := t.spec.datacenter }
  have hd : ∀ dc, Shown run.key ([reading key (some t)] ++ [locating key t dc])
      (t.status.getD {}) := fun dc => (Shown.read [] t).kept rfl
  refine holds_engage_of (orderly_quiet rfl rfl) (fun message => ?_) (fun dc reason => ?_)
    fun dc => ?_
  · exact .persist (hd none) hp (Advances.forward (TaskStatus.advances_of_eq rfl rfl))
  · refine ⟨orderly_quiet rfl rfl, fun now => orderly_finish run ((hd (some dc)).kept rfl) hp ?_⟩
    exact ⟨(Advances.refl _).entries, .finish hp rfl⟩
  · exact orderly_proceed run dc (hd (some dc)) hp

end Advance

end RackOperator
