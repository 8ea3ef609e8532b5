import RackOperator.Proofs.Task.Rules

/-!
# What an advance does, and when

An advance reads a task's status, and from then on keeps the status in hand and stores it
around every step. A pod is touched in a status once its entry has left WAITING. The
status in hand accounts for what has been done (`Accounts`): it touches every pod that a
status read or stored before it touches, and every pod whose sidecar was asked.

`Due key h e` is what this comes to for the effects: a status that is stored takes no touch
back, and a sidecar is asked only for a pod that no earlier status touches, after a status
that touches it was stored and acknowledged. `holds_run` says so of a whole advance, whatever the
effects are answered.
-/

namespace RackOperator

open Work

/-- The entry of a pod has left WAITING. -/
def TaskStatus.Touched (s : TaskStatus) (pod : String) : Prop :=
  ∃ phase, s.pods.find? pod = some phase ∧ phase ≠ .waiting

/-- A status takes no touch of another one back. -/
def TaskStatus.Extends (s' s : TaskStatus) : Prop := ∀ pod, s.Touched pod → s'.Touched pod

theorem TaskStatus.Extends.refl (s : TaskStatus) : s.Extends s := fun _ h => h

/-- The pods whose sidecars an effect asks. -/
def Effect.invokes : Effect → List String
  | .request m _ => [m.name]
  | .requestAll ms _ => ms.map (·.name)
  | _ => []

theorem Effect.Quiet.invokes {e : Effect} (h : e.Quiet) : e.invokes = [] := by
  cases e with
  | request m r => cases h.isSidecar
  | requestAll ms r => cases h.isSidecar
  | _ => rfl

/-- The pods whose sidecars have been asked. -/
def History.invoked (h : History) : List String := h.flatMap fun a => a.effect.invokes

namespace Advance

/-- A history shows that a status was the stored one. -/
inductive Shows (key : NamespacedName) (h : History) : TaskStatus → Prop
  | read (t : CassandraTask) (ht : reading key (some t) ∈ h) : Shows key h (t.status.getD {})
  | stored (s : TaskStatus) (hs : storing key s ∈ h) : Shows key h s

/-- A history shows that a pod was touched in the store. -/
def Recorded (key : NamespacedName) (h : History) (pod : String) : Prop :=
  ∃ s, Shows key h s ∧ s.Touched pod

/-- The sidecar of a pod was not asked, and the status read does not touch it. -/
def Fresh (key : NamespacedName) (h : History) (pod : String) : Prop :=
  pod ∉ h.invoked ∧ ∀ t, reading key (some t) ∈ h → ¬(t.status.getD {}).Touched pod

/-- What an advance may do after a history. -/
inductive Due (key : NamespacedName) : History → Effect → Prop
  | read : Due key [] (.store (.getTask key.ns key.name))
  | persist {h : History} {s : TaskStatus} (hr : ∃ t, reading key (some t) ∈ h)
    (hs : ∀ pod, Recorded key h pod → s.Touched pod) :
    Due key h (.store (.replaceTaskStatus key.ns key.name s))
  | act {h : History} {e : Effect} (he : e.onTask = false) (hnd : e.invokes.Nodup)
    (hnew : ∀ pod ∈ e.invokes, Fresh key h pod ∧ Recorded key h pod ∧
      ∃ t kind, reading key (some t) ∈ h ∧ TaskKind.ofSpec t.spec = .ok kind) : Due key h e

variable {key : NamespacedName} {h : History} {s s' : TaskStatus} {pod : String}

/-! ## Touched pods -/

theorem touched_insert {name : String} {phase : TaskPhase} (hp : phase ≠ .waiting) :
    ({ s with pods := s.pods.insert name phase } : TaskStatus).Touched pod ↔
      name = pod ∨ s.Touched pod := by
  unfold TaskStatus.Touched
  rw [SortedMap.find?_insert]
  by_cases hn : name = pod
  · rw [if_pos hn]
    exact ⟨fun _ => .inl hn, fun _ => ⟨phase, rfl, hp⟩⟩
  · rw [if_neg hn]
    exact ⟨.inr, fun ht => ht.resolve_left hn⟩

theorem touched_begin {m : Member} : (begin s m).Touched pod ↔ m.name = pod ∨ s.Touched pod :=
  touched_insert (by simp)

/-- Recording the outcome of a call touches the entry of the member that was called. -/
theorem touched_record {m : Member} {outcome : Except OperatorError Unit} :
    (record s m outcome).Touched pod ↔ m.name = pod ∨ s.Touched pod := by
  cases outcome with
  | ok u => exact touched_insert (by simp)
  | error e => exact touched_insert (by simp)

/-- An entry that is WAITING is not touched, which is what allows the member to be asked. -/
theorem not_touched_of_waiting (hw : s.pods.find? pod = some .waiting) : ¬s.Touched pod := by
  rintro ⟨phase, hp, hne⟩
  rw [hw] at hp
  exact hne (Option.some.inj hp).symm

/-- Beginning only adds to what is touched. Statuses grow in this sense through a whole advance. -/
theorem extends_begin (s : TaskStatus) (m : Member) : (begin s m).Extends s :=
  fun _ ht => touched_begin.mpr (.inr ht)

/-- So does recording what came of a call, be it a success or not. -/
theorem extends_record (s : TaskStatus) (m : Member) (outcome : Except OperatorError Unit) :
    (record s m outcome).Extends s :=
  fun _ ht => touched_record.mpr (.inr ht)

/-- Members that begin all at once add to it one after the other. -/
theorem extends_begins (ms : List Member) (s : TaskStatus) : (ms.foldl begin s).Extends s := by
  induction ms generalizing s with
  | nil => exact .refl s
  | cons m rest ih => exact fun pod ht => ih _ pod (extends_begin s m pod ht)

/-- Each member of a sweep is touched once all have begun, before the first is asked. -/
theorem touched_begins {ms : List Member} {m : Member} (hm : m ∈ ms) (s : TaskStatus) :
    (ms.foldl begin s).Touched m.name := by
  induction ms generalizing s with
  | nil => exact absurd hm List.not_mem_nil
  | cons m' rest ih =>
    rcases List.mem_cons.mp hm with rfl | hm
    · exact extends_begins rest _ _ (touched_begin.mpr (.inl rfl))
    · exact ih hm _

/-- Recording the outcomes of a sweep adds to what is touched, however the outcomes are read. -/
theorem extends_records {α : Type} (outcomes : List (Member × α))
    (f : Member → α → Except OperatorError Unit) (s : TaskStatus) :
    (outcomes.foldl (fun s p => record s p.1 (f p.1 p.2)) s).Extends s := by
  induction outcomes generalizing s with
  | nil => exact .refl s
  | cons p rest ih => exact fun pod ht => ih _ pod (extends_record s _ _ pod ht)

/-- Entries that fail for being stale stay touched, and WAITING is left, never entered. -/
theorem extends_failStale (s : TaskStatus) (ms : List Member) : (failStale s ms).Extends s := by
  rintro pod ⟨phase, hp, hne⟩
  refine ⟨settled (ms.map (·.name)) pod phase, ?_, ?_⟩
  · show (s.pods.mapWithKey _).find? pod = _
    rw [SortedMap.find?_mapWithKey, hp]
    rfl
  · unfold settled
    split
    · simp
    · exact hne

/-! ## The status in hand -/

/-- The status in hand accounts for a history in which a task was read. -/
structure Accounts (key : NamespacedName) (h : History) (s : TaskStatus) : Prop where
  read : ∃ t kind, reading key (some t) ∈ h ∧ TaskKind.ofSpec t.spec = .ok kind
  covers : ∀ pod, Recorded key h pod → s.Touched pod
  invoked : ∀ pod ∈ h.invoked, Recorded key h pod

/-- A pod is shown in a history by one of its parts. -/
theorem recorded_append {h' : History} :
    Recorded key (h ++ h') pod ↔ Recorded key h pod ∨ Recorded key h' pod := by
  constructor
  · rintro ⟨s, hs, ht⟩
    cases hs with
    | read t hm =>
      exact (List.mem_append.mp hm).imp (fun hm => ⟨_, .read t hm, ht⟩)
        fun hm => ⟨_, .read t hm, ht⟩
    | stored s hm =>
      exact (List.mem_append.mp hm).imp (fun hm => ⟨s, .stored s hm, ht⟩)
        fun hm => ⟨s, .stored s hm, ht⟩
  · rintro (⟨s, hs, ht⟩ | ⟨s, hs, ht⟩)
    · cases hs with
      | read t hm => exact ⟨_, .read t (List.mem_append_left _ hm), ht⟩
      | stored s hm => exact ⟨s, .stored s (List.mem_append_left _ hm), ht⟩
    · cases hs with
      | read t hm => exact ⟨_, .read t (List.mem_append_right _ hm), ht⟩
      | stored s hm => exact ⟨s, .stored s (List.mem_append_right _ hm), ht⟩

/-- What is done on no task shows no status. -/
theorem not_recorded {a : Answered} (ha : a.effect.onTask = false) : ¬Recorded key [a] pod := by
  rintro ⟨s, hs, -⟩
  cases hs with
  | read t hm =>
    cases List.mem_singleton.mp hm
    cases ha
  | stored s hm =>
    cases List.mem_singleton.mp hm
    cases ha

/-- A status that is stored shows the pods whose entries it has touched. -/
theorem recorded_storing : Recorded key [storing key s] pod ↔ s.Touched pod := by
  refine ⟨?_, fun ht => ⟨s, .stored s List.mem_cons_self, ht⟩⟩
  rintro ⟨s', hs, ht⟩
  cases hs with
  | read t hm => cases List.mem_singleton.mp hm
  | stored s' hm =>
    cases List.mem_singleton.mp hm
    exact ht

/-- A task that is read shows those touched in the status it carries. -/
theorem recorded_reading {t : CassandraTask} :
    Recorded key [reading key (some t)] pod ↔ (t.status.getD {}).Touched pod := by
  refine ⟨?_, fun ht => ⟨_, .read t List.mem_cons_self, ht⟩⟩
  rintro ⟨s, hs, ht⟩
  cases hs with
  | read t' hm =>
    cases List.mem_singleton.mp hm
    exact ht
  | stored s hm => cases List.mem_singleton.mp hm

theorem invoked_concat (h : History) (a : Answered) :
    History.invoked (h ++ [a]) = h.invoked ++ a.effect.invokes := by
  unfold History.invoked
  rw [List.flatMap_append, List.flatMap_singleton]

namespace Accounts

/-- A status that adds to another accounts for all that the other does. -/
theorem mono (ha : Accounts key h s) (hs : s'.Extends s) : Accounts key h s' :=
  ⟨ha.read, fun pod hr => hs pod (ha.covers pod hr), ha.invoked⟩

/-- A pod whose entry is not touched has not been asked, nor shown by any status: the status
accounts for both. -/
theorem fresh (ha : Accounts key h s) (hn : ¬s.Touched pod) : Fresh key h pod :=
  ⟨fun hi => hn (ha.covers pod (ha.invoked pod hi)),
    fun t ht hp => hn (ha.covers pod ⟨_, .read t ht, hp⟩)⟩

theorem due (ha : Accounts key h s) :
    Due key h (.store (.replaceTaskStatus key.ns key.name s)) := by
  obtain ⟨t, kind, ht, -⟩ := ha.read
  exact .persist ⟨t, ht⟩ ha.covers

theorem stored (ha : Accounts key h s) : Accounts key (h ++ [storing key s]) s where
  read := by
    obtain ⟨t, kind, ht, hk⟩ := ha.read
    exact ⟨t, kind, List.mem_append_left _ ht, hk⟩
  covers pod hr := (recorded_append.mp hr).elim (ha.covers pod) recorded_storing.mp
  invoked pod hi := by
    rw [invoked_concat] at hi
    rcases List.mem_append.mp hi with hi | hi
    · exact recorded_append.mpr (.inl (ha.invoked pod hi))
    · cases hi

/-- Sidecars are asked only for pods that a status has shown, and the status goes on accounting for
them. -/
theorem acted (ha : Accounts key h s) {a : Answered} (he : a.effect.onTask = false)
    (hi : ∀ pod ∈ a.effect.invokes, Recorded key h pod) : Accounts key (h ++ [a]) s where
  read := by
    obtain ⟨t, kind, ht, hk⟩ := ha.read
    exact ⟨t, kind, List.mem_append_left _ ht, hk⟩
  covers pod hr := ha.covers pod ((recorded_append.mp hr).resolve_right (not_recorded he))
  invoked pod hp := by
    refine recorded_append.mpr (.inl ?_)
    rw [invoked_concat] at hp
    rcases List.mem_append.mp hp with hp | hp
    · exact ha.invoked pod hp
    · exact hi pod hp

theorem quiet (ha : Accounts key h s) {a : Answered} (he : a.effect.onTask = false)
    (hi : a.effect.invokes = []) : Accounts key (h ++ [a]) s :=
  ha.acted he (by simp [hi])

end Accounts

theorem due_quiet {e : Effect} (he : e.onTask = false) (hi : e.invokes = []) : Due key h e :=
  .act he (by rw [hi]; exact .nil) (by simp [hi])

/-! ## The two ways of walking the members -/

variable {run : Run}

/-- A pod stays fresh while it is not asked and the task is not read again. -/
theorem Fresh.append (hf : Fresh key h pod) {a : Answered} (hi : pod ∉ a.effect.invokes)
    (hr : ∀ t, a ≠ reading key (some t)) : Fresh key (h ++ [a]) pod := by
  refine ⟨fun hp => ?_, fun t ht => ?_⟩
  · rw [invoked_concat] at hp
    exact (List.mem_append.mp hp).elim hf.1 hi
  · rcases List.mem_append.mp ht with ht | ht
    · exact hf.2 t ht
    · exact absurd (List.mem_singleton.mp ht).symm (hr t)

/-- A member still to be done is asked once it was stored to be RUNNING, so a status that is read
later shows that it may have been asked. -/
theorem holds_step {m : Member} (ha : Accounts run.key h s) (hw : ¬s.Touched m.name)
    {Q : History → Except OperatorError Unit → Prop}
    (hq : ∀ h' outcome, Accounts run.key h' (begin s m) → Q h' outcome) :
    (step run m).Holds (Due run.key) Q (h ++ [storing run.key (begin s m)]) := by
  have hb : Accounts run.key (h ++ [storing run.key (begin s m)]) (begin s m) :=
    (ha.mono (extends_begin s m)).stored
  have hfresh : Fresh run.key (h ++ [storing run.key (begin s m)]) m.name :=
    (ha.fresh hw).append (by simp [storing, Effect.invokes]) fun t he => by cases he
  -- The entry is stored before the client is asked for, so the call is always behind its record.
  have hstored : ∀ pod ∈ [m.name], ∀ reply : Except OperatorError Unit, Recorded run.key
      (h ++ [storing run.key (begin s m)] ++ [⟨.connect m, reply⟩]) pod := by
    intro pod hp reply
    rw [List.mem_singleton.mp hp]
    exact recorded_append.mpr (.inl (recorded_append.mpr
      (.inr (recorded_storing.mpr (touched_begin.mpr (.inl rfl))))))
  refine holds_step_of (due_quiet rfl rfl) (fun e => hq _ _ (hb.quiet rfl rfl)) ?_ ?_
  · intro u request
    refine .act rfl (List.nodup_singleton _) fun pod hp => ⟨?_, hstored pod hp _, ?_⟩
    · rw [List.mem_singleton.mp hp]
      exact hfresh.append (by simp [Effect.invokes]) fun t he => by cases he
    · exact (hb.quiet (a := ⟨.connect m, (.ok u : Except OperatorError Unit)⟩) rfl rfl).read
  · intro u request reply
    exact hq _ _ ((hb.quiet rfl rfl).acted rfl fun pod hp => hstored pod hp _)

/-- Members one at a time: each begins, is asked and has its outcome recorded before the next
begins. The induction is on the members left, all of them WAITING. -/
theorem holds_walk (pacing : Nat) (failFast : Bool) (ms : List Member)
    (ha : Accounts run.key h s) (hnd : (ms.map (·.name)).Nodup)
    (hw : ∀ m ∈ ms, s.pods.find? m.name = some .waiting) :
    (walk run pacing failFast false s ms).Holds (Due run.key) (Accounts run.key) h := by
  refine holds_walk_of (I := Accounts run.key) ?_ ?_ (fun _ _ ha => ha) hnd hw ha false
  · exact fun h s ha => ⟨due_quiet rfl rfl, fun u => ha.quiet rfl rfl⟩
  · intro h s ha m _ hm
    refine ⟨(ha.mono (extends_begin s m)).due, holds_step ha (not_touched_of_waiting hm) ?_⟩
    intro h' outcome hb
    have hd := hb.mono (extends_record _ m outcome)
    exact ⟨hd.due, fun _ => hd.stored, fun _ _ => hd.stored⟩

/-- All members at once: all begin in one stored status, then all are asked, then all outcomes are
recorded. -/
theorem holds_sweep (ms : List Member) (ha : Accounts run.key h s)
    (hnd : (ms.map (·.name)).Nodup) (hw : ∀ m ∈ ms, s.pods.find? m.name = some .waiting) :
    (sweep run s ms).Holds (Due run.key) (Accounts run.key) h := by
  have hb := ha.mono (extends_begins ms s)
  have hstored : ∀ pod ∈ ms.map (·.name),
      Recorded run.key (h ++ [storing run.key (ms.foldl begin s)]) pod := by
    intro pod hp
    obtain ⟨m, hm, rfl⟩ := List.mem_map.mp hp
    exact recorded_append.mpr (.inr (recorded_storing.mpr (touched_begins hm s)))
  refine holds_sweep_of ha hb.due (fun request => ?_) fun request replies => ?_
  · refine .act rfl hnd fun pod hp => ⟨?_, hstored pod hp, hb.stored.read⟩
    obtain ⟨m, hm, rfl⟩ := List.mem_map.mp hp
    exact (ha.fresh (not_touched_of_waiting (hw m hm))).append (by simp [storing, Effect.invokes])
      fun t he => by cases he
  · have hr := hb.stored.acted (a := ⟨.requestAll ms request, replies⟩) rfl hstored
    have hd := hr.mono (extends_records (ms.zip replies) (judged request) _)
    exact ⟨hd.due, hd.stored⟩

/-! ## The whole advance -/

theorem Accounts.quiets (ha : Accounts key h s) {h' : History}
    (hh : ∀ a ∈ h', a.effect.Quiet) : Accounts key (h ++ h') s := by
  induction h' generalizing h with
  | nil => rwa [List.append_nil]
  | cons a rest ih =>
    have hq := hh a List.mem_cons_self
    rw [List.append_cons]
    exact ih (ha.quiet hq.onTask hq.invokes) fun b hb => hh b (List.mem_cons_of_mem _ hb)

/-- A task begins with entries that are all WAITING, and begins only where there are none. One that
is resumed first fails the entries that are RUNNING, so no member is asked twice. -/
theorem holds_start (ms : List Member) (statuses : StatusSnapshot) (ha : Accounts run.key h s) :
    (start run ms statuses s).Holds (Due run.key) (Accounts run.key) h := by
  refine holds_start_of (fun _ => ha) (due_quiet rfl rfl) fun hempty t => ?_
  have hb : Accounts run.key (h ++ [⟨.now, t⟩]) (firstEntries run ms statuses s t) := by
    refine (ha.quiet rfl rfl).mono fun pod ht => ?_
    obtain ⟨phase, hp, -⟩ := ht
    rw [SortedMap.eq_empty hempty] at hp
    cases hp
  exact ⟨hb.due, fun entry => ⟨due_quiet rfl rfl, fun u => hb.stored.quiet rfl rfl⟩⟩

theorem holds_finish (run : Run) (ha : Accounts run.key h s) :
    (finish run s).Holds (Due run.key) (fun _ _ => True) h :=
  holds_finish_of ha.due fun _ => due_quiet rfl rfl

/-- The status in which a task ends is computed from its entries, none of which it loses. -/
theorem holds_conclude (run : Run) (ha : Accounts run.key h s) :
    (conclude run s).Holds (Due run.key) (fun _ _ => True) h := by
  have hp : Accounts run.key h { s with phase := aggregate s.pods } := ha.mono fun _ ht => ht
  refine holds_conclude_of (due_quiet rfl rfl) (fun t _ => ?_) fun _ => hp.due
  exact holds_finish run ((hp.quiet rfl rfl).mono fun _ ht => ht)

theorem holds_proceed (run : Run) (dc : DataCenter) (ha : Accounts run.key h s) :
    (proceed run dc s).Holds (Due run.key) (fun _ _ => True) h := by
  refine holds_proceed_of (I := fun _ => Accounts run.key) (Q := Accounts run.key)
    (fun _ _ _ => due_quiet rfl rfl) ?_ ?_ ?_ fun h s => holds_conclude run
  · refine fun h' ms hh _ => ⟨due_quiet rfl rfl, fun statuses => ?_⟩
    exact Work.Holds.mono (fun _ _ h => h) (fun h s ha => ha.mono (extends_failStale s ms))
      (holds_start ms statuses ((ha.quiets hh).quiet rfl rfl))
  · exact fun ms h s pacing failFast ha _ hnd hw => holds_walk pacing failFast _ ha hnd hw
  · exact fun ms h s ha _ hnd hw => holds_sweep _ ha hnd hw

/-- An advance does what is due, however it is answered: it stores only statuses that account for
all that was asked, and asks only members not asked before. -/
theorem holds_run (config : Config) (key : NamespacedName) :
    (Advance.run config key).Holds (Due key) (fun _ _ => True) [] := by
  refine holds_run_of .read fun t kind _ hkind => ?_
  let run : Run := { config, key, kind, datacenter := t.spec.datacenter }
  have ha : Accounts run.key [reading key (some t)] (t.status.getD {}) :=
    ⟨⟨t, kind, List.mem_cons_self, hkind⟩, fun pod => recorded_reading.mp,
      fun pod hp => by cases hp⟩
  have hd : ∀ dc, Accounts run.key ([reading key (some t)] ++ [locating key t dc])
      (t.status.getD {}) := fun dc => ha.quiet rfl rfl
  refine holds_engage_of (due_quiet rfl rfl) (fun message => ?_) (fun dc reason => ?_) fun dc => ?_
  · exact Accounts.due ((hd none).mono fun _ ht => ht)
  · refine ⟨due_quiet rfl rfl, fun now => holds_finish run ?_⟩
    exact ((hd (some dc)).quiet rfl rfl).mono fun _ ht => ht
  · exact holds_proceed run dc (hd (some dc))

end Advance

end RackOperator
