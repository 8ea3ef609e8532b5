import RackOperator.Proofs.Task.Forward
import RackOperator.Proofs.Task.Patches
import RackOperator.Proofs.Task.Runs

/-!
# No status that is stored takes an entry or a time back

An advance has a status in hand that covers the one it has read or stored last
(`Advance.InPlace`): entries are begun, recorded and failed but none is taken out, the first
entries are given only where there are none, and times are set and never cleared. So each
status it stores covers the one that was shown last. A call that finds fault with a task's spec
stores the status of the copy it was given, with another message.

`covering_task` says this of all that one reconciliation of a task does, the call and the advance
it puts in line, whatever the effects are answered.
-/

namespace RackOperator

open Work

namespace Reconcile

/-- Reconcile a task, and do at once what that puts in line. -/
def wholeTask (config : Config) (t : CassandraTask) : Program (Except OperatorError Action) := do
  match ← Reconcile.task config t with
  | .settled r => return r
  | .queued u => u.work

end Reconcile

namespace TaskStatus

variable {s : TaskStatus}

/-- An entry that is written adds to the entries there are, so the status covers the one before. -/
theorem covers_insert (s : TaskStatus) (pod : String) (phase : TaskPhase) (last : Option String) :
    { s with pods := s.pods.insert pod phase, lastMessage := last }.Covers s := by
  refine ⟨fun other h => ?_, id, id⟩
  unfold SortedMap.contains at h ⊢
  rw [SortedMap.find?_insert]
  split
  next => rfl
  next => exact h

end TaskStatus

namespace Advance

open TaskStatus (Covers)

variable {key : NamespacedName} {copy : CassandraTask} {h : History} {s s₀ : TaskStatus}

theorem covers_begin (s : TaskStatus) (m : Member) : (begin s m).Covers s :=
  TaskStatus.covers_insert s m.name .running s.lastMessage

theorem covers_record (s : TaskStatus) (m : Member) (outcome : Except OperatorError Unit) :
    (record s m outcome).Covers s := by
  cases outcome with
  | ok u => exact TaskStatus.covers_insert s m.name .succeed s.lastMessage
  | error e => exact TaskStatus.covers_insert s m.name .failed _

theorem covers_begins (ms : List Member) (s : TaskStatus) : (ms.foldl begin s).Covers s := by
  induction ms generalizing s with
  | nil => exact .refl s
  | cons m rest ih => exact (ih _).trans (covers_begin s m)

/-- The outcomes of a sweep are written over the entries of their members, one after the other. -/
theorem covers_records {α : Type} (f : Member → α → Except OperatorError Unit)
    (outcomes : List (Member × α)) (s : TaskStatus) :
    (outcomes.foldl (fun s p => record s p.1 (f p.1 p.2)) s).Covers s := by
  induction outcomes generalizing s with
  | nil => exact .refl s
  | cons p rest ih => exact (ih _).trans (covers_record s _ _)

theorem covers_failStale (s : TaskStatus) (ms : List Member) : (failStale s ms).Covers s := by
  refine ⟨fun pod hp => ?_, id, id⟩
  show ((s.pods.mapWithKey _).find? pod).isSome = true
  rw [SortedMap.find?_mapWithKey, Option.isSome_map]
  exact hp

/-- What a reconciliation knows to be stored: what the copy has that it was given, or what it has
read or stored since. -/
inductive Knows (key : NamespacedName) (copy : CassandraTask) (h : History) : TaskStatus → Prop
  | given (hq : ∀ a ∈ h, a.effect.onTask = false) : Knows key copy h (copy.status.getD {})
  | shown {s₀ : TaskStatus} (hs : Shown key h s₀) : Knows key copy h s₀

/-- What a reconciliation may do: a status it stores covers one that it knows to be stored. -/
inductive Covering (key : NamespacedName) (copy : CassandraTask) : History → Effect → Prop
  | read (h : History) : Covering key copy h (.store (.getTask key.ns key.name))
  | delete (h : History) : Covering key copy h (.store (.deleteTask key.ns key.name))
  | persist {h : History} {s₀ s : TaskStatus} (hs : Knows key copy h s₀) (hc : s.Covers s₀) :
    Covering key copy h (.store (.replaceTaskStatus key.ns key.name s))
  | act {h : History} {e : Effect} (he : e.onTask = false) : Covering key copy h e

/-- The status in hand covers the one shown last. -/
def InPlace (key : NamespacedName) (h : History) (s : TaskStatus) : Prop :=
  ∃ s₀, Shown key h s₀ ∧ s.Covers s₀

/-- A status that covers another is in place wherever that one is. -/
theorem InPlace.mono {s' : TaskStatus} (hi : InPlace key h s) (hc : s'.Covers s) :
    InPlace key h s' :=
  let ⟨s₀, hs, hcovers⟩ := hi
  ⟨s₀, hs, hc.trans hcovers⟩

/-- What is done on no task stores no status, so the one in place stays in place. -/
theorem InPlace.quiet (hi : InPlace key h s) {a : Answered} (ha : a.effect.onTask = false) :
    InPlace key (h ++ [a]) s :=
  let ⟨s₀, hs, hcovers⟩ := hi
  ⟨s₀, hs.kept ha, hcovers⟩

/-- A status that has been shown, by reading the task or by storing it, is in place. -/
theorem Shown.inPlace (hs : Shown key h s) : InPlace key h s := ⟨s, hs, .refl s⟩

/-- A status in place may be stored: it covers whatever was shown last. -/
theorem InPlace.covering (hi : InPlace key h s) :
    Covering key copy h (.store (.replaceTaskStatus key.ns key.name s)) :=
  let ⟨_, hs, hc⟩ := hi
  .persist (.shown hs) hc

theorem inPlace_stored (key : NamespacedName) (h : History) (s : TaskStatus) :
    InPlace key (h ++ [storing key s]) s :=
  (Shown.stored h s).inPlace

/-! ## The two ways of walking the members -/

variable {run : Run}

theorem covering_step (m : Member) (hi : InPlace run.key h s) :
    (step run m).Holds (Covering run.key copy) (fun h' _ => InPlace run.key h' s) h :=
  holds_step_of (.act rfl) (fun _ => hi.quiet rfl) (fun _ _ => .act rfl)
    fun _ _ _ => (hi.quiet rfl).quiet rfl

/-- Each status of a walk covers the one before, as members only gain entries or have theirs
overwritten. The induction is on the members left. -/
theorem covering_walk (pacing : Nat) (failFast : Bool) (ms : List Member)
    (hi : InPlace run.key h s) (hnd : (ms.map (·.name)).Nodup)
    (hw : ∀ m ∈ ms, s.pods.find? m.name = some .waiting) :
    (walk run pacing failFast false s ms).Holds (Covering run.key copy) (InPlace run.key) h := by
  refine holds_walk_of (I := InPlace run.key) ?_ ?_ (fun _ _ hi => hi) hnd hw hi false
  · exact fun h s hi => ⟨.act rfl, fun u => hi.quiet rfl⟩
  · intro h s hi m _ _
    refine ⟨(hi.mono (covers_begin s m)).covering, Program.Holds.mono (fun _ _ h => h) ?_
      (covering_step m (inPlace_stored run.key h (begin s m)))⟩
    intro h' outcome hs
    exact ⟨(hs.mono (covers_record _ m outcome)).covering, fun _ => inPlace_stored _ _ _,
      fun _ _ => inPlace_stored _ _ _⟩

/-- A sweep stores a status when all have begun and one when all have answered. -/
theorem covering_sweep (ms : List Member) (hi : InPlace run.key h s) :
    (sweep run s ms).Holds (Covering run.key copy) (InPlace run.key) h := by
  refine holds_sweep_of hi (hi.mono (covers_begins ms s)).covering (fun _ => .act rfl) ?_
  intro request replies
  have hr := (inPlace_stored run.key h (ms.foldl begin s)).quiet
    (a := ⟨.requestAll ms request, replies⟩) rfl
  exact ⟨(hr.mono (covers_records _ _ _)).covering, inPlace_stored _ _ _⟩

/-! ## The whole advance -/

/-- The first entries are given where there are none, so none is lost. Where there are some they are
kept. -/
theorem covering_start (ms : List Member) (statuses : StatusSnapshot) (hi : InPlace run.key h s) :
    (start run ms statuses s).Holds (Covering run.key copy) (InPlace run.key) h := by
  refine holds_start_of (fun _ => hi) (.act rfl) fun hempty t => ⟨?_, fun entry => ?_⟩
  · refine InPlace.covering ((hi.quiet rfl).mono ⟨fun pod hp => ?_, fun _ => rfl, id⟩)
    rw [SortedMap.eq_empty hempty] at hp
    cases hp
  · exact ⟨.act rfl, fun u => (inPlace_stored _ _ _).quiet rfl⟩

theorem covering_finish (run : Run) (hi : InPlace run.key h s) :
    (finish run s).Holds (Covering run.key copy) (fun _ _ => True) h :=
  holds_finish_of hi.covering fun _ => .act rfl

theorem covering_conclude (run : Run) (hi : InPlace run.key h s) :
    (conclude run s).Holds (Covering run.key copy) (fun _ _ => True) h := by
  refine holds_conclude_of (.act rfl) (fun t _ => ?_) fun _ => ?_
  · exact covering_finish run ((hi.quiet rfl).mono ⟨fun _ h => h, id, fun _ => rfl⟩)
  · exact InPlace.covering (hi.mono (TaskStatus.covers_of_eq rfl rfl rfl))

theorem covering_proceed (run : Run) (dc : DataCenter) (hi : InPlace run.key h s) :
    (proceed run dc s).Holds (Covering run.key copy) (fun _ _ => True) h := by
  refine holds_proceed_of (I := fun _ => InPlace run.key) (Q := InPlace run.key)
    (fun _ _ _ => .act rfl) ?_ ?_ ?_ fun h s => covering_conclude run
  · refine fun h' ms hh _ => ⟨.act rfl, fun statuses => ?_⟩
    obtain ⟨s₀, hs, hc⟩ := hi
    have hread : InPlace run.key (h ++ h') s := ⟨s₀, hs.append fun a ha => (hh a ha).onTask, hc⟩
    exact Work.Holds.mono (fun _ _ h => h) (fun h s hi => hi.mono (covers_failStale s ms))
      (covering_start ms statuses (hread.quiet rfl))
  · exact fun ms h s pacing failFast hi _ hnd hw => covering_walk pacing failFast _ hi hnd hw
  · exact fun ms h s hi _ _ _ => covering_sweep _ hi

/-- Each status an advance stores covers the one shown last, so a merge patch of it leaves no stored
entry to be seen. -/
theorem covering_run (config : Config) (key : NamespacedName) (copy : CassandraTask)
    (h : History) :
    (Advance.run config key).Holds (Covering key copy) (fun _ _ => True) h := by
  refine holds_run_of (.read h) fun t kind _ _ => ?_
  let run : Run := { config, key, kind, datacenter := t.spec.datacenter }
  have hd : ∀ dc, InPlace run.key (h ++ [reading key (some t)] ++ [locating key t dc])
      (t.status.getD {}) := fun dc => (Shown.read h t).inPlace.quiet rfl
  refine holds_engage_of (.act rfl) (fun message => ?_) (fun dc reason => ?_) fun dc => ?_
  · exact InPlace.covering ((hd none).mono (TaskStatus.covers_of_eq rfl rfl rfl))
  · refine ⟨.act rfl, fun now => covering_finish run ?_⟩
    exact ((hd (some dc)).quiet rfl).mono ⟨fun _ h => h, id, fun _ => rfl⟩
  · exact covering_proceed run dc (hd (some dc))

/-! ## The call, and all of it -/

variable {config : Config}

/-- What settles a call ends the reconciliation, and no advance is queued then. -/
theorem covering_settled {spec : TaskSpec} {w : Work Action}
    (hw : w.Holds (Covering key copy) (fun _ _ => True) h) :
    Program.Holds (Covering key copy) (Queues config key spec) h
      (w.run >>= fun r => pure (.settled r)) :=
  (Program.holds_bind _ _ _).mpr
    (Program.Holds.mono (fun _ _ h => h) (fun h r _ => queues_settled h r) hw)

/-- A task that is found expired is deleted without a status. -/
theorem covering_expire {t : CassandraTask} (hname : t.metadata.anyName = key.name) :
    (Reconcile.expire config key.ns t).Holds (Covering key copy) (fun _ _ => True) h := by
  unfold Reconcile.expire
  split
  next => exact (holds_pure _).mpr trivial
  next finished _ =>
    refine (holds_bind _ _).mpr ((holds_effect .now).mpr ⟨.act rfl, fun now => ?_⟩)
    split
    next => exact (holds_pure _).mpr trivial
    next =>
      rw [hname]
      refine (holds_store_bind _ _).mpr ⟨.delete _, fun u => ?_⟩
      exact (holds_pure _).mpr trivial

/-- The status stored with a fault of the spec is that of the copy, but for the message, so it
covers the copy's. -/
theorem covering_reject {t : CassandraTask} (hname : t.metadata.anyName = key.name)
    (reason : String) :
    (Reconcile.reject key.ns t reason).Holds (Covering key t) (fun _ _ => True) [] := by
  unfold Reconcile.reject
  rw [hname]
  dsimp only
  split
  next =>
    refine (holds_store_bind _ _).mpr ⟨?_, fun u => (holds_pure _).mpr trivial⟩
    exact .persist (.given fun a ha => absurd ha List.not_mem_nil)
      (TaskStatus.covers_of_eq rfl rfl rfl)
  next => exact (holds_pure _).mpr trivial

/-- Each status that a reconciliation stores covers one that it knows to be stored: the one of the
copy the caller has, or the one its advance has read. -/
theorem covering_task {t : CassandraTask} (hns : t.metadata.ns = some key.ns)
    (hname : t.metadata.anyName = key.name) :
    (Reconcile.wholeTask config t).Holds (Covering key t) (fun _ _ => True) [] := by
  have hcall : (Reconcile.task config t).Holds (Covering key t)
      (Queues config key t.spec) [] := by
    unfold Reconcile.task
    rw [hns]
    dsimp only
    split
    next => exact queues_settled _ _
    next =>
      split
      next => exact covering_settled (covering_expire hname)
      next =>
        cases TaskKind.ofSpec t.spec with
        | error reason => exact covering_settled (covering_reject hname reason)
        | ok kind =>
          intro u hu
          cases hu
          rw [hname]
          exact ⟨rfl, rfl⟩
  -- Behind the call comes the advance it has queued, if any.
  refine (Program.holds_bind _ _ _).mpr (Program.Holds.mono (fun _ _ h => h) ?_ hcall)
  intro h job hjob
  cases job with
  | settled r => trivial
  | queued u =>
    show u.work.Holds _ _ h
    rw [(hjob u rfl).2]
    exact Program.Holds.mono (fun _ _ h => h) (fun _ _ _ => trivial) (covering_run config key t h)

end Advance

end RackOperator
