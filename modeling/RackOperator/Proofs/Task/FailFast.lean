import RackOperator.Proofs.Task.Endings
import RackOperator.Proofs.Task.Lifetimes

/-!
# Stopping at the first failure

Backups and repairs stop at the first member that fails. What carries this from one advance
to the next is the stored status alone: the entry of a member is RUNNING before it is called,
and becomes FAILED with its call, or with the next advance if this one is cut short. So no
failure is forgotten (`Remembers`, `Marked`), and the task ends FAILED.

An advance stops at the calls it makes itself. It does not look at the entries it sets out
with: where one of them is FAILED once the stale ones have failed (`SetOutFailed`), the members
still WAITING are called all the same. `stops_at_failure` says that this is the one way a member
is ever called behind a failure, along every run around the task; `called_behind_failure` is a
run in which it happens.

`halting_run` says what one advance does. Between two members it keeps `Unbroken`: every call so
far has succeeded, and an entry that is FAILED was so at the outset.
-/

namespace RackOperator

open Relation (ReflTransGen)
open Work

/-- Some entry is FAILED. -/
def TaskStatus.HasFailed (s : TaskStatus) : Prop := ∃ pod, s.pods.find? pod = some .failed

/-- The entry of a pod is FAILED, or will be for being RUNNING when an advance sets out. -/
def TaskStatus.Dooms (s : TaskStatus) (pod : String) : Prop :=
  s.pods.find? pod = some .running ∨ s.pods.find? pod = some .failed

/-- The pods whose sidecars an effect gets hold of, or asks. -/
def Effect.contacts : Effect → List String
  | .connect m => [m.name]
  | .request m _ => [m.name]
  | .requestAll ms _ => ms.map (·.name)
  | _ => []

/-- Whoever is called is contacted. A connection that fails contacts without a call, so the converse
does not hold. -/
theorem Answered.contacted {a : Answered} {c : Call} (hc : c ∈ a.calls) :
    a.effect.isSidecar = true ∧ c.member.name ∈ a.effect.contacts := by
  obtain ⟨e, reply⟩ := a
  cases e with
  | connect m =>
    cases reply with
    | ok u => exact absurd hc List.not_mem_nil
    | error err =>
      rw [List.mem_singleton.mp hc]
      exact ⟨rfl, List.mem_cons_self⟩
  | request m r =>
    rw [List.mem_singleton.mp hc]
    exact ⟨rfl, List.mem_cons_self⟩
  | requestAll ms r =>
    obtain ⟨p, hp, rfl⟩ := List.mem_map.mp hc
    exact ⟨rfl, List.mem_map_of_mem (List.of_mem_zip hp).1⟩
  | _ => exact absurd hc List.not_mem_nil

/-- Effects that are no business of sidecars make no calls, so they may be left out of account. -/
theorem History.calls_of_quiet {h : History} (hh : ∀ a ∈ h, a.effect.Quiet) : h.calls = [] := by
  apply calls_of_sidecars
  apply List.filter_eq_nil_iff.mpr
  intro e he
  obtain ⟨a, ha, rfl⟩ := List.mem_map.mp he
  rw [(hh a ha).isSidecar]
  exact Bool.false_ne_true

namespace Advance

variable {key : NamespacedName} {h : History} {s s' : TaskStatus} {pod : String} {m : Member}
  {run : Run}

/-! ## What is remembered -/

/-- The advance set out with a failure: of the entries it read, one is FAILED once those that are
stale among the members it found have failed. -/
def SetOutFailed (key : NamespacedName) (h : History) : Prop :=
  ∃ t ms statuses, reading key (some t) ∈ h ∧ ⟨.snapshot ms, statuses⟩ ∈ h ∧
    (failStale (t.status.getD {}) ms).HasFailed

/-- The members have been found. -/
def Looked (h : History) : Prop := ∃ ms statuses, ⟨.snapshot ms, statuses⟩ ∈ h

/-- A status loses no failure that a history knows of. -/
structure Remembers (key : NamespacedName) (h : History) (s : TaskStatus) : Prop where
  task : ∃ t, reading key (some t) ∈ h
  read : ∀ t, reading key (some t) ∈ h → ∀ pod, (t.status.getD {}).Dooms pod → s.Dooms pod
  calls : ∀ c ∈ h.calls, c.succeeded = false → s.Dooms c.member.name

/-- Nothing has failed since the advance set out. -/
structure Unbroken (key : NamespacedName) (h : History) (s : TaskStatus) : Prop where
  remembers : Remembers key h s
  looked : Looked h
  all : ∀ c ∈ h.calls, c.succeeded = true
  failed : s.HasFailed → SetOutFailed key h

/-- Pods may be contacted: they are stored to be RUNNING, and nothing has failed since the advance
set out. -/
structure MayContact (key : NamespacedName) (h : History) (pods : List String) : Prop where
  task : ∃ t, reading key (some t) ∈ h
  looked : Looked h
  all : ∀ c ∈ h.calls, c.succeeded = true
  shown : ∃ s, Shown key h s ∧ (∀ pod ∈ pods, s.pods.find? pod = some .running) ∧
    (s.HasFailed → SetOutFailed key h)

/-- What an advance of a kind that stops at failures may do after a history. -/
inductive Halting (key : NamespacedName) : History → Effect → Prop
  | read : Halting key [] (.store (.getTask key.ns key.name))
  | persist {h : History} {s : TaskStatus} (hs : Remembers key h s) :
    Halting key h (.store (.replaceTaskStatus key.ns key.name s))
  | act {h : History} {e : Effect} (he : e.onTask = false)
    (hc : e.isSidecar = true → MayContact key h e.contacts) : Halting key h e

theorem halting_quiet {e : Effect} (he : e.onTask = false) (hs : e.isSidecar = false) :
    Halting key h e :=
  .act he fun hc => by rw [hs] at hc; cases hc

/-- That an advance set out with a failure is not changed by what it does afterwards. -/
theorem SetOutFailed.append (hs : SetOutFailed key h) (h' : History) :
    SetOutFailed key (h ++ h') := by
  obtain ⟨t, ms, statuses, ht, hm, hf⟩ := hs
  exact ⟨t, ms, statuses, List.mem_append_left _ ht, List.mem_append_left _ hm, hf⟩

/-- An advance that has looked for failures has looked, whatever it does afterwards. -/
theorem Looked.append (hl : Looked h) (h' : History) : Looked (h ++ h') := by
  obtain ⟨ms, statuses, hm⟩ := hl
  exact ⟨ms, statuses, List.mem_append_left _ hm⟩

theorem Remembers.mono (hr : Remembers key h s) (hs : ∀ pod, s.Dooms pod → s'.Dooms pod) :
    Remembers key h s' :=
  ⟨hr.task, fun t ht pod hd => hs pod (hr.read t ht pod hd),
    fun c hc hf => hs _ (hr.calls c hc hf)⟩

/-- What comes after the task has been read does not read it again, so the status it set out with
stays the one there is. -/
theorem reading_of_append {h' : History} (hh : ∀ a ∈ h', ∀ t, a ≠ reading key (some t))
    {t : CassandraTask} (ht : reading key (some t) ∈ h ++ h') : reading key (some t) ∈ h :=
  (List.mem_append.mp ht).resolve_right fun hm => hh _ hm t rfl

/-- More effects, in which only calls that the status knows of have failed, leave it remembering
every failure. -/
theorem Remembers.append (hr : Remembers key h s) {h' : History}
    (hh : ∀ a ∈ h', ∀ t, a ≠ reading key (some t))
    (hc : ∀ c ∈ h'.calls, c.succeeded = false → s.Dooms c.member.name) :
    Remembers key (h ++ h') s := by
  obtain ⟨t, ht⟩ := hr.task
  refine ⟨⟨t, List.mem_append_left _ ht⟩, fun t' ht' => hr.read t' (reading_of_append hh ht'), ?_⟩
  intro c hcall hf
  rw [History.calls_append] at hcall
  rcases List.mem_append.mp hcall with hcall | hcall
  · exact hr.calls c hcall hf
  · exact hc c hcall hf

theorem not_reading {a : Answered} (ha : a.effect.onTask = false) (t : CassandraTask) :
    a ≠ reading key (some t) := by
  intro he
  rw [he] at ha
  cases ha

theorem storing_ne_reading (s : TaskStatus) : ∀ a ∈ [storing key s], ∀ t,
    a ≠ reading key (some t) := by
  intro a ha t he
  rw [List.mem_singleton.mp ha] at he
  cases he

theorem Remembers.stored (hr : Remembers key h s) : Remembers key (h ++ [storing key s]) s :=
  hr.append (storing_ne_reading s) fun _ hc => absurd hc List.not_mem_nil

/-- Effects that contact nobody and store nothing leave a history unbroken. -/
theorem Unbroken.quiet (hu : Unbroken key h s) {h' : History} (hh : ∀ a ∈ h', a.effect.Quiet) :
    Unbroken key (h ++ h') s := by
  have hcalls := History.calls_of_quiet hh
  refine ⟨hu.remembers.append (fun a ha => not_reading (hh a ha).onTask) ?_, hu.looked.append _,
    ?_, fun hf => (hu.failed hf).append _⟩
  · rw [hcalls]
    exact nofun
  · rw [History.calls_append, hcalls, List.append_nil]
    exact hu.all

/-! ## One member -/

theorem dooms_of_ne (hn : m.name ≠ pod) (outcome : Except OperatorError Unit) :
    (record (begin s m) m outcome).Dooms pod ↔ s.Dooms pod := by
  unfold TaskStatus.Dooms
  rw [find?_record_of_ne hn, find?_begin_of_ne hn]

/-- A pod that waits is not the one that is doomed, so the next member to be called is another one
than those whose failure is known. -/
theorem ne_of_dooms (hw : s.pods.find? m.name = some .waiting) (hd : s.Dooms pod) :
    m.name ≠ pod := by
  rintro rfl
  rcases hd with hd | hd
  · rw [hw] at hd
    cases hd
  · rw [hw] at hd
    cases hd

theorem dooms_begin (hd : s.Dooms pod) : (begin s m).Dooms pod := by
  by_cases hn : m.name = pod
  · subst hn
    exact .inl (find?_begin s m)
  · unfold TaskStatus.Dooms
    rw [find?_begin_of_ne hn]
    exact hd

theorem find?_record_error (err : OperatorError) :
    (record s m (.error err)).pods.find? m.name = some .failed := by
  show (s.pods.insert m.name .failed).find? m.name = _
  rw [SortedMap.find?_insert, if_pos rfl]

/-- No entry fails by beginning: what has failed once a member has begun had failed before. -/
theorem hasFailed_begin (hf : (begin s m).HasFailed) : s.HasFailed := by
  obtain ⟨pod, hp⟩ := hf
  by_cases hn : m.name = pod
  · subst hn
    rw [find?_begin] at hp
    cases hp
  · rw [find?_begin_of_ne hn] at hp
    exact ⟨pod, hp⟩

/-- Once its entry is stored to be RUNNING, a member may be contacted, as nothing has failed so far.
-/
theorem Unbroken.begun (hu : Unbroken key h s) :
    MayContact key (h ++ [storing key (begin s m)]) [m.name] := by
  obtain ⟨t, ht⟩ := hu.remembers.task
  refine ⟨⟨t, List.mem_append_left _ ht⟩, hu.looked.append _, ?_, begin s m, .stored _ _, ?_, ?_⟩
  · intro c hc
    rw [History.calls_append] at hc
    exact hu.all c ((List.mem_append.mp hc).resolve_right List.not_mem_nil)
  · intro pod hp
    rw [List.mem_singleton.mp hp]
    exact find?_begin s m
  · intro hf
    exact (hu.failed (hasFailed_begin hf)).append _

/-- It still may once its sidecar has been got hold of, since connecting makes no call. -/
theorem MayContact.connected {pods : List String} (hc : MayContact key h pods) :
    MayContact key (h ++ [connecting m (.ok ())]) pods := by
  obtain ⟨t, ht⟩ := hc.task
  obtain ⟨s, hs, hrun, hf⟩ := hc.shown
  refine ⟨⟨t, List.mem_append_left _ ht⟩, hc.looked.append _, ?_, s, hs.kept rfl, hrun,
    fun hfail => (hf hfail).append _⟩
  intro c hcall
  rw [History.calls_append] at hcall
  exact hc.all c ((List.mem_append.mp hcall).resolve_right List.not_mem_nil)

/-- A member is called, and nothing is done to the task meanwhile. However the sidecar answers, it
is one call with one outcome. -/
theorem halting_step (hc : MayContact run.key h [m.name])
    {Q : History → Except OperatorError Unit → Prop}
    (hQ : ∀ done outcome, History.calls done = [⟨m, outcome.isOk⟩] →
      (∀ a ∈ done, a.effect.onTask = false) → Q (h ++ done) outcome) :
    (step run m).Holds (Halting run.key) Q h := by
  refine holds_step_of (.act rfl fun _ => hc) (fun err => ?_)
    (fun u request => .act rfl fun _ => hc.connected) fun u request reply => ?_
  · apply hQ [connecting m (.error err)] _ rfl
    intro a ha
    rw [List.mem_singleton.mp ha]
    rfl
  · rw [List.append_assoc]
    apply hQ [connecting m (.ok u), asking m request reply]
    · exact congrArg (fun succeeded => [Call.mk m succeeded]) (isOk_judged request m reply).symm
    · intro a ha
      rcases List.mem_cons.mp ha with rfl | ha
      · rfl
      · rw [List.mem_singleton.mp ha]
        rfl

/-- What a member's call came to is remembered, and all is as before if it succeeded. A failure ends
the history's being unbroken, and with it the walk. -/
theorem Unbroken.called (hu : Unbroken key h s) (hw : s.pods.find? m.name = some .waiting)
    {outcome : Except OperatorError Unit} {done : History}
    (hcalls : History.calls done = [⟨m, outcome.isOk⟩])
    (hdone : ∀ a ∈ done, a.effect.onTask = false) :
    Remembers key (h ++ [storing key (begin s m)] ++ done) (record (begin s m) m outcome) ∧
      (outcome.isOk = true →
        Unbroken key (h ++ [storing key (begin s m)] ++ done ++
          [storing key (record (begin s m) m outcome)]) (record (begin s m) m outcome)) := by
  have hr : Remembers key (h ++ [storing key (begin s m)] ++ done)
      (record (begin s m) m outcome) := by
    have hkeep : Remembers key (h ++ [storing key (begin s m)]) (record (begin s m) m outcome) :=
      (hu.remembers.append (storing_ne_reading _) fun c hc => absurd hc List.not_mem_nil).mono
        fun pod hd => (dooms_of_ne (ne_of_dooms hw hd) outcome).mpr hd
    refine hkeep.append (fun a ha => not_reading (hdone a ha)) fun c hc hf => ?_
    rw [hcalls] at hc
    rw [List.mem_singleton.mp hc] at hf ⊢
    -- A call that succeeded is no failure to remember; one that failed is in the record.
    cases outcome with
    | ok u => cases hf
    | error err => exact .inr (find?_record_error err)
  refine ⟨hr, fun hok => ⟨hr.stored, ?_, fun c hc => ?_, fun hf => ?_⟩⟩
  · exact ((hu.looked.append _).append _).append _
  · rw [History.calls_append, History.calls_append, History.calls_append, hcalls] at hc
    rcases List.mem_append.mp hc with hc | hc
    · rcases List.mem_append.mp hc with hc | hc
      · exact hu.all c ((List.mem_append.mp hc).resolve_right List.not_mem_nil)
      · rw [List.mem_singleton.mp hc]
        exact hok
    · cases hc
  · refine (((hu.failed ?_).append _).append _).append _
    obtain ⟨pod, hp⟩ := hf
    by_cases hn : m.name = pod
    · subst hn
      cases outcome with
      | ok u =>
        have hsucceed : ((begin s m).pods.insert m.name .succeed).find? m.name = some .failed := hp
        rw [SortedMap.find?_insert, if_pos rfl] at hsucceed
        cases hsucceed
      | error err => cases hok
    · rw [find?_record_of_ne hn, find?_begin_of_ne hn] at hp
      exact ⟨pod, hp⟩

/-! ## The whole advance -/

/-- The members are called one at a time, up to the first that fails. The induction is on the
members left: as long as the history is unbroken the next may be contacted. -/
theorem halting_walk (pacing : Nat) (ms : List Member) (hu : Unbroken run.key h s)
    (hnd : (ms.map (·.name)).Nodup) (hw : ∀ m ∈ ms, s.pods.find? m.name = some .waiting) :
    (walk run pacing true false s ms).Holds (Halting run.key) (Remembers run.key) h := by
  refine holds_walk_of (I := Unbroken run.key) ?_ ?_ (fun _ _ hu => hu.remembers) hnd hw hu false
  · intro h s hu
    refine ⟨halting_quiet rfl rfl, fun u => hu.quiet fun a ha => ?_⟩
    rw [List.mem_singleton.mp ha]
    exact ⟨rfl, rfl⟩
  · intro h s hu m _ hm
    refine ⟨.persist (hu.remembers.mono fun pod => dooms_begin), halting_step hu.begun ?_⟩
    intro done outcome hcalls hdone
    obtain ⟨hr, hgo⟩ := hu.called hm hcalls hdone
    -- the walk goes on behind a success, and nowhere else
    exact ⟨.persist hr, fun hok => hgo (by simpa using hok), fun _ _ => hr.stored⟩

/-- A kind that stops at failures begins with every member there is; the kinds that pick members by
their status do not stop. -/
theorem select_of_stops {kind : TaskKind} (hk : kind.stopsAtFailure = true) (ms : List Member)
    (statuses : StatusSnapshot) : kind.select ms statuses = ms := by
  cases kind with
  | replication spec => cases hk
  | _ => rfl

/-- Once the stale entries have failed, what is doomed has failed: an entry that was RUNNING when
its advance was cut short counts as a failure from here on. -/
theorem failed_of_dooms {ms : List Member} (hd : s.Dooms pod) :
    (failStale s ms).pods.find? pod = some .failed := by
  rw [find?_failStale]
  rcases hd with hd | hd
  · rw [hd]
    rfl
  · rw [hd]
    rfl

theorem dooms_failStale {ms : List Member} (hd : s.Dooms pod) : (failStale s ms).Dooms pod :=
  .inr (failed_of_dooms hd)

/-- First entries wait for members that are there, so none of them is stale and nothing has failed
before the first call. -/
theorem not_hasFailed_first {ms : List Member} (hs : s.pods =
    SortedMap.ofList (ms.map fun m => (m.name, .waiting))) : ¬(failStale s ms).HasFailed := by
  rintro ⟨pod, hp⟩
  rw [find?_failStale, hs] at hp
  obtain ⟨p, hfind, hp⟩ := Option.map_eq_some_iff.mp hp
  obtain ⟨m, hm, he⟩ := List.mem_map.mp (SortedMap.mem_of_find?_ofList hfind)
  cases he
  rw [settled_eq_waiting.mpr ⟨rfl, List.mem_map_of_mem hm⟩] at hp
  cases hp

/-- An advance that has called nobody yet, and has in hand the status it read. -/
structure Outset (key : NamespacedName) (h : History) (s : TaskStatus) : Prop where
  task : ∃ t, reading key (some t) ∈ h
  read : ∀ t, reading key (some t) ∈ h → t.status.getD {} = s
  calls : h.calls = []

namespace Outset

/-- What an advance sets out with remembers all failures, as no call has been made yet. -/
theorem remembers (ho : Outset key h s) : Remembers key h s := by
  refine ⟨ho.task, fun t ht pod hd => ho.read t ht ▸ hd, fun c hc => ?_⟩
  rw [ho.calls] at hc
  cases hc

theorem quiet (ho : Outset key h s) {h' : History} (hh : ∀ a ∈ h', a.effect.Quiet) :
    Outset key (h ++ h') s := by
  obtain ⟨t, ht⟩ := ho.task
  refine ⟨⟨t, List.mem_append_left _ ht⟩, fun t ht => ?_, ?_⟩
  · exact ho.read t (reading_of_append (fun a ha => not_reading (hh a ha).onTask) ht)
  · rw [History.calls_append, ho.calls, History.calls_of_quiet hh, List.nil_append]

theorem quiet_one (ho : Outset key h s) {a : Answered} (ha : a.effect.Quiet) :
    Outset key (h ++ [a]) s :=
  ho.quiet fun b hb => by rw [List.mem_singleton.mp hb]; exact ha

end Outset

/-- Once the stale entries have failed, the members may be called: either nothing has failed, or the
advance has set out with the failure. -/
theorem halting_start {ms : List Member} {statuses : StatusSnapshot}
    (hk : run.kind.stopsAtFailure = true) (ho : Outset run.key h s)
    (hsnap : ⟨.snapshot ms, statuses⟩ ∈ h) :
    (start run ms statuses s).Holds (Halting run.key)
      (fun h' s' => Unbroken run.key h' (failStale s' ms)) h := by
  refine holds_start_of (fun _ => ?_) (halting_quiet rfl rfl) fun hempty t => ?_
  · refine ⟨ho.remembers.mono fun pod => dooms_failStale, ⟨ms, statuses, hsnap⟩, ?_, fun hf => ?_⟩
    · rw [ho.calls]
      exact nofun
    · obtain ⟨t, ht⟩ := ho.task
      exact ⟨t, ms, statuses, ht, hsnap, by rw [ho.read t ht]; exact hf⟩
  · have hn := ho.quiet_one (a := ⟨.now, t⟩) ⟨rfl, rfl⟩
    -- there were no entries that could have been doomed
    have hnone : ∀ pod, ¬s.Dooms pod := by
      intro pod hd
      unfold TaskStatus.Dooms at hd
      rw [SortedMap.eq_empty hempty] at hd
      rcases hd with hd | hd
      · cases hd
      · cases hd
    have hr : Remembers run.key (h ++ [⟨.now, t⟩]) (firstEntries run ms statuses s t) :=
      hn.remembers.mono fun pod hd => absurd hd (hnone pod)
    refine ⟨.persist hr, fun entry => ⟨halting_quiet rfl rfl, fun u => ?_⟩⟩
    refine ⟨(hr.stored.append ?_ ?_).mono fun pod => dooms_failStale, ?_, ?_, ?_⟩
    · intro a ha
      apply not_reading
      rw [List.mem_singleton.mp ha]
      rfl
    · exact fun c hc => absurd hc List.not_mem_nil
    · exact ⟨ms, statuses, List.mem_append_left _ (List.mem_append_left _
        (List.mem_append_left _ hsnap))⟩
    · intro c hc
      rw [History.calls_append, History.calls_append, hn.calls] at hc
      cases hc
    · intro hf
      refine absurd hf (not_hasFailed_first ?_)
      unfold firstEntries
      rw [select_of_stops hk]

theorem halting_finish (run : Run) (hr : Remembers run.key h s) :
    (finish run s).Holds (Halting run.key) (fun _ _ => True) h :=
  holds_finish_of (.persist hr) fun _ => halting_quiet rfl rfl

theorem halting_conclude (run : Run) (hr : Remembers run.key h s) :
    (conclude run s).Holds (Halting run.key) (fun _ _ => True) h := by
  have hp : Remembers run.key h { s with phase := aggregate s.pods } := hr.mono fun _ hd => hd
  refine holds_conclude_of (halting_quiet rfl rfl) (fun t _ => ?_) fun _ => .persist hp
  refine halting_finish run (Remembers.mono (hp.append ?_ ?_) fun _ hd => hd)
  · intro a ha
    apply not_reading
    rw [List.mem_singleton.mp ha]
    rfl
  · exact fun c hc => absurd hc List.not_mem_nil

theorem halting_proceed (run : Run) (dc : DataCenter) (hk : run.kind.stopsAtFailure = true)
    (ho : Outset run.key h s) :
    (proceed run dc s).Holds (Halting run.key) (fun _ _ => True) h := by
  refine holds_proceed_of (I := fun _ => Unbroken run.key) (Q := Remembers run.key)
    (fun _ _ _ => halting_quiet rfl rfl) ?_ ?_ ?_ fun h s => halting_conclude run
  · refine fun h' ms hh _ => ⟨halting_quiet rfl rfl, fun statuses => halting_start hk ?_ ?_⟩
    · exact (ho.quiet hh).quiet_one ⟨rfl, rfl⟩
    · exact List.mem_append_right _ List.mem_cons_self
  · intro ms h s pacing failFast hu hx hnd hw
    rw [show failFast = true from (failFast_eq hx).trans hk]
    exact halting_walk pacing _ hu hnd hw
  · intro ms h s _ hx
    rw [stopsAtFailure_of_parallel hx] at hk
    cases hk

/-- The tasks a history has read are of kinds that stop at failures. -/
def OfStopping (key : NamespacedName) (h : History) : Prop :=
  ∀ t, reading key (some t) ∈ h → ∀ kind, TaskKind.ofSpec t.spec = .ok kind →
    kind.stopsAtFailure = true

/-- An advance of a task that stops at failures does so, however it is answered and wherever it is
cut short. What it remembers of failures is in its own history and in the status that it has read.
-/
theorem halting_run (config : Config) (key : NamespacedName) :
    (Advance.run config key).Holds (fun h e => OfStopping key h → Halting key h e)
      (fun _ _ => True) [] := by
  refine holds_run_of (fun _ => .read) fun t kind _ hkind => ?_
  by_cases hk : kind.stopsAtFailure = true
  · refine Work.Holds.mono (fun h' e hd (_ : OfStopping key h') => hd) (fun _ _ h => h) ?_
    let run : Run := { config, key, kind, datacenter := t.spec.datacenter }
    have ho : Outset run.key [reading key (some t)] (t.status.getD {}) := by
      refine ⟨⟨t, List.mem_cons_self⟩, fun t' ht' => ?_, rfl⟩
      cases List.mem_singleton.mp ht'
      rfl
    have hd : ∀ dc, Outset run.key ([reading key (some t)] ++ [locating key t dc])
        (t.status.getD {}) := fun dc => ho.quiet_one ⟨rfl, rfl⟩
    refine holds_engage_of (halting_quiet rfl rfl) (fun message => ?_) (fun dc reason => ?_)
      fun dc => ?_
    · exact .persist ((hd none).remembers.mono fun _ hd => hd)
    · refine ⟨halting_quiet rfl rfl, fun now => halting_finish run ?_⟩
      have hn := (hd (some dc)).quiet_one (a := ⟨.now, now⟩) ⟨rfl, rfl⟩
      exact hn.remembers.mono fun _ hd => hd
    · exact halting_proceed run dc hk (hd (some dc))
  · -- nothing is said of a kind that does not stop
    apply Program.holds_of_forall
    · intro h' e hstops
      exact absurd (hstops t (List.mem_append_left _ List.mem_cons_self) kind hkind) hk
    · exact fun _ _ _ _ => trivial

/-! ## Runs -/

variable {config : Config} {spec : TaskSpec} {kind : TaskKind} {w w' : World}
  {s₁ s₂ : Scene}

/-- The advance whose turn it is makes a call that fails. -/
inductive Scene.Fails (s : Scene) : Scene → Prop
  | act {h : History} {e : Effect} {next : e.Reply → Program _} {r : e.Reply} {w' : World}
    {c : Call} (ht : s.turn = some ⟨h, .perform e next⟩) (ha : Answers s.world e r w')
    (hc : c ∈ Answered.calls ⟨e, r⟩) (hf : c.succeeded = false) :
    Fails s { s with
      world := w', turn := some ⟨h ++ [⟨e, r⟩], next r⟩, asked := s.asked ++ e.invokes }

/-- A step is an effect of the advance under way, or it keeps the status of the task and the advance
under way; one that begins has done nothing yet. -/
theorem acts_or_keeps {s s' : Scene} (hkind : TaskKind.ofSpec spec = .ok kind)
    (hf : Formed config key spec s) (h : Step config key spec s s') :
    (∃ h e next r, s.turn = some ⟨h, .perform e next⟩ ∧ Answers s.world e r s'.world ∧
      s'.turn = some ⟨h ++ [⟨e, r⟩], next r⟩) ∨
    s.world.KeepsStatus s'.world key ∧
      ∀ u, s'.turn = some u → s.turn = some u ∨ u = fresh config key := by
  have hsame := keepsStatus_refl s.world key
  -- Every step but the advance's own either leaves the status or is a call or pass that never
  -- writes one.
  cases h with
  | @act h e next r w' ht ha => exact .inl ⟨h, e, next, r, ht, ha, rfl⟩
  | @callActs l₁ l₂ u u' w' hc ha =>
    have hu := forall_mem_at hf.calls hc
    cases ha with
    | act ha =>
      exact .inr ⟨keepsStatus_of_answers ha (hu.1.not_persist hkind), fun v hv => .inl hv⟩
  | @begin l₁ l₂ u ht hq =>
    have hu := forall_mem_at hf.queued hq
    refine .inr ⟨hsame, fun v hv => .inr ?_⟩
    cases hv
    unfold fresh
    rw [hu.2]
  | @passActs l₁ l₂ k u u' w' hp ha =>
    have hu := forall_mem_at hf.passes hp
    cases ha with
    | act ha =>
      exact .inr ⟨keepsStatus_of_answers ha (not_persist_of_due hu.1 key), fun v hv => .inl hv⟩
  | leave => exact .inr ⟨hsame, nofun⟩
  | restart => exact .inr ⟨hsame, nofun⟩
  | edit he => exact .inr ⟨he, fun v hv => .inl hv⟩
  | _ => exact .inr ⟨hsame, fun v hv => .inl hv⟩

/-! ### What is shown is what is stored -/

/-- What a history was shown last is what is stored. -/
def Current (key : NamespacedName) (w : World) (h : History) : Prop :=
  ∀ s₀, Shown key h s₀ → ∀ t, w.task? key = some t → t.status.getD {} = s₀

theorem current_nil (key : NamespacedName) (w : World) : Current key w [] :=
  fun _ hs => absurd hs shown_nil

/-- What an advance knows of its task stays true while the spec and the status are kept. -/
theorem Current.keeps (hi : Current key w h) (hk : w.KeepsSpec w' key)
    (hs : w.KeepsStatus w' key) : Current key w' h := by
  intro s₀ hs₀ t' ht'
  obtain ⟨t, ht, -⟩ := hk t' ht'
  rw [hs t t' ht ht']
  exact hi s₀ hs₀ t ht

/-- One effect of the advance under way: only storing a status changes what there is to know, and
then the advance knows the status it stored. -/
theorem Current.act {e : Effect} {r : e.Reply} (hi : Current key w h) (ha : Answers w e r w')
    (hk : w.KeepsSpec w' key) : Current key w' (h ++ [⟨e, r⟩]) := by
  intro s₀ hs₀ t' ht'
  rcases shown_concat hs₀ with ⟨t, he, rfl⟩ | he | ⟨hq, hold⟩
  · -- the task has just been read
    cases he
    have hread := task?_of_reading ha rfl
    rw [keepsStatus_of_answers ha (by simp) t t' hread ht']
  · cases he
    rcases keeps_or_stores ha with ⟨-, err, hr⟩ | hnow
    · cases hr
    · rw [hnow t' ht']
      rfl
  · exact hi.keeps hk (keepsStatus_of_onTask ha hq) s₀ hold t' ht'

/-- An advance of a task that stops at failures, and what it was shown. -/
structure Heedful (config : Config) (key : NamespacedName) (spec : TaskSpec) (s : Scene) :
    Prop where
  formed : Formed config key spec s
  ofSpec : OfSpec key spec s
  turn : ∀ u, s.turn = some u →
    u.Holds (fun h e => OfStopping key h → Halting key h e) (fun _ _ => True)
  current : ∀ u, s.turn = some u → Current key s.world u.history

namespace Heedful

variable {s s' : Scene} (hkind : TaskKind.ofSpec spec = .ok kind)
  (hstops : kind.stopsAtFailure = true)
include hkind hstops

/-- The effect that comes next is due, since a whole advance halts however it has been answered so
far. -/
theorem halting (hi : Heedful config key spec s) {h : History} {e : Effect}
    {next : e.Reply → Program (Except OperatorError Action)}
    (ht : s.turn = some ⟨h, .perform e next⟩) : Halting key h e := by
  refine (hi.turn _ ht).1 fun t hread kind' hkind' => ?_
  rw [hi.ofSpec.read _ ht t hread, hkind] at hkind'
  cases hkind'
  exact hstops

omit hstops in
/-- A step of the system keeps the run heedful: the advance under way goes by the code, and knows
what its task has come to. -/
theorem step (hi : Heedful config key spec s) (h : Step config key spec s s')
    (hk : s.world.KeepsSpec s'.world key) : Heedful config key spec s' := by
  refine ⟨formed_step h hi.formed, ofSpec_step h hk hi.ofSpec, fun u hu => ?_, fun u hu => ?_⟩
  · rcases acts_or_keeps hkind hi.formed h with ⟨h, e, next, r, ht, -, ht'⟩ | ⟨-, ht⟩
    · rw [ht'] at hu
      cases hu
      exact (hi.turn _ ht).2 r
    · rcases ht u hu with hold | rfl
      · exact hi.turn u hold
      · exact Program.Holds.mono (fun _ _ h => h) (fun _ _ _ => trivial) (halting_run config key)
  · rcases acts_or_keeps hkind hi.formed h with ⟨h, e, next, r, ht, ha, ht'⟩ | ⟨hs, ht⟩
    · rw [ht'] at hu
      cases hu
      exact (hi.current _ ht).act ha hk
    · rcases ht u hu with hold | rfl
      · exact (hi.current u hold).keeps hk hs
      · exact current_nil key _

end Heedful

/-! ### What a failure leaves -/

/-- A pod that has failed is doomed in the store, and the advance under way has failed to call it
or has read that it is doomed. -/
structure Marked (key : NamespacedName) (pod : String) (s : Scene) : Prop where
  stored : ∀ t, s.world.task? key = some t → (t.status.getD {}).Dooms pod
  turn : ∀ u, s.turn = some u →
    (∃ c ∈ u.history.calls, c.succeeded = false ∧ c.member.name = pod) ∨
      ∀ t, reading key (some t) ∈ u.history → (t.status.getD {}).Dooms pod

/-- A pod that is doomed by the stored status stays so while that status is kept. -/
theorem dooms_of_keeps (hs : w.KeepsStatus w' key) (hk : w.KeepsSpec w' key)
    (h : ∀ t, w.task? key = some t → (t.status.getD {}).Dooms pod) :
    ∀ t, w'.task? key = some t → (t.status.getD {}).Dooms pod := by
  intro t' ht'
  obtain ⟨t, ht, -⟩ := hk t' ht'
  rw [hs t t' ht ht']
  exact h t ht

/-- A status that remembers what the advance under way knows has the pod doomed, whether the failure
is of a call just made or of an entry read. -/
theorem Remembers.dooms (hr : Remembers key h s)
    (hu : (∃ c ∈ h.calls, c.succeeded = false ∧ c.member.name = pod) ∨
      ∀ t, reading key (some t) ∈ h → (t.status.getD {}).Dooms pod) : s.Dooms pod := by
  rcases hu with ⟨c, hc, hf, rfl⟩ | hread
  · exact hr.calls c hc hf
  · obtain ⟨t, ht⟩ := hr.task
    exact hr.read t ht pod (hread t ht)

section

variable {s s' : Scene} (hkind : TaskKind.ofSpec spec = .ok kind)
  (hstops : kind.stopsAtFailure = true)
include hkind hstops

/-- A pod that is marked stays marked through every step. The failure is known to the advance, or it
is in the store for the next one to find. -/
theorem marked_step (hi : Heedful config key spec s) (h : Step config key spec s s')
    (hk : s.world.KeepsSpec s'.world key) (hm : Marked key pod s) : Marked key pod s' := by
  rcases acts_or_keeps hkind hi.formed h with ⟨h, e, next, r, ht, ha, ht'⟩ | ⟨hs, ht⟩
  · have hd := hi.halting hkind hstops ht
    have hu := hm.turn _ ht
    refine ⟨?_, fun u hu' => ?_⟩
    · cases hd with
      | read => exact dooms_of_keeps (keepsStatus_of_answers ha (by simp)) hk hm.stored
      | persist hr =>
        rcases keeps_or_stores ha with ⟨hs, -⟩ | hnow
        · exact dooms_of_keeps hs hk hm.stored
        · intro t ht
          rw [hnow t ht]
          exact hr.dooms hu
      | act he => exact dooms_of_keeps (keepsStatus_of_onTask ha he) hk hm.stored
    · rw [ht'] at hu'
      cases hu'
      -- a failed call stays in the history; otherwise only a first read could add anything
      rcases hu with ⟨c, hc, hfc⟩ | hread
      · refine .inl ⟨c, ?_, hfc⟩
        rw [History.calls_append]
        exact List.mem_append_left _ hc
      · refine .inr fun t hmem => ?_
        rcases List.mem_append.mp hmem with hmem | hmem
        · exact hread t hmem
        · cases List.mem_singleton.mp hmem
          exact hm.stored t (task?_of_reading ha rfl)
  · refine ⟨dooms_of_keeps hs hk hm.stored, fun u hu => ?_⟩
    rcases ht u hu with hold | rfl
    · exact hm.turn u hold
    · exact .inr fun t ht => absurd ht List.not_mem_nil

/-- A pod that fails is marked: its call has failed in the advance under way, or its entry has
become FAILED in the store. -/
theorem marked_of_fails (hi : Heedful config key spec s) (h : s.Fails s') :
    Step config key spec s s' ∧ s.world.KeepsSpec s'.world key ∧ ∃ pod, Marked key pod s' := by
  cases h with
  | @act h e next r w' c ht ha hc hf =>
    have hk : s.world.KeepsSpec w' key := keepsSpec_of_due ha (hi.formed.turn _ ht).1
    refine ⟨.act s ht ha, hk, c.member.name, ?_, fun u hu => .inl ?_⟩
    · -- it was stored to be RUNNING when it was called
      obtain ⟨hsidecar, hcontact⟩ := Answered.contacted hc
      cases hi.halting hkind hstops ht with
      | read => cases hsidecar
      | persist => cases hsidecar
      | act he hmay =>
        obtain ⟨s₀, hs₀, hrunning, -⟩ := (hmay hsidecar).shown
        refine dooms_of_keeps (keepsStatus_of_onTask ha he) hk fun t hstored => ?_
        rw [hi.current _ ht s₀ hs₀ t hstored]
        exact .inl (hrunning _ hcontact)
    · cases hu
      refine ⟨c, ?_, hf, rfl⟩
      rw [History.calls_append]
      exact List.mem_append_right _ (List.mem_append_left _ hc)

omit hkind hstops in
/-- Behind a failure, whoever contacts a sidecar set out with it. The walk itself never goes on
behind a failure of its own. -/
theorem setOutFailed_of_marked (hm : Marked key pod s) {h : History} {e : Effect}
    {next : e.Reply → Program (Except OperatorError Action)}
    (ht : s.turn = some ⟨h, .perform e next⟩) (hc : MayContact key h e.contacts) :
    SetOutFailed key h := by
  obtain ⟨t, hread⟩ := hc.task
  obtain ⟨ms, statuses, hlooked⟩ := hc.looked
  rcases hm.turn _ ht with ⟨c, hcall, hf, -⟩ | hdoomed
  · rw [hc.all c hcall] at hf
    cases hf
  · exact ⟨t, ms, statuses, hread, hlooked, pod, failed_of_dooms (hdoomed t hread)⟩

end

theorem heedful_of_runs {t : CassandraTask} {s : Scene} (hkind : TaskKind.ofSpec t.spec = .ok kind)
    (ht : w.task? key = some t)
    (hr : Runs config key t.spec ⟨w, [], [], none, [], []⟩ s) : Heedful config key t.spec s := by
  induction hr with
  | refl =>
    refine ⟨formed_start _ _ _ w, ⟨fun t' ht' => ?_, nofun⟩, nofun, nofun⟩
    rw [Option.some.inj (ht'.symm.trans ht)]
  | tail _ hstep ih => exact ih.step hkind hstep.1 hstep.2

/-- **Stopping at failures.** Of a task that stops at failures, no sidecar is contacted behind a
call of the same advance that failed. It is contacted with a FAILED entry in the store, or behind
a call of an earlier advance that failed, only if the advance found the failure when it set out:
among the entries it read, once the stale ones had failed. -/
theorem stops_at_failure {t : CassandraTask} {s : Scene}
    (hkind : TaskKind.ofSpec t.spec = .ok kind) (hstops : kind.stopsAtFailure = true)
    (ht : w.task? key = some t) (hr : Runs config key t.spec ⟨w, [], [], none, [], []⟩ s)
    {e : Effect} {next : e.Reply → Program (Except OperatorError Action)}
    (hturn : s.turn = some ⟨h, .perform e next⟩) (he : e.isSidecar = true) :
    (∀ c ∈ h.calls, c.succeeded = true) ∧
    ((∃ t', s.world.task? key = some t' ∧ (t'.status.getD {}).HasFailed) → SetOutFailed key h) ∧
    ∀ s₁ s₂, Runs config key t.spec ⟨w, [], [], none, [], []⟩ s₁ → s₁.Fails s₂ →
      Runs config key t.spec s₂ s → SetOutFailed key h := by
  have hi := heedful_of_runs hkind ht hr
  have hmay : MayContact key h e.contacts := by
    cases hi.halting hkind hstops hturn with
    | read => cases he
    | persist => cases he
    | act _ hc => exact hc he
  refine ⟨hmay.all, ?_, fun s₁ s₂ hr₁ hf hr₂ => ?_⟩
  · rintro ⟨t', hstored, hfailed⟩
    obtain ⟨s₀, hs₀, -, hset⟩ := hmay.shown
    apply hset
    rw [← hi.current _ hturn s₀ hs₀ t' hstored]
    exact hfailed
  · have hi₁ := heedful_of_runs hkind ht hr₁
    obtain ⟨hstep, hk, pod, hm⟩ := marked_of_fails hkind hstops hi₁ hf
    -- the mark stays to the end of the run
    suffices hs : Heedful config key t.spec s ∧ Marked key pod s from
      setOutFailed_of_marked hs.2 hturn hmay
    clear hturn hmay hi hr
    induction hr₂ with
    | refl => exact ⟨hi₁.step hkind hstep hk, hm⟩
    | tail _ hnext ih =>
      exact ⟨ih.1.step hkind hnext.1 hnext.2,
        marked_step hkind hstops ih.1 hnext.1 hnext.2 ih.2⟩

/-! ## A failure that is passed over -/

/-- A task that repairs the DataCenter. -/
def mend : CassandraTask where
  metadata := { name := some "t", ns := some "n" }
  spec := { datacenter := "d", repair := some {} }

/-- A world with the two, where the DataCenter has two members and the first cannot be repaired. -/
def unmended : World where
  store := {
    dataCenters := SortedMap.insert {} ⟨"n", "d"⟩ tidied
    statefulSets := SortedMap.insert {} ⟨"n", "c-d-rack1"⟩
      (Fixture.readyStatefulSet tidied (.new 0) 2)
    tasks := SortedMap.insert {} tidyKey mend }
  sidecars := Sidecar.Script.fail {} ⟨"c-d-rack1-0", "repair", none⟩

/-- The first advance is cut short once it has stored that the first member has failed. The next one
comes to contact the second, though an entry is FAILED. -/
theorem runs_mending : ∃ s h e next,
    Runs {} tidyKey mend.spec ⟨unmended, [], [], none, [], []⟩ s ∧
      s.turn = some ⟨h, .perform e next⟩ ∧ e.isSidecar = true ∧
        ∃ t, s.world.task? tidyKey = some t ∧ (t.status.getD {}).HasFailed := by
  have hu : ∃ u, Reconcile.task {} mend = .done (.queued u) := ⟨_, rfl⟩
  obtain ⟨u, hu⟩ := hu
  let w : World := ((fresh {} tidyKey).forward 11 unmended).1
  have hfirst : Runs {} tidyKey mend.spec ⟨unmended, [], [], none, [], []⟩ _ :=
    runs_advance 11 rfl rfl hu unmended []
  have hr := hfirst.trans (runs_on 5 rfl rfl hu w _)
  have hnext : ((fresh {} tidyKey).forward 5 w).2.next?.map Effect.isSidecar = some true := by
    decide +kernel
  obtain ⟨e, he, hsidecar⟩ := Option.map_eq_some_iff.mp hnext
  obtain ⟨next, hrest⟩ := Underway.exists_perform he
  have hfailed : (((fresh {} tidyKey).forward 5 w).1.task? tidyKey).map (fun t =>
      (t.status.getD {}).pods.find? "c-d-rack1-0") = some (some .failed) := by
    decide +kernel
  obtain ⟨t, ht, hpod⟩ := Option.map_eq_some_iff.mp hfailed
  exact ⟨_, _, e, next, hr, congrArg some hrest, hsidecar, t, ht, "c-d-rack1-0", hpod⟩

/-- The second advance set out with the failure, and none of its own calls has failed. -/
theorem failure_passed_over : ∃ config key w t kind s h e next,
    TaskKind.ofSpec t.spec = .ok kind ∧ kind.stopsAtFailure = true ∧ w.task? key = some t ∧
      Runs config key t.spec ⟨w, [], [], none, [], []⟩ s ∧
        s.turn = some ⟨h, .perform e next⟩ ∧ e.isSidecar = true ∧
          (∀ c ∈ h.calls, c.succeeded = true) ∧ SetOutFailed key h := by
  obtain ⟨s, h, e, next, hr, hturn, he, hfailed⟩ := runs_mending
  have hkind : TaskKind.ofSpec mend.spec = .ok (.repair {}) := rfl
  obtain ⟨hcalls, hset, -⟩ := stops_at_failure hkind rfl rfl hr hturn he
  exact ⟨{}, tidyKey, unmended, mend, .repair {}, s, h, e, next, rfl, rfl, rfl, hr, hturn, he,
    hcalls, hset hfailed⟩

/-- **A failure that is passed over.** A sidecar may be contacted while the entry of another
member of the task is FAILED in the store. -/
theorem called_behind_failure : ¬∀ config key w t kind s, TaskKind.ofSpec t.spec = .ok kind →
    kind.stopsAtFailure = true → w.task? key = some t →
      Runs config key t.spec ⟨w, [], [], none, [], []⟩ s →
        ∀ h e next, s.turn = some ⟨h, .perform e next⟩ → e.isSidecar = true →
          ¬∃ t', s.world.task? key = some t' ∧ (t'.status.getD {}).HasFailed := by
  intro hall
  obtain ⟨s, h, e, next, hr, hturn, he, hfailed⟩ := runs_mending
  exact hall {} tidyKey unmended mend (.repair {}) s rfl rfl rfl hr h e next hturn he hfailed

end Advance

end RackOperator
