import RackOperator.Proofs.Deeds
import RackOperator.Proofs.Task.Calls

/-!
# The trail of an advance

An advance over a store in memory stores the status of its task many times, and two of these writes
are deeds: the one that gives the task its first entries, and the one that ends it. Behind each of
the two, and nowhere else, an event is put on record.

What makes every other write no deed is that the task is under way (`TaskStatus.Going`): it has
entries, before the write and after it, and does not end. So `on_persist_going` covers all writes
around the calls, and `on_walk_told` and `on_sweep_told` have only to show that the status in hand
stays so. A task that has no entries at all, because its first ones were none, calls nobody and ends
at once. `faithful_of_ran` opens the code of an advance once around this.
-/

namespace RackOperator

open Work

/-- The status of a task under way: it has entries, and has not ended. -/
structure TaskStatus.Going (st : TaskStatus) : Prop where
  phase : st.phase.isTerminal = false
  pods : st.pods.isEmpty = false

namespace Advance

variable {run : Run} {h : History} {s s₀ : MemoryStore} {st : TaskStatus} {m : Member}
  {ms : List Member} {task : CassandraTask} {key : NamespacedName} {α : Type} {bare : Bool}

/-! ## The status in hand -/

theorem going_begin (hst : st.phase.isTerminal = false) (m : Member) : (begin st m).Going :=
  ⟨hst, SortedMap.isEmpty_insert _ _ _⟩

/-- It goes on when an outcome is recorded, even a failure: the task ends only with its last status.
-/
theorem going_record (hst : st.phase.isTerminal = false) (m : Member)
    (outcome : Except OperatorError Unit) : (record st m outcome).Going := by
  cases outcome with
  | ok u => exact ⟨hst, SortedMap.isEmpty_insert _ _ _⟩
  | error e => exact ⟨hst, SortedMap.isEmpty_insert _ _ _⟩

theorem going_begins (hst : st.Going) (ms : List Member) : (ms.foldl begin st).Going := by
  induction ms generalizing st with
  | nil => exact hst
  | cons m rest ih => exact ih (going_begin hst.phase m)

theorem going_records {β : Type} (hst : st.Going) (outcomes : List (Member × β))
    (f : Member → β → Except OperatorError Unit) :
    (outcomes.foldl (fun st p => record st p.1 (f p.1 p.2)) st).Going := by
  induction outcomes generalizing st with
  | nil => exact hst
  | cons p rest ih => exact ih (going_record hst.phase p.1 _)

/-- Failing the stale entries neither adds an entry nor takes one away. -/
theorem isEmpty_failStale (st : TaskStatus) (ms : List Member) :
    (failStale st ms).pods.isEmpty = st.pods.isEmpty :=
  List.isEmpty_map

/-- Where there are no entries, nobody is to be called. -/
theorem pending_of_isEmpty (ms : List Member) (he : st.pods.isEmpty = true) :
    pending st ms = [] := by
  unfold pending
  rw [SortedMap.eq_empty he]
  exact List.filter_eq_nil_iff.mpr fun m _ => of_decide_eq_false rfl

/-! ## The task in the store -/

/-- The task of an advance is stored, is of its kind and has not ended. -/
structure Opens (run : Run) (task : CassandraTask) (s : MemoryStore) : Prop where
  stored : s.tasks.find? run.key = some task
  kind : TaskKind.ofSpec task.spec = .ok run.kind
  phase : (task.status.getD {}).phase.isTerminal = false

/-- So it is, and it has entries or none, as said. -/
def Stands (run : Run) (bare : Bool) (s : MemoryStore) : Prop :=
  ∃ task, Opens run task s ∧ (task.status.getD {}).pods.isEmpty = bare

theorem Opens.stands (ho : Opens run task s) (hst : st.phase.isTerminal = false) :
    Stands run st.pods.isEmpty (s.perform (.replaceTaskStatus run.key.ns run.key.name st)).2 :=
  ⟨{ task with status := some st }, ⟨find?_persisted ho.stored st, ho.kind, hst⟩, rfl⟩

theorem Opens.kindName (ho : Opens run task s) : task.kindName = run.kind.name := by
  unfold CassandraTask.kindName
  rw [ho.kind]

theorem deeds_storing (ht : s.tasks.find? key = some task) (st : TaskStatus) :
    (storing key st).deeds s = Deed.ofStatus task st := by
  show (s.tasks.find? key).toList.flatMap (Deed.ofStatus · st) = _
  rw [ht]
  exact List.append_nil _

/-! ## What is put on record -/

/-- What an advance has done since it was begun over a store has left the trail it should. -/
abbrev Truthful (run : Run) (s₀ : MemoryStore) : History → MemoryStore → Prop :=
  (Errand.advance run.key).Faithful s₀

/-- What is not asked of the store is no deed of an advance, so it leaves the trail as truthful as
it was. -/
theorem truthful_aside (hf : Truthful run s₀ h s) {e : Effect} (he : ∀ call, e ≠ .store call)
    (hev : ∀ time, e.event? time = none) (r : e.Reply) : Truthful run s₀ (h ++ [⟨e, r⟩]) s := by
  have hidle : Answered.deeds s ⟨e, r⟩ = [] ∧ Answered.after s ⟨e, r⟩ = s := by
    cases e with
    | store call => exact absurd rfl (he call)
    | _ => exact ⟨rfl, rfl⟩
  obtain ⟨hd, hafter⟩ := hidle
  have hone := Errand.Faithful.idle (e := .advance run.key) ⟨hd, hev, fun _ => rfl⟩
  rw [hafter] at hone
  exact hf.append (Errand.apart_advance _ _ _) hone

/-- What is only read is no deed, however the store answers. -/
theorem truthful_read (hf : Truthful run s₀ h s) {call : StoreCall} (hd : call.deeds s = [])
    (hs : (s.perform call).2 = s) (r : Except OperatorError call.Value) :
    Truthful run s₀ (h ++ [⟨.store call, r⟩]) s := by
  have hone : (Errand.advance run.key).Faithful s [⟨.store call, r⟩] (s.perform call).2 :=
    .idle ⟨Answered.deeds_store_eq_nil hd r, fun _ => rfl, fun _ => rfl⟩
  rw [hs] at hone
  exact hf.append (Errand.apart_advance _ _ _) hone

/-- A write that is no deed needs no event. -/
theorem truthful_persisted (hf : Truthful run s₀ h s) (ho : Opens run task s)
    (hd : Deed.ofStatus task st = []) : Truthful run s₀ (h ++ [storing run.key st])
      (s.perform (.replaceTaskStatus run.key.ns run.key.name st)).2 :=
  hf.append (Errand.apart_advance _ _ _)
    (.idle ⟨(deeds_storing ho.stored st).trans hd, fun _ => rfl, fun _ => rfl⟩)

/-- A write that is one is followed by its event, which names the same kind, phase and message. -/
theorem truthful_recorded {d : Deed} {entry : AuditEntry} (hf : Truthful run s₀ h s)
    (ho : Opens run task s) (hd : Deed.ofStatus task st = [d])
    (hentry : ∀ time, entry.event time run.key = d.event time run.key) :
    Truthful run s₀ (h ++ [storing run.key st] ++ [⟨.audit run.key entry, ()⟩])
      (s.perform (.replaceTaskStatus run.key.ns run.key.name st)).2 := by
  rw [List.append_assoc]
  exact hf.append (Errand.apart_advance _ _ _)
    (.told ((deeds_storing ho.stored st).trans hd) rfl (fun _ => rfl) hentry)

/-! ## The calls -/

/-- Where there were entries before and the task goes on, nothing is to be told: neither did the
task begin nor has it ended. -/
theorem ofStatus_eq_nil (hpods : (task.status.getD {}).pods.isEmpty = false)
    (hst : st.phase.isTerminal = false) : Deed.ofStatus task st = [] := by
  have hstart : ¬st.StartsFrom (task.status.getD {}) := fun he =>
    Bool.false_ne_true (hpods.symm.trans he.1)
  have hend : ¬st.EndsFrom (task.status.getD {}) := fun he =>
    Bool.false_ne_true (hst.symm.trans he.2)
  unfold Deed.ofStatus
  rw [if_neg hstart, if_neg hend]
  rfl

/-- A task under way is stored under way, without an event. -/
theorem on_persist_going {Q : History → MemoryStore → Option (Except OperatorError α) → Prop}
    (hf : Truthful run s₀ h s) (hs : Stands run false s) (hst : st.Going) (f : Unit → Work α)
    (hQ : ∀ h s, Truthful run s₀ h s → Stands run false s → (f ()).On Q h s) :
    (persist run.key st >>= f).On Q h s := by
  obtain ⟨task, ho, hpods⟩ := hs
  have hstands := ho.stands hst.phase
  rw [hst.pods] at hstands
  exact (on_persist ho.stored st f).mpr
    (hQ _ _ (truthful_persisted hf ho (ofStatus_eq_nil hpods hst.phase)) hstands)

/-- To call a member is no deed, whatever the sidecar answers. -/
theorem on_step_told (m : Member) (hf : Truthful run s₀ h s)
    {Q : History → MemoryStore → Option (Except OperatorError Unit) → Prop}
    (hQ : ∀ h outcome, Truthful run s₀ h s → Q h s (some outcome)) : (step run m).On Q h s := by
  refine (Program.on_bind _ _ _ _).mpr fun reply s' hs => ?_
  cases hs
  have hconnected := truthful_aside hf (e := .connect m) (by simp) (fun _ => rfl) reply
  cases reply with
  | error e => exact hQ _ _ hconnected
  | ok u =>
    let request := run.kind.request run.key.name run.datacenter m
    refine (Program.on_bind _ _ _ _).mpr ?_
    intro (reply : Except OperatorError request.Reply) s' hs
    cases hs
    have hasked :=
      truthful_aside hconnected (e := .request m request) (by simp) (fun _ => rfl) reply
    cases reply with
    | error e => exact hQ _ _ hasked
    | ok r => exact hQ _ _ hasked

/-- A walk stores only statuses of a task under way, so nothing is to be told of it. The entries of
pods may fail and succeed meanwhile, but these are not what the trail is about. -/
theorem on_walk_told (pacing : Nat) (failFast paused : Bool) (ms : List Member)
    (hf : Truthful run s₀ h s) (hs : Stands run st.pods.isEmpty s)
    (hst : st.phase.isTerminal = false) (hms : st.pods.isEmpty = true → ms = [])
    {Q : History → MemoryStore → Option (Except OperatorError TaskStatus) → Prop}
    (hQ : ∀ h s st, Truthful run s₀ h s → Stands run st.pods.isEmpty s →
      Q h s (some (.ok st))) :
    (walk run pacing failFast paused st ms).On Q h s := by
  -- On the members left. A task that has no entries has no members to call, so it never begins
  -- here.
  induction ms generalizing paused st h s with
  | nil => exact hQ h s st hf hs
  | cons m rest ih =>
    have hpods : st.pods.isEmpty = false := Bool.eq_false_iff.mpr fun he => nomatch hms he
    rw [hpods] at hs
    have hvisit : ∀ {h}, Truthful run s₀ h s →
        (visit run pacing failFast st m rest).On Q h s := by
      intro h hf
      refine on_persist_going hf hs (going_begin hst m) _ fun h s hf hs => ?_
      refine (on_ofProgram_bind _ _).mpr (on_step_told m hf fun h outcome hf => ?_)
      have hrec := going_record (going_begin hst m).phase m outcome
      refine on_persist_going hf hs hrec _ fun h s hf hs => ?_
      rw [← hrec.pods] at hs
      have hgo := ih true hf hs hrec.phase fun he => nomatch hrec.pods.symm.trans he
      cases outcome with
      | ok u => exact hgo
      | error e =>
        show On _ _ _ (if failFast then _ else _)
        split
        next => exact hQ _ _ _ hf hs
        next => exact hgo
    rw [walk_cons]
    split
    next =>
      exact (on_effect_bind (by simp) _).mpr fun u =>
        hvisit (truthful_aside hf (by simp) (fun _ => rfl) u)
    next => exact hvisit hf

/-- Neither is anything to be told of a sweep. -/
theorem on_sweep_told (ms : List Member) (hf : Truthful run s₀ h s)
    (hs : Stands run st.pods.isEmpty s) (hst : st.phase.isTerminal = false)
    (hms : st.pods.isEmpty = true → ms = [])
    {Q : History → MemoryStore → Option (Except OperatorError TaskStatus) → Prop}
    (hQ : ∀ h s st, Truthful run s₀ h s → Stands run st.pods.isEmpty s →
      Q h s (some (.ok st))) :
    (sweep run st ms).On Q h s := by
  cases ms with
  | nil => exact hQ h s st hf hs
  | cons m rest =>
    -- A member is waiting, so the task has entries and is no longer to be started.
    have hpods : st.pods.isEmpty = false := Bool.eq_false_iff.mpr fun he => nomatch hms he
    rw [hpods] at hs
    have hbegun := going_begins ⟨hst, hpods⟩ (m :: rest)
    refine on_persist_going hf hs hbegun _ fun h s hf hs => ?_
    let request := run.kind.request run.key.name run.datacenter m
    refine (on_effect_bind (by simp) _).mpr ?_
    intro (replies : List (Except OperatorError request.Reply))
    have hasked := truthful_aside hf (e := .requestAll (m :: rest) request) (by simp)
      (fun _ => rfl) replies
    have hentered := going_records hbegun ((m :: rest).zip replies) (judged request)
    refine on_persist_going hasked hs hentered _ fun h s hf hs => ?_
    rw [← hentered.pods] at hs
    exact hQ _ _ _ hf hs

/-! ## The beginning and the end -/

theorem event_taskFinished (kind : String) (phase : TaskPhase) (message : Option String)
    (time : String) (about : NamespacedName) :
    (AuditEntry.taskFinished kind phase.name message).event time about =
      (Deed.finished kind phase message).event time about := by
  cases phase <;> rfl

/-- A status that ends a task is told of, with its phase and message, and at once. -/
theorem on_finish_told (hf : Truthful run s₀ h s) (ho : Opens run task s)
    (hst : st.phase.isTerminal = true) :
    (finish run st).On (fun h s _ => Truthful run s₀ h s) h s := by
  have hstart : ¬st.StartsFrom (task.status.getD {}) := by
    rintro ⟨-, -, he⟩
    rw [he] at hst
    cases hst
  have hdeeds : Deed.ofStatus task st = [.finished run.kind.name st.phase st.lastMessage] := by
    unfold Deed.ofStatus
    rw [if_neg hstart, if_pos ⟨ho.phase, hst⟩, ho.kindName]
    rfl
  refine (on_persist ho.stored st _).mpr ((on_audit_bind _ _ _).mpr ((on_pure _).mpr ?_))
  exact truthful_recorded hf ho hdeeds fun time => event_taskFinished _ _ _ time run.key

/-- The first entries are told of, however many they are. An advance that finds entries tells
nothing, as the one that made them has told of it. -/
theorem on_start_told (ms : List Member) (statuses : StatusSnapshot) (hf : Truthful run s₀ h s)
    (ho : Opens run task s)
    {Q : History → MemoryStore → Option (Except OperatorError TaskStatus) → Prop}
    (hQ : ∀ h s st, Truthful run s₀ h s → Stands run st.pods.isEmpty s →
      st.phase.isTerminal = false → Q h s (some (.ok st))) :
    (start run ms statuses (task.status.getD {})).On Q h s := by
  unfold start
  split
  next hempty =>
    refine (on_timestamp_bind _).mpr fun t => (on_persist ho.stored _ _).mpr ?_
    refine (on_audit_bind _ _ _).mpr ((on_pure _).mpr (hQ _ _ _ ?_ (ho.stands rfl) rfl))
    refine truthful_recorded (truthful_aside hf (by simp) (fun _ => rfl) _) ho
      (d := .started run.kind.name (SortedMap.ofList
        ((run.kind.select ms statuses).map fun m => (m.name, TaskPhase.waiting))).size) ?_
      fun _ => rfl
    unfold Deed.ofStatus
    rw [if_pos ⟨hempty, rfl, rfl⟩, if_neg (fun he => Bool.false_ne_true he.2), ho.kindName]
    rfl
  next => exact hQ h s _ hf ⟨task, ho, rfl⟩ ho.phase

/-- An advance ends its task, and tells of that, or leaves it under way and tells nothing. -/
theorem on_conclude_told (hf : Truthful run s₀ h s) (hs : Stands run st.pods.isEmpty s) :
    (conclude run st).On (fun h s _ => Truthful run s₀ h s) h s := by
  unfold conclude
  dsimp only
  split
  next hend =>
    obtain ⟨task, ho, -⟩ := hs
    exact (on_timestamp_bind _).mpr fun t =>
      on_finish_told (truthful_aside hf (by simp) (fun _ => rfl) _) ho hend
  next hopen =>
    -- a task without entries would have succeeded
    have hpods : st.pods.isEmpty = false := by
      refine Bool.eq_false_iff.mpr fun he => hopen ?_
      rw [SortedMap.eq_empty he]
      rfl
    have hgoing : TaskStatus.Going { st with phase := aggregate st.pods } :=
      ⟨Bool.eq_false_iff.mpr hopen, hpods⟩
    rw [hpods] at hs
    exact on_persist_going hf hs hgoing _ fun h s hf _ => (on_pure _).mpr hf

/-! ## The whole advance -/

theorem on_members_told (ns : String) (naming : Naming) (racks : List Rack)
    (hf : Truthful run s₀ h s)
    {Q : History → MemoryStore → Option (Except OperatorError (List Member)) → Prop}
    (hQ : ∀ h ms, Truthful run s₀ h s → Q h s (some (.ok ms))) :
    (members ns naming racks).On Q h s := by
  induction racks generalizing h Q with
  | nil => exact hQ h [] hf
  | cons r rest ih =>
    refine (on_store_ok (.getStatefulSet ns (naming.statefulSetName r)) rfl _).mpr
      ((on_bind _ _).mpr (ih (truthful_read hf rfl rfl _) fun h others hf => ?_))
    cases s.statefulSets.find? ⟨ns, naming.statefulSetName r⟩ with
    | none => exact hQ h _ hf
    | some sts => exact hQ h _ hf

/-- From the DataCenter on, each deed of the advance has its event. -/
theorem on_proceed_told (dc : DataCenter) (hf : Truthful run s₀ h s) (ho : Opens run task s) :
    (proceed run dc (task.status.getD {})).On (fun h s _ => Truthful run s₀ h s) h s := by
  refine (on_bind _ _).mpr (on_members_told _ _ _ hf fun h ms hf => ?_)
  refine (on_snapshot_bind _ _).mpr fun statuses => (on_bind _ _).mpr ?_
  refine on_start_told ms statuses (truthful_aside hf (by simp) (fun _ => rfl) _) ho
    fun h s st hf hs hst => ?_
  have hms : (failStale st ms).pods.isEmpty = true → pending (failStale st ms) ms = [] :=
    pending_of_isEmpty ms
  rw [← isEmpty_failStale st ms] at hs
  unfold Next
  dsimp only
  cases run.kind.execution run.config with
  | sequential pacing failFast =>
    exact (on_bind _ _).mpr (on_walk_told pacing failFast false _ hf hs hst hms
      fun h s st hf hs => on_conclude_told hf hs)
  | parallel =>
    exact (on_bind _ _).mpr (on_sweep_told _ hf hs hst hms
      fun h s st hf hs => on_conclude_told hf hs)

/-- To say of a task that its target is missing is no deed, as it neither begins nor ends the task.
-/
theorem on_message_told {message : String} (hf : Truthful run s₀ h s) (ho : Opens run task s)
    (hnew : (task.status.getD {}).lastMessage ≠ some message) (f : Unit → Work α)
    {Q : History → MemoryStore → Option (Except OperatorError α) → Prop}
    (hQ : ∀ h s, Truthful run s₀ h s → (f ()).On Q h s) :
    (persist run.key { task.status.getD {} with lastMessage := some message } >>= f).On Q h s := by
  refine (on_persist ho.stored _ f).mpr (hQ _ _ (truthful_persisted hf ho ?_))
  unfold Deed.ofStatus
  rw [if_neg fun he => hnew (congrArg TaskStatus.lastMessage he.2.2).symm,
    if_neg fun he => Bool.false_ne_true (ho.phase.symm.trans he.2)]
  rfl

/-- However an advance goes, its trail is that of its deeds. The deeds are read off the store's
calls, the trail off the entries. -/
theorem faithful_of_ran {config : Config} {o : Option (Except OperatorError Action)}
    {s' : MemoryStore} (hr : Program.Ran (Advance.run config key).run s h o s') :
    (Errand.advance key).Faithful s h s' := by
  suffices hon : (Advance.run config key).On
      (fun h s' _ => (Errand.advance key).Faithful s h s') [] s from hr.on [] hon
  have hread (found : Option CassandraTask) :
      (Errand.advance key).Faithful s [reading key found] s :=
    .idle ⟨rfl, fun _ => rfl, fun _ => rfl⟩
  -- The code's own cases: no task, one that has ended or is of no kind, one whose target is missing
  -- or at fault, and one that proceeds.
  cases ht : s.tasks.find? key with
  | none =>
    exact (on_store_ok (.getTask key.ns key.name) (v := none) (congrArg Except.ok ht) _).mpr
      (hread none)
  | some task =>
    refine (on_store_ok (.getTask key.ns key.name) (v := some task)
      (congrArg Except.ok ht) _).mpr ?_
    show On _ _ _ (if (task.status.getD {}).phase.isTerminal = true then _ else _)
    split
    next => exact hread (some task)
    next hended =>
      cases hkind : TaskKind.ofSpec task.spec with
      | error reason => exact hread (some task)
      | ok kind =>
        let run : Run := { config, key, kind, datacenter := task.spec.datacenter }
        have ho : Opens run task s := ⟨ht, hkind, Bool.eq_false_iff.mpr hended⟩
        have hfound (found : Option DataCenter) : Truthful run s ([reading key (some task)] ++
            [⟨.store (.getDataCenter key.ns task.spec.datacenter),
              (.ok found : Except OperatorError (Option DataCenter))⟩]) s :=
          truthful_read (hread (some task)) rfl rfl _
        cases hdc : s.dataCenters.find? ⟨key.ns, task.spec.datacenter⟩ with
        | none =>
          refine (on_store_ok (.getDataCenter key.ns task.spec.datacenter) (v := none)
            (congrArg Except.ok hdc) _).mpr ?_
          dsimp only
          split
          next hnew => exact on_message_told (hfound none) ho hnew _ fun h s hf => hf
          next => exact hfound none
        | some dc =>
          refine (on_store_ok (.getDataCenter key.ns task.spec.datacenter) (v := some dc)
            (congrArg Except.ok hdc) _).mpr ?_
          dsimp only
          split
          next reason hfault =>
            exact (on_timestamp_bind _).mpr fun t =>
              on_finish_told (truthful_aside (hfound (some dc)) (by simp) (fun _ => rfl) _) ho rfl
          next => exact on_proceed_told dc (hfound (some dc)) ho

end Advance

end RackOperator
