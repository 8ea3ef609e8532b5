import RackOperator.Proofs.Maps
import RackOperator.Proofs.Names
import RackOperator.Proofs.StoreFrame

/-!
# The journal of the store in memory

What an operation of the store comes to is said by `MemoryStore.Performs`, and what holds of a
single one (`faithful`) is read off its constructors: a refusal changes nothing, and a write changes
the one object it names and enters that in the journal.

The journal leaves out the namespace and most of an object, but it keeps what passes and advances
go by. The `outline` of a store is that part of it: the counts of the StatefulSets, the statuses of
DataCenters and tasks, and which objects there are. Within one namespace, replaying the entries made
over the outline there was before gives the outline there is now (`outline_after`). All this holds
after any sequence of operations (`journaled`).
-/

namespace RackOperator

open SortedMap (find?_insert find?_erase)

/-- Where an object is kept: its kind, and its name within a namespace. -/
inductive Place
  | statefulSet (k : NamespacedName)
  | service (k : NamespacedName)
  | dataCenter (k : NamespacedName)
  | task (k : NamespacedName)
deriving DecidableEq, Repr

namespace StoreCall

/-- The object an operation is about. -/
def place : StoreCall → Place
  | getStatefulSet ns name => .statefulSet ⟨ns, name⟩
  | createStatefulSet ns sts => .statefulSet ⟨ns, sts.metadata.anyName⟩
  | replaceStatefulSet ns sts => .statefulSet ⟨ns, sts.metadata.anyName⟩
  | ensureService ns service => .service ⟨ns, service.metadata.anyName⟩
  | getDataCenter ns name => .dataCenter ⟨ns, name⟩
  | replaceDataCenterStatus ns name _ => .dataCenter ⟨ns, name⟩
  | getTask ns name => .task ⟨ns, name⟩
  | createTask ns task => .task ⟨ns, task.metadata.anyName⟩
  | deleteTask ns name => .task ⟨ns, name⟩
  | replaceTaskStatus ns name _ => .task ⟨ns, name⟩

/-- A task that is created has no status yet. -/
def CreatesBlank (c : StoreCall) : Prop := ∀ ns task, c = .createTask ns task → task.status = none

end StoreCall

namespace Mutation

/-- The object an entry is about. -/
def place (ns : String) : Mutation → Place
  | createStatefulSet name _ => .statefulSet ⟨ns, name⟩
  | replaceStatefulSet name _ => .statefulSet ⟨ns, name⟩
  | createService name => .service ⟨ns, name⟩
  | dataCenterStatus name _ => .dataCenter ⟨ns, name⟩
  | createTask name => .task ⟨ns, name⟩
  | deleteTask name => .task ⟨ns, name⟩
  | taskStatus name _ => .task ⟨ns, name⟩

/-- What an entry says of its object is so in a store. -/
def Tells (ns : String) (s : MemoryStore) : Mutation → Prop
  | createStatefulSet name n => (s.statefulSets.find? ⟨ns, name⟩).map (·.replicas) = some n
  | replaceStatefulSet name n => (s.statefulSets.find? ⟨ns, name⟩).map (·.replicas) = some n
  | createService name => s.services.contains ⟨ns, name⟩ = true
  | dataCenterStatus name status =>
    (s.dataCenters.find? ⟨ns, name⟩).map (·.status) = some (some status)
  | createTask name => s.tasks.contains ⟨ns, name⟩ = true
  | deleteTask name => s.tasks.contains ⟨ns, name⟩ = false
  | taskStatus name status => (s.tasks.find? ⟨ns, name⟩).map (·.status) = some (some status)

end Mutation

namespace MemoryStore

/-- A store keeps the same at a place as another one. -/
def SameAt (s s' : MemoryStore) : Place → Prop
  | .statefulSet k => s'.statefulSets.find? k = s.statefulSets.find? k
  | .service k => s'.services.find? k = s.services.find? k
  | .dataCenter k => s'.dataCenters.find? k = s.dataCenters.find? k
  | .task k => s'.tasks.find? k = s.tasks.find? k

/-! ## One operation -/

variable {s s' : MemoryStore} {c : StoreCall} {r : Except OperatorError c.Value}

/-- An operation that fails changes nothing but the count of those still to be refused. -/
theorem Performs.refused_of_error {e : OperatorError} (h : Performs s c r s') (hr : r = .error e) :
    ∃ n ≤ s.refusedStatusWrites, s' = { s with refusedStatusWrites := n } := by
  cases h with
  | refused c e n hn => exact ⟨n, hn, rfl⟩
  | _ => cases hr

/-- An operation leaves every other object alone: those of other kinds, as it writes to one map at
most, and those of its own kind under other names, as it writes there under one key. -/
theorem Performs.sameAt (h : Performs s c r s') {p : Place} (hp : p ≠ c.place) : s.SameAt s' p := by
  have hother : ∀ {α : Type} (m : SortedMap NamespacedName α) (k k' : NamespacedName) (a : α),
      k' ≠ k → (m.insert k a).find? k' = m.find? k' := by
    intro α m k k' a hne
    rw [find?_insert, if_neg hne.symm]
  -- Each case writes one map under one key; the place asked about is in another map, or under
  -- another key.
  cases h with
  | refused c e n hn => cases p <;> rfl
  | idle c v hv => cases p <;> rfl
  | created ns sts h | recreated ns sts old h | replaced ns sts old h =>
    cases p with
    | statefulSet k => exact hother _ _ _ _ fun he => hp (congrArg Place.statefulSet he)
    | _ => rfl
  | service ns service =>
    cases p with
    | service k => exact hother _ _ _ _ fun he => hp (congrArg Place.service he)
    | _ => rfl
  | dataCenterStatus ns name status dc h =>
    cases p with
    | dataCenter k => exact hother _ _ _ _ fun he => hp (congrArg Place.dataCenter he)
    | _ => rfl
  | taskCreated ns task =>
    cases p with
    | task k => exact hother _ _ _ _ fun he => hp (congrArg Place.task he)
    | _ => rfl
  | taskDeleted ns name =>
    cases p with
    | task k =>
      have hne : k ≠ ⟨ns, name⟩ := fun he => hp (congrArg Place.task he)
      exact (find?_erase _ _ _).trans (if_neg hne)
    | _ => rfl
  | taskStatus ns name status task h =>
    cases p with
    | task k => exact hother _ _ _ _ fun he => hp (congrArg Place.task he)
    | _ => rfl

/-- An operation changes nothing, or it enters what it has done to its object in the journal. -/
theorem Performs.entry (h : Performs s c r s') :
    (s'.journal = s.journal ∧ ∀ p, s.SameAt s' p) ∨
      ∃ m : Mutation, s'.journal = s.journal ++ [m] ∧ m.place c.ns = c.place ∧ m.Tells c.ns s' := by
  have hfound : ∀ {α : Type} (m : SortedMap NamespacedName α) (k : NamespacedName) (a : α),
      (m.insert k a).find? k = some a := by
    intro α m k a
    rw [find?_insert, if_pos rfl]
  cases h with
  | refused c e n hn => exact .inl ⟨rfl, fun p => by cases p <;> rfl⟩
  | idle c v hv => exact .inl ⟨rfl, fun p => by cases p <;> rfl⟩
  | created ns sts h | recreated ns sts old h | replaced ns sts old h =>
    exact .inr ⟨_, rfl, rfl, congrArg (Option.map StatefulSet.replicas) (hfound _ _ _)⟩
  | service ns service => exact .inr ⟨_, rfl, rfl, congrArg Option.isSome (hfound _ _ _)⟩
  | dataCenterStatus ns name status dc h =>
    exact .inr ⟨_, rfl, rfl, congrArg (Option.map DataCenter.status) (hfound _ _ _)⟩
  | taskCreated ns task => exact .inr ⟨_, rfl, rfl, congrArg Option.isSome (hfound _ _ _)⟩
  | taskDeleted ns name =>
    exact .inr ⟨_, rfl, rfl, congrArg Option.isSome ((find?_erase _ _ _).trans (if_pos rfl))⟩
  | taskStatus ns name status task h =>
    exact .inr ⟨_, rfl, rfl, congrArg (Option.map CassandraTask.status) (hfound _ _ _)⟩

/-- A StatefulSet that was there is there still, with its status. -/
theorem Performs.statefulSet_status (h : Performs s c r s') {k : NamespacedName} {old : StatefulSet}
    (hold : s.statefulSets.find? k = some old) :
    ∃ new, s'.statefulSets.find? k = some new ∧ new.status = old.status := by
  have hwrite : ∀ ns (sts : StatefulSet) entry,
      ∃ new, (s.withStatefulSet ns sts entry).statefulSets.find? k = some new ∧
        new.status = old.status := by
    intro ns sts entry
    by_cases hk : ⟨ns, sts.metadata.anyName⟩ = k
    · subst hk
      exact ⟨s.keeping ns sts, (find?_insert _ _ _ _).trans (if_pos rfl), status_keeping hold⟩
    · exact ⟨old, ((find?_insert _ _ _ _).trans (if_neg hk)).trans hold, rfl⟩
  cases h with
  | created ns sts h | recreated ns sts old h | replaced ns sts old h => exact hwrite ns sts _
  | _ => exact ⟨old, hold, rfl⟩

/-- A version that is handed out is the next one, and the last one from then on. -/
theorem Performs.lastVersion (h : Performs s c r s') :
    (s'.lastVersion = s.lastVersion ∧ ∀ v, r = .ok v → c.version? v = none) ∨
      s'.lastVersion = s.lastVersion + 1 ∧
        ∃ v, r = .ok v ∧ c.version? v = some (Text.Decimal.natText (s.lastVersion + 1)) := by
  cases h with
  | refused c e n hn => exact .inl ⟨rfl, fun v hv => by cases hv⟩
  | idle c v hv =>
    refine .inl ⟨rfl, fun v' hv' => ?_⟩
    cases hv'
    exact hv
  | created ns sts h | recreated ns sts old h | replaced ns sts old h =>
    exact .inr ⟨rfl, _, rfl, rfl⟩
  | taskCreated ns task => exact .inr ⟨rfl, _, rfl, rfl⟩
  | _ => exact .inl ⟨rfl, fun v hv => by cases hv; rfl⟩

/-- What a store does to what it keeps, whatever it is asked next. -/
structure Faithful (s : MemoryStore) : Prop where
  refused : ∀ c e, (s.perform c).1 = .error e →
    ∃ n ≤ s.refusedStatusWrites, (s.perform c).2 = { s with refusedStatusWrites := n }
  elsewhere : ∀ c p, p ≠ c.place → s.SameAt (s.perform c).2 p
  entry : ∀ c, ((s.perform c).2.journal = s.journal ∧ ∀ p, s.SameAt (s.perform c).2 p) ∨
    ∃ m : Mutation, (s.perform c).2.journal = s.journal ++ [m] ∧ m.place c.ns = c.place ∧
      m.Tells c.ns (s.perform c).2
  statefulSet_status : ∀ c k old, s.statefulSets.find? k = some old →
    ∃ new, (s.perform c).2.statefulSets.find? k = some new ∧ new.status = old.status
  task_status : ∀ ns task k old, s.tasks.find? k = some old →
    ∃ new, (s.perform (.createTask ns task)).2.tasks.find? k = some new ∧ new.status = old.status
  dataCenter_write : ∀ ns name status u,
    (s.perform (.replaceDataCenterStatus ns name status)).1 = (.ok u : Except _ Unit) →
      ∃ dc, s.dataCenters.find? ⟨ns, name⟩ = some dc ∧
        (s.perform (.replaceDataCenterStatus ns name status)).2.dataCenters.find? ⟨ns, name⟩ =
          some { dc with status := some status }
  task_write : ∀ ns name status u,
    (s.perform (.replaceTaskStatus ns name status)).1 = (.ok u : Except _ Unit) →
      ∃ task, s.tasks.find? ⟨ns, name⟩ = some task ∧
        (s.perform (.replaceTaskStatus ns name status)).2.tasks.find? ⟨ns, name⟩ =
          some { task with status := some status }

/-- Every store does it that way, whatever is in it and whatever is asked. What an operation comes
to has been said, so this only collects what was read off its cases. -/
theorem faithful (s : MemoryStore) : s.Faithful where
  refused c e he := (s.perform_spec c).refused_of_error he
  elsewhere c p hp := (s.perform_spec c).sameAt hp
  entry c := (s.perform_spec c).entry
  statefulSet_status c k old hold := (s.perform_spec c).statefulSet_status hold
  task_status ns task k old hold := s.status_createTask ns task hold
  dataCenter_write ns name status u hok := by
    cases hdc : s.dataCenters.find? ⟨ns, name⟩ with
    | some dc => exact ⟨dc, rfl, find?_of_acknowledged hdc hok⟩
    | none =>
      -- A status for a DataCenter that is not there would not have been acknowledged.
      have hr := refused_of_acknowledged hok
      unfold perform at hok
      dsimp only at hok
      rw [if_neg (by omega), hdc] at hok
      cases hok
  task_write ns name status u hok := by
    cases ht : s.tasks.find? ⟨ns, name⟩ with
    | some task =>
      refine ⟨task, rfl, ?_⟩
      rw [find?_replaceTaskStatus, if_pos rfl, ht]
      rfl
    | none =>
      unfold perform at hok
      dsimp only at hok
      rw [ht] at hok
      cases hok

/-! ## Sequences of operations -/

/-- The store after operations. -/
def after (s : MemoryStore) (calls : List StoreCall) : MemoryStore :=
  calls.foldl (fun s c => (s.perform c).2) s

/-- The resource version that an operation hands out. -/
def version? (s : MemoryStore) (c : StoreCall) : Option String :=
  (s.perform c).1.toOption.bind c.version?

/-- The resource versions that operations hand out, in order. -/
def versions (s : MemoryStore) : List StoreCall → List String
  | [] => []
  | c :: rest => (s.version? c).toList ++ (s.perform c).2.versions rest

/-- Versions handed out are the numbers of a counter that only goes up. So the version a caller is
given is above all versions that were given before it. -/
theorem versions_increase (s : MemoryStore) (calls : List StoreCall) :
    ∃ numbers : List Nat, s.versions calls = numbers.map Text.Decimal.natText ∧
      (s.lastVersion :: numbers).Pairwise (· < ·) := by
  -- On the calls. Each hands out the number after the last one, or none, and the rest begins from
  -- there.
  induction calls generalizing s with
  | nil => exact ⟨[], rfl, List.pairwise_singleton _ _⟩
  | cons c rest ih =>
    obtain ⟨numbers, hnumbers, hincrease⟩ := ih (s.perform c).2
    unfold versions version?
    rcases (s.perform_spec c).lastVersion with ⟨hlast, hnone⟩ | ⟨hlast, v, hv, hversion⟩
    · rw [hlast] at hincrease
      refine ⟨numbers, ?_, hincrease⟩
      have hno : (s.perform c).1.toOption.bind c.version? = none := by
        cases hr : (s.perform c).1 with
        | error e => rfl
        | ok v => exact hnone v hr
      rw [hno, hnumbers]
      rfl
    · rw [hlast] at hincrease
      refine ⟨(s.lastVersion + 1) :: numbers, ?_, ?_⟩
      · have hthis : (s.perform c).1.toOption.bind c.version? =
            some (Text.Decimal.natText (s.lastVersion + 1)) := by
          rw [hv]
          exact hversion
        rw [hthis, hnumbers]
        rfl
      · refine List.pairwise_cons.mpr ⟨?_, hincrease⟩
        intro n hn
        rcases List.mem_cons.mp hn with rfl | hn
        · omega
        · have hlt := (List.pairwise_cons.mp hincrease).1 n hn
          omega

end MemoryStore

/-! ## Replaying the journal -/

/-- What the journal tells of a store: counts, statuses, and which objects there are. -/
structure Outline where
  replicas : SortedMap NamespacedName Int
  services : SortedMap NamespacedName Unit
  dataCenters : SortedMap NamespacedName (Option DataCenterStatus)
  tasks : SortedMap NamespacedName (Option TaskStatus)

namespace Outline

/-- The outline once an entry of a namespace is replayed. -/
def replay (ns : String) (o : Outline) : Mutation → Outline
  | .createStatefulSet name n => { o with replicas := o.replicas.insert ⟨ns, name⟩ n }
  | .replaceStatefulSet name n => { o with replicas := o.replicas.insert ⟨ns, name⟩ n }
  | .createService name => { o with services := o.services.insert ⟨ns, name⟩ () }
  | .dataCenterStatus name status =>
    { o with dataCenters := o.dataCenters.insert ⟨ns, name⟩ (some status) }
  | .createTask name =>
    -- a task that is there keeps its status
    if o.tasks.contains ⟨ns, name⟩ then o
    else { o with tasks := o.tasks.insert ⟨ns, name⟩ none }
  | .deleteTask name => { o with tasks := o.tasks.erase ⟨ns, name⟩ }
  | .taskStatus name status => { o with tasks := o.tasks.insert ⟨ns, name⟩ (some status) }

end Outline

namespace MemoryStore

/-- The outline of a store. -/
def outline (s : MemoryStore) : Outline where
  replicas := s.statefulSets.map (·.replicas)
  services := s.services.map fun _ => ()
  dataCenters := s.dataCenters.map (·.status)
  tasks := s.tasks.map (·.status)

variable {s : MemoryStore} {ns : String}

/-- A task that is created without a status takes the one that is stored, or has none. -/
theorem statuses_createTask (s : MemoryStore) {task : CassandraTask} (ht : task.status = none) :
    (s.tasks.insert ⟨ns, task.metadata.anyName⟩ (s.keepingTask ns task)).map (·.status) =
      if (s.tasks.map (·.status)).contains ⟨ns, task.metadata.anyName⟩ then s.tasks.map (·.status)
      else (s.tasks.map (·.status)).insert ⟨ns, task.metadata.anyName⟩ none := by
  have hfind := SortedMap.find?_map s.tasks (·.status) ⟨ns, task.metadata.anyName⟩
  rw [SortedMap.map_insert]
  unfold SortedMap.contains keepingTask
  cases h : s.tasks.find? ⟨ns, task.metadata.anyName⟩ with
  | none =>
    rw [h] at hfind
    simp [hfind, ht]
  | some old =>
    rw [h] at hfind
    simp [hfind, SortedMap.insert_same hfind]

/-- One operation changes the outline as its entry says. A refusal and an operation that finds
nothing to do make no entry, and leave the outline as well. -/
theorem outline_perform (s : MemoryStore) {c : StoreCall} (hns : c.ns = ns) (hc : c.CreatesBlank) :
    ∃ entries, (s.perform c).2.journal = s.journal ++ entries ∧
      (s.perform c).2.outline = entries.foldl (Outline.replay ns) s.outline := by
  have hspec := s.perform_spec c
  generalize (s.perform c).1 = r at hspec
  generalize (s.perform c).2 = s' at hspec ⊢
  subst hns
  cases hspec with
  | refused c e n hn => exact ⟨[], (List.append_nil _).symm, rfl⟩
  | idle c v hv => exact ⟨[], (List.append_nil _).symm, rfl⟩
  -- The outline holds no spec, so a task created blank is told by its name alone.
  | taskCreated ns task =>
    refine ⟨_, rfl, ?_⟩
    simp only [outline, List.foldl_cons, List.foldl_nil, Outline.replay, StoreCall.ns,
      s.statuses_createTask (hc ns task rfl)]
    split <;> rfl
  | taskDeleted ns name =>
    refine ⟨_, rfl, ?_⟩
    simp only [outline, List.foldl_cons, List.foldl_nil, Outline.replay, SortedMap.map_erase]
    rfl
  | _ =>
    refine ⟨_, rfl, ?_⟩
    simp only [outline, withStatefulSet, List.foldl_cons, List.foldl_nil, Outline.replay,
      SortedMap.map_insert]
    rfl

/-- Operations of one namespace change the outline as their entries say. -/
theorem outline_after (s : MemoryStore) {calls : List StoreCall} (hns : ∀ c ∈ calls, c.ns = ns)
    (hc : ∀ c ∈ calls, c.CreatesBlank) :
    ∃ entries, (s.after calls).journal = s.journal ++ entries ∧
      (s.after calls).outline = entries.foldl (Outline.replay ns) s.outline := by
  induction calls generalizing s with
  | nil => exact ⟨[], (List.append_nil _).symm, rfl⟩
  | cons c rest ih =>
    rw [List.forall_mem_cons] at hns hc
    obtain ⟨first, hfirst, hone⟩ := s.outline_perform hns.1 hc.1
    obtain ⟨more, hmore, hall⟩ := ih (s.perform c).2 hns.2 hc.2
    refine ⟨first ++ more, ?_, ?_⟩
    · rw [← List.append_assoc, ← hfirst]
      exact hmore
    · rw [List.foldl_append, ← hone]
      exact hall

/-- **The store keeps a faithful journal.** After any operations, whatever is asked next: if it
fails nothing has changed but the count of writes to be refused; otherwise one object at most has
changed, the one it names, and the journal has grown by an entry that tells of it, or not at all;
statuses outlive the writes of specs, and a write of a status changes nothing else. Resource
versions count up. Where the operations are of one namespace and create no task with a status,
replaying what they have entered in the journal over the outline there was gives the outline there
is. -/
theorem journaled (s : MemoryStore) (calls : List StoreCall) :
    (s.after calls).Faithful ∧
      (∃ numbers : List Nat, s.versions calls = numbers.map Text.Decimal.natText ∧
        (s.lastVersion :: numbers).Pairwise (· < ·)) ∧
      ∀ ns, (∀ c ∈ calls, c.ns = ns) → (∀ c ∈ calls, c.CreatesBlank) →
        ∃ entries, (s.after calls).journal = s.journal ++ entries ∧
          (s.after calls).outline = entries.foldl (Outline.replay ns) s.outline :=
  ⟨(s.after calls).faithful, s.versions_increase calls, fun _ hns hc => s.outline_after hns hc⟩

/-- A task that is to repair a DataCenter. -/
def repairTask : CassandraTask where
  metadata := { name := some "t" }
  spec := { datacenter := "d", repair := some {} }

/-- The task is created, begun, and created again. -/
def recreating : List StoreCall :=
  [.createTask "n" repairTask, .replaceTaskStatus "n" "t" { phase := .running },
    .createTask "n" repairTask]

/-- Behind the second creation the journal still tells that the task was begun. -/
theorem journaled_recreating :
    (∀ c ∈ recreating, c.ns = "n") ∧ (∀ c ∈ recreating, c.CreatesBlank) ∧
      (({} : MemoryStore).after recreating).outline =
        [Mutation.createTask "t", .taskStatus "t" { phase := .running }, .createTask "t"].foldl
          (Outline.replay "n") ({} : MemoryStore).outline := by
  have hns : ∀ c ∈ recreating, c.ns = "n" := by simp [recreating, StoreCall.ns]
  have hblank : ∀ c ∈ recreating, c.CreatesBlank := by
    intro c hc ns task he
    subst he
    simp only [recreating, List.mem_cons, List.not_mem_nil, or_false, StoreCall.createTask.injEq,
      reduceCtorEq, false_or] at hc
    rcases hc with ⟨-, rfl⟩ | ⟨-, rfl⟩ <;> rfl
  obtain ⟨entries, hjournal, houtline⟩ := (journaled {} recreating).2.2 "n" hns hblank
  have hentries : entries =
      [Mutation.createTask "t", .taskStatus "t" { phase := .running }, .createTask "t"] :=
    hjournal.symm.trans rfl
  rw [hentries] at houtline
  exact ⟨hns, hblank, houtline⟩

end MemoryStore

end RackOperator
