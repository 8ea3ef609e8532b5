import RackOperator.Store.Memory

/-!
# What one store call changes

`Performs s c r s'` says all that an operation can come to: it is refused, it
finds nothing to do, or it writes the one object it names and enters the write in
the journal. `perform_spec` is where the operations are opened for this; that most
of them leave most of the store alone (`statefulSets_perform`, `tasks_perform`) is
read off the constructors.

The other equations say what a call puts in the place of what was there. A
StatefulSet that existed keeps its stored status (`MemoryStore.keeping`), and so
does a task (`status_createTask`): this is what lets a status outlive the writes
of a pass.
-/

namespace RackOperator

open SortedMap (find?_insert find?_erase)

namespace StoreCall

/-- The namespace a store call is about. -/
def ns : StoreCall → String
  | getStatefulSet ns _ => ns
  | createStatefulSet ns _ => ns
  | replaceStatefulSet ns _ => ns
  | ensureService ns _ => ns
  | getDataCenter ns _ => ns
  | replaceDataCenterStatus ns _ _ => ns
  | getTask ns _ => ns
  | createTask ns _ => ns
  | deleteTask ns _ => ns
  | replaceTaskStatus ns _ _ => ns

/-- The StatefulSet a call writes. -/
def statefulSet? : StoreCall → Option (NamespacedName × StatefulSet)
  | createStatefulSet ns sts => some (⟨ns, sts.metadata.anyName⟩, sts)
  | replaceStatefulSet ns sts => some (⟨ns, sts.metadata.anyName⟩, sts)
  | _ => none

/-- The task a call writes or deletes. -/
def task? : StoreCall → Option NamespacedName
  | createTask ns task => some ⟨ns, task.metadata.anyName⟩
  | deleteTask ns name => some ⟨ns, name⟩
  | replaceTaskStatus ns name _ => some ⟨ns, name⟩
  | _ => none

/-- The resource version that the answer to a write hands out. -/
def version? : (c : StoreCall) → c.Value → Option String
  | createStatefulSet .., (sts : StatefulSet) => sts.metadata.resourceVersion
  | replaceStatefulSet .., (sts : StatefulSet) => sts.metadata.resourceVersion
  | createTask .., (task : CassandraTask) => task.metadata.resourceVersion
  | _, _ => none

end StoreCall

namespace MemoryStore

/-- A StatefulSet as a write stores it: stamped, and with the status stored before. -/
def keeping (s : MemoryStore) (ns : String) (sts : StatefulSet) : StatefulSet :=
  { sts with
    metadata := s.stamped ns sts.metadata
    status := match s.statefulSets.find? ⟨ns, sts.metadata.anyName⟩ with
      | some existing => existing.status
      | none => sts.status }

@[simp] theorem replicas_keeping (s : MemoryStore) (ns : String) (sts : StatefulSet) :
    (s.keeping ns sts).replicas = sts.replicas := rfl

theorem keeping_eq {s : MemoryStore} {ns : String} {sts existing : StatefulSet}
    (h : s.statefulSets.find? ⟨ns, sts.metadata.anyName⟩ = some existing) :
    s.keeping ns sts =
      { sts with metadata := s.stamped ns sts.metadata, status := existing.status } := by
  unfold keeping
  rw [h]

/-- A StatefulSet that is written over another keeps the status of that one, as only the outside
writes it. -/
theorem status_keeping {s : MemoryStore} {ns : String} {sts existing : StatefulSet}
    (h : s.statefulSets.find? ⟨ns, sts.metadata.anyName⟩ = some existing) :
    (s.keeping ns sts).status = existing.status := by
  rw [keeping_eq h]

/-! ## What an operation comes to -/

/-- A replacement of what exists is acknowledged, and answered with what is stored then. -/
theorem perform_replaceStatefulSet_ok {s : MemoryStore} {ns : String} {sts existing : StatefulSet}
    (h : s.statefulSets.find? ⟨ns, sts.metadata.anyName⟩ = some existing) :
    (s.perform (.replaceStatefulSet ns sts)).1 =
      (.ok (s.keeping ns sts) : Except OperatorError StatefulSet) := by
  unfold perform keeping
  dsimp only
  rw [h]
  rfl

/-- A creation is acknowledged, whether or not there was something of the name. -/
theorem perform_createStatefulSet_ok (s : MemoryStore) (ns : String) (sts : StatefulSet) :
    (s.perform (.createStatefulSet ns sts)).1 =
      (.ok (s.keeping ns sts) : Except OperatorError StatefulSet) := by
  unfold perform keeping
  dsimp only
  cases s.statefulSets.find? ⟨ns, sts.metadata.anyName⟩ with
  | none => rfl
  | some existing => rfl

/-- The store once a StatefulSet was written. -/
def withStatefulSet (s : MemoryStore) (ns : String) (sts : StatefulSet) (entry : Mutation) :
    MemoryStore :=
  { s with
    statefulSets := s.statefulSets.insert ⟨ns, sts.metadata.anyName⟩ (s.keeping ns sts)
    journal := s.journal ++ [entry]
    lastVersion := s.lastVersion + 1 }

/-- A task as a creation stores it: stamped, and with the status stored before. -/
def keepingTask (s : MemoryStore) (ns : String) (task : CassandraTask) : CassandraTask :=
  { task with
    metadata := s.stamped ns task.metadata
    status := match s.tasks.find? ⟨ns, task.metadata.anyName⟩ with
      | some existing => existing.status
      | none => task.status }

/-- What an operation comes to. -/
inductive Performs (s : MemoryStore) :
    (c : StoreCall) → Except OperatorError c.Value → MemoryStore → Prop
  | refused (c : StoreCall) (e : OperatorError) (n : Nat) (hn : n ≤ s.refusedStatusWrites) :
    Performs s c (.error e) { s with refusedStatusWrites := n }
  | idle (c : StoreCall) (v : c.Value) (hv : c.version? v = none) : Performs s c (.ok v) s
  | created (ns : String) (sts : StatefulSet)
    (h : s.statefulSets.find? ⟨ns, sts.metadata.anyName⟩ = none) :
    Performs s (.createStatefulSet ns sts) (.ok (s.keeping ns sts))
      (s.withStatefulSet ns sts (.createStatefulSet sts.metadata.anyName sts.replicas))
  | recreated (ns : String) (sts old : StatefulSet)
    (h : s.statefulSets.find? ⟨ns, sts.metadata.anyName⟩ = some old) :
    Performs s (.createStatefulSet ns sts) (.ok (s.keeping ns sts))
      (s.withStatefulSet ns sts (.replaceStatefulSet sts.metadata.anyName sts.replicas))
  | replaced (ns : String) (sts old : StatefulSet)
    (h : s.statefulSets.find? ⟨ns, sts.metadata.anyName⟩ = some old) :
    Performs s (.replaceStatefulSet ns sts) (.ok (s.keeping ns sts))
      (s.withStatefulSet ns sts (.replaceStatefulSet sts.metadata.anyName sts.replicas))
  | service (ns : String) (service : Service) :
    Performs s (.ensureService ns service) (.ok ()) { s with
      services := s.services.insert ⟨ns, service.metadata.anyName⟩ service
      journal := s.journal ++ [.createService service.metadata.anyName] }
  | dataCenterStatus (ns name : String) (status : DataCenterStatus) (dc : DataCenter)
    (h : s.dataCenters.find? ⟨ns, name⟩ = some dc) :
    Performs s (.replaceDataCenterStatus ns name status) (.ok ()) { s with
      dataCenters := s.dataCenters.insert ⟨ns, name⟩ { dc with status := some status }
      journal := s.journal ++ [.dataCenterStatus name status] }
  | taskCreated (ns : String) (task : CassandraTask) :
    Performs s (.createTask ns task) (.ok (s.keepingTask ns task)) { s with
      tasks := s.tasks.insert ⟨ns, task.metadata.anyName⟩ (s.keepingTask ns task)
      journal := s.journal ++ [.createTask task.metadata.anyName]
      lastVersion := s.lastVersion + 1 }
  | taskDeleted (ns name : String) :
    Performs s (.deleteTask ns name) (.ok ()) { s with
      tasks := s.tasks.erase ⟨ns, name⟩
      journal := s.journal ++ [.deleteTask name] }
  | taskStatus (ns name : String) (status : TaskStatus) (task : CassandraTask)
    (h : s.tasks.find? ⟨ns, name⟩ = some task) :
    Performs s (.replaceTaskStatus ns name status) (.ok ()) { s with
      tasks := s.tasks.insert ⟨ns, name⟩ { task with status := some status }
      journal := s.journal ++ [.taskStatus name status] }

/-- An operation does one of these. Creations and replacements put the new StatefulSet together in
their own way each; that it is the one of `keeping` in the end is shown here once. -/
theorem perform_spec (s : MemoryStore) (c : StoreCall) :
    Performs s c (s.perform c).1 (s.perform c).2 := by
  -- `perform` and `Performs` say the same of each call, but for how the new StatefulSet is put
  -- together.
  cases c with
  | getStatefulSet ns name => exact .idle _ _ rfl
  | getDataCenter ns name => exact .idle _ _ rfl
  | getTask ns name => exact .idle _ _ rfl
  | createStatefulSet ns sts =>
    rw [perform_createStatefulSet_ok]
    unfold perform
    dsimp only
    cases h : s.statefulSets.find? ⟨ns, sts.metadata.anyName⟩ with
    | none =>
      have hwrite := Performs.created ns sts h
      unfold withStatefulSet keeping at hwrite
      rw [h] at hwrite
      unfold keeping
      rw [h]
      exact hwrite
    | some old =>
      have hwrite := Performs.recreated ns sts old h
      unfold withStatefulSet at hwrite
      rw [keeping_eq h] at hwrite ⊢
      exact hwrite
  | replaceStatefulSet ns sts =>
    cases h : s.statefulSets.find? ⟨ns, sts.metadata.anyName⟩ with
    | none =>
      unfold perform
      dsimp only
      rw [h]
      exact .refused _ _ s.refusedStatusWrites (Nat.le_refl _)
    | some old =>
      rw [perform_replaceStatefulSet_ok h]
      unfold perform
      dsimp only
      have hwrite := Performs.replaced ns sts old h
      unfold withStatefulSet at hwrite
      rw [h]
      rw [keeping_eq h] at hwrite ⊢
      exact hwrite
  | ensureService ns service =>
    unfold perform
    dsimp only
    split
    · exact .idle _ _ rfl
    · exact .service ns service
  | replaceDataCenterStatus ns name status =>
    unfold perform
    dsimp only
    split
    · exact .refused _ _ _ (Nat.sub_le _ _)
    · split
      · exact .refused _ _ s.refusedStatusWrites (Nat.le_refl _)
      next dc h => exact .dataCenterStatus ns name status dc h
  | createTask ns task => exact .taskCreated ns task
  | deleteTask ns name =>
    unfold perform
    dsimp only
    split
    · exact .taskDeleted ns name
    · exact .idle _ _ rfl
  | replaceTaskStatus ns name status =>
    unfold perform
    dsimp only
    split
    · exact .refused _ _ s.refusedStatusWrites (Nat.le_refl _)
    next task h => exact .taskStatus ns name status task h

variable {s s' : MemoryStore} {c : StoreCall} {r : Except OperatorError c.Value}

namespace Performs

/-- An operation that writes no StatefulSet leaves them. -/
theorem statefulSets (h : Performs s c r s') (hc : c.statefulSet? = none) :
    s'.statefulSets = s.statefulSets := by
  cases h with
  | created | recreated | replaced => cases hc
  | _ => rfl

/-- Only one that looks after a Service touches the Services. -/
theorem services (h : Performs s c r s') (hc : ∀ ns service, c ≠ .ensureService ns service) :
    s'.services = s.services := by
  cases h with
  | service ns service => exact absurd rfl (hc ns service)
  | _ => rfl

/-- One about no task leaves the tasks. -/
theorem tasks (h : Performs s c r s') (hc : c.task? = none) : s'.tasks = s.tasks := by
  cases h with
  | taskCreated | taskDeleted | taskStatus => cases hc
  | _ => rfl

/-- The journal is only ever continued. -/
theorem journal (h : Performs s c r s') : s.journal <+: s'.journal := by
  cases h with
  | refused | idle => exact List.prefix_rfl
  | _ => exact List.prefix_append _ _

end Performs

/-! ## StatefulSets -/

/-- A call that writes no StatefulSet leaves them. -/
theorem statefulSets_perform (s : MemoryStore) {c : StoreCall} (h : c.statefulSet? = none) :
    (s.perform c).2.statefulSets = s.statefulSets :=
  (s.perform_spec c).statefulSets h

/-- A creation stores what it is given, in place of what was there, and nothing else. -/
theorem find?_createStatefulSet (s : MemoryStore) (ns : String) (sts : StatefulSet)
    (k : NamespacedName) :
    (s.perform (.createStatefulSet ns sts)).2.statefulSets.find? k =
      if ⟨ns, sts.metadata.anyName⟩ = k then some (s.keeping ns sts)
      else s.statefulSets.find? k := by
  unfold perform keeping
  dsimp only
  cases h : s.statefulSets.find? ⟨ns, sts.metadata.anyName⟩ with
  | none => exact find?_insert _ _ _ _
  | some existing => exact find?_insert _ _ _ _

/-- A replacement does the same where there is something to replace, and otherwise nothing. -/
theorem find?_replaceStatefulSet (s : MemoryStore) (ns : String) (sts : StatefulSet)
    (k : NamespacedName) :
    (s.perform (.replaceStatefulSet ns sts)).2.statefulSets.find? k =
      if ⟨ns, sts.metadata.anyName⟩ = k then (s.statefulSets.find? k).map fun _ => s.keeping ns sts
      else s.statefulSets.find? k := by
  unfold perform keeping
  dsimp only
  cases h : s.statefulSets.find? ⟨ns, sts.metadata.anyName⟩ with
  | none =>
    by_cases hk : ⟨ns, sts.metadata.anyName⟩ = k
    · subst hk; simp [h]
    · rw [if_neg hk]
  | some existing =>
    refine (find?_insert _ _ _ _).trans ?_
    by_cases hk : ⟨ns, sts.metadata.anyName⟩ = k
    · subst hk; simp [h]
    · rw [if_neg hk, if_neg hk]

/-- A StatefulSet under another name than the one written stays as it was, whatever the call is. -/
theorem find?_perform_of_ne (s : MemoryStore) (c : StoreCall) {k : NamespacedName}
    (h : ∀ w ∈ c.statefulSet?, w.1 ≠ k) :
    (s.perform c).2.statefulSets.find? k = s.statefulSets.find? k := by
  cases hc : c.statefulSet? with
  | none => rw [statefulSets_perform s hc]
  | some w =>
    have hne := h w hc
    cases c with
    | createStatefulSet ns sts =>
      cases hc
      rw [find?_createStatefulSet, if_neg hne]
    | replaceStatefulSet ns sts =>
      cases hc
      rw [find?_replaceStatefulSet, if_neg hne]
    | _ => cases hc

/-- No call takes a StatefulSet away, so racks that are there stay there. -/
theorem isSome_find?_perform (s : MemoryStore) (c : StoreCall) {k : NamespacedName}
    (h : (s.statefulSets.find? k).isSome) : ((s.perform c).2.statefulSets.find? k).isSome := by
  cases c with
  | createStatefulSet ns sts =>
    rw [find?_createStatefulSet]
    split
    · rfl
    · exact h
  | replaceStatefulSet ns sts =>
    rw [find?_replaceStatefulSet]
    split
    · rwa [Option.isSome_map]
    · exact h
  | _ => rwa [statefulSets_perform s rfl]

theorem journal_createStatefulSet {s : MemoryStore} {ns : String} {sts : StatefulSet}
    (h : s.statefulSets.find? ⟨ns, sts.metadata.anyName⟩ = none) :
    (s.perform (.createStatefulSet ns sts)).2.journal =
      s.journal ++ [.createStatefulSet sts.metadata.anyName sts.replicas] := by
  unfold perform
  dsimp only
  rw [h]
  rfl

theorem journal_replaceStatefulSet {s : MemoryStore} {ns : String} {sts existing : StatefulSet}
    (h : s.statefulSets.find? ⟨ns, sts.metadata.anyName⟩ = some existing) :
    (s.perform (.replaceStatefulSet ns sts)).2.journal =
      s.journal ++ [.replaceStatefulSet sts.metadata.anyName sts.replicas] := by
  unfold perform
  dsimp only
  rw [h]
  rfl

/-! ## Services -/

/-- A Service is created once; after that nothing is journaled of it. -/
theorem journal_ensureService (s : MemoryStore) (ns : String) (service : Service) :
    (s.perform (.ensureService ns service)).2.journal = s.journal ∨
      (s.perform (.ensureService ns service)).2.journal =
        s.journal ++ [.createService service.metadata.anyName] := by
  unfold perform
  dsimp only
  split
  · exact .inl rfl
  · exact .inr rfl

theorem perform_ensureService_ok (s : MemoryStore) (ns : String) (service : Service) :
    (s.perform (.ensureService ns service)).1 = (.ok () : Except OperatorError Unit) := by
  unfold perform
  dsimp only
  split <;> rfl

/-- Nothing else touches the Services. -/
theorem services_perform (s : MemoryStore) {c : StoreCall}
    (h : ∀ ns service, c ≠ .ensureService ns service) :
    (s.perform c).2.services = s.services :=
  (s.perform_spec c).services h

/-- Where the Services are as they were after a look after one, that one needs none, and the store
does not change. -/
theorem perform_ensureService_again {s s' : MemoryStore} {ns : String} {service : Service}
    (h : s'.services = (s.perform (.ensureService ns service)).2.services) :
    (s'.perform (.ensureService ns service)).2 = s' := by
  have hthere : s'.services.contains ⟨ns, service.metadata.anyName⟩ = true := by
    rw [h]
    unfold perform
    dsimp only
    split
    next hc => exact hc
    next =>
      show (SortedMap.find? _ _).isSome = true
      rw [find?_insert, if_pos rfl]
      rfl
  unfold perform
  dsimp only
  rw [if_pos hthere]

/-! ## DataCenters -/

/-- Only a write of its status touches a DataCenter, or the count of those still refused. -/
theorem dataCenters_perform (s : MemoryStore) {c : StoreCall}
    (h : ∀ ns name status, c ≠ .replaceDataCenterStatus ns name status) :
    (s.perform c).2.dataCenters = s.dataCenters ∧
      (s.perform c).2.refusedStatusWrites = s.refusedStatusWrites := by
  cases c with
  | createStatefulSet ns sts => unfold perform; dsimp only; split <;> exact ⟨rfl, rfl⟩
  | replaceStatefulSet ns sts => unfold perform; dsimp only; split <;> exact ⟨rfl, rfl⟩
  | ensureService ns service => unfold perform; dsimp only; split <;> exact ⟨rfl, rfl⟩
  | replaceDataCenterStatus ns name status => exact absurd rfl (h ns name status)
  | deleteTask ns name => unfold perform; dsimp only; split <;> exact ⟨rfl, rfl⟩
  | replaceTaskStatus ns name status =>
    unfold perform
    dsimp only
    split <;> exact ⟨rfl, rfl⟩
  | _ => exact ⟨rfl, rfl⟩

/-- While status writes are to be refused, one is, and the next has one refusal less before it. -/
theorem perform_refused {s : MemoryStore} (h : 0 < s.refusedStatusWrites) (ns name : String)
    (status : DataCenterStatus) :
    s.perform (.replaceDataCenterStatus ns name status) =
      ((.error (conflict name) : Except OperatorError Unit),
        { s with refusedStatusWrites := s.refusedStatusWrites - 1 }) := by
  unfold perform
  dsimp only
  rw [if_pos h]
  rfl

/-- A status write that none is refused before is done, and journaled. -/
theorem perform_replaceDataCenterStatus {s : MemoryStore} {ns name : String} {dc : DataCenter}
    (h : s.dataCenters.find? ⟨ns, name⟩ = some dc) (hr : s.refusedStatusWrites = 0)
    (status : DataCenterStatus) :
    s.perform (.replaceDataCenterStatus ns name status) =
      ((.ok () : Except OperatorError Unit), { s with
        dataCenters := s.dataCenters.insert ⟨ns, name⟩ { dc with status := some status }
        journal := s.journal ++ [.dataCenterStatus name status] }) := by
  unfold perform
  dsimp only
  rw [if_neg (by omega), h]
  rfl

theorem perform_replaceDataCenterStatus_ok {s : MemoryStore} {ns name : String} {dc : DataCenter}
    (h : s.dataCenters.find? ⟨ns, name⟩ = some dc) (hr : s.refusedStatusWrites = 0)
    (status : DataCenterStatus) :
    (s.perform (.replaceDataCenterStatus ns name status)).1 = (.ok () : Except _ Unit) := by
  rw [perform_replaceDataCenterStatus h hr]

theorem find?_replaceDataCenterStatus {s : MemoryStore} {ns name : String} {dc : DataCenter}
    (h : s.dataCenters.find? ⟨ns, name⟩ = some dc) (hr : s.refusedStatusWrites = 0)
    (status : DataCenterStatus) :
    (s.perform (.replaceDataCenterStatus ns name status)).2.dataCenters.find? ⟨ns, name⟩ =
      some { dc with status := some status } := by
  rw [perform_replaceDataCenterStatus h hr]
  exact (find?_insert _ _ _ _).trans (if_pos rfl)

/-- No status write is acknowledged while some are to be refused. -/
theorem refused_of_acknowledged {s : MemoryStore} {ns name : String} {status : DataCenterStatus}
    {u : Unit} (hok : (s.perform (.replaceDataCenterStatus ns name status)).1 =
      (.ok u : Except OperatorError Unit)) : s.refusedStatusWrites = 0 := by
  refine Nat.eq_zero_of_not_pos fun hpos => ?_
  rw [perform_refused hpos] at hok
  cases hok

/-- A status write that is acknowledged stores the status, in the DataCenter that was there. -/
theorem find?_of_acknowledged {s : MemoryStore} {ns name : String} {dc : DataCenter}
    (h : s.dataCenters.find? ⟨ns, name⟩ = some dc) {status : DataCenterStatus} {u : Unit}
    (hok : (s.perform (.replaceDataCenterStatus ns name status)).1 =
      (.ok u : Except OperatorError Unit)) :
    (s.perform (.replaceDataCenterStatus ns name status)).2.dataCenters.find? ⟨ns, name⟩ =
      some { dc with status := some status } := by
  unfold perform at hok ⊢
  dsimp only at hok ⊢
  split at hok
  · cases hok
  next hr =>
    rw [if_neg hr, h]
    exact (find?_insert _ _ _ _).trans (if_pos rfl)

/-- There is a DataCenter then, and it has the status that was written. -/
theorem status_of_acknowledged {s : MemoryStore} {ns name : String} {status : DataCenterStatus}
    {u : Unit} (hok : (s.perform (.replaceDataCenterStatus ns name status)).1 =
      (.ok u : Except OperatorError Unit)) :
    ((s.perform (.replaceDataCenterStatus ns name status)).2.dataCenters.find? ⟨ns, name⟩).bind
      (·.status) = some status := by
  cases hdc : s.dataCenters.find? ⟨ns, name⟩ with
  | some dc =>
    rw [find?_of_acknowledged hdc hok]
    rfl
  | none =>
    have hr := refused_of_acknowledged hok
    unfold perform at hok
    dsimp only at hok
    rw [if_neg (by omega), hdc] at hok
    cases hok

/-- After a status write the DataCenter has the status, or is as it was. Which of the two shows in
the answer. -/
theorem find?_replaceDataCenterStatus_cases {s : MemoryStore} {ns name : String} {dc : DataCenter}
    (h : s.dataCenters.find? ⟨ns, name⟩ = some dc) (status : DataCenterStatus) :
    (s.perform (.replaceDataCenterStatus ns name status)).2.dataCenters.find? ⟨ns, name⟩ =
        some dc ∨
      (s.perform (.replaceDataCenterStatus ns name status)).2.dataCenters.find? ⟨ns, name⟩ =
        some { dc with status := some status } := by
  unfold perform
  dsimp only
  split
  · exact .inl h
  · rw [h]
    exact .inr ((find?_insert _ _ _ _).trans (if_pos rfl))

theorem refusedStatusWrites_perform {s : MemoryStore} (hr : s.refusedStatusWrites = 0)
    (c : StoreCall) : (s.perform c).2.refusedStatusWrites = 0 := by
  cases c with
  | replaceDataCenterStatus ns name status =>
    unfold perform
    dsimp only
    rw [if_neg (by omega)]
    split <;> exact hr
  | _ => rw [(dataCenters_perform s (by simp)).2, hr]

/-- A status write is acknowledged and journaled, or refused and changes no DataCenter. -/
theorem replaceDataCenterStatus_cases (s : MemoryStore) (ns name : String)
    (status : DataCenterStatus) :
    ((s.perform (.replaceDataCenterStatus ns name status)).1 =
        (.ok () : Except OperatorError Unit) ∧
      (s.perform (.replaceDataCenterStatus ns name status)).2.journal =
        s.journal ++ [.dataCenterStatus name status]) ∨
    (∃ e, (s.perform (.replaceDataCenterStatus ns name status)).1 =
        (.error e : Except OperatorError Unit)) ∧
      (s.perform (.replaceDataCenterStatus ns name status)).2.journal = s.journal ∧
      (s.perform (.replaceDataCenterStatus ns name status)).2.dataCenters = s.dataCenters := by
  unfold perform
  dsimp only
  split
  · exact .inr ⟨⟨_, rfl⟩, rfl, rfl⟩
  · split
    · exact .inr ⟨⟨_, rfl⟩, rfl, rfl⟩
    · exact .inl ⟨rfl, rfl⟩

/-- Whatever is asked, the same DataCenters are there then, with all they had but their status. So a
spec read at the beginning of a pass is the one stored at its end. -/
theorem dataCenter_perform (s : MemoryStore) (c : StoreCall) (k : NamespacedName) :
    ∃ status, (s.perform c).2.dataCenters.find? k =
      (s.dataCenters.find? k).map fun dc => { dc with status } := by
  have hsame : ∀ found : Option DataCenter,
      ∃ status, found = found.map fun dc => { dc with status } := by
    intro found
    cases found with
    | none => exact ⟨none, rfl⟩
    | some dc => exact ⟨dc.status, rfl⟩
  -- Of all calls only a write of the status touches a DataCenter.
  cases c with
  | replaceDataCenterStatus ns name status =>
    unfold perform
    dsimp only
    split
    · exact hsame _
    · split
      · exact hsame _
      next dc' hdc' =>
        by_cases hk : ⟨ns, name⟩ = k
        · subst hk
          rw [hdc']
          exact ⟨some status, (find?_insert _ _ _ _).trans (if_pos rfl)⟩
        · rw [find?_insert, if_neg hk]
          exact hsame _
  | _ =>
    rw [(dataCenters_perform s (by simp)).1]
    exact hsame _

/-- A DataCenter that is there still is after any call, with the spec it had. -/
theorem find?_dataCenters_perform (s : MemoryStore) (c : StoreCall) {k : NamespacedName}
    {dc : DataCenter} (h : s.dataCenters.find? k = some dc) :
    ∃ status, (s.perform c).2.dataCenters.find? k = some { dc with status } := by
  obtain ⟨status, hnow⟩ := dataCenter_perform s c k
  rw [h] at hnow
  exact ⟨status, hnow⟩

/-- A DataCenter that is there then was there before, and has at most another status. -/
theorem find?_of_dataCenters_perform {s : MemoryStore} {c : StoreCall} {k : NamespacedName}
    {dc : DataCenter} (h : (s.perform c).2.dataCenters.find? k = some dc) :
    ∃ dc₀, s.dataCenters.find? k = some dc₀ ∧ dc = { dc₀ with status := dc.status } := by
  obtain ⟨status, hnow⟩ := dataCenter_perform s c k
  obtain ⟨dc₀, hdc₀, rfl⟩ := Option.map_eq_some_iff.mp (hnow.symm.trans h)
  exact ⟨dc₀, hdc₀, rfl⟩

/-! ## The journal -/

/-- The journal is only ever continued, so what is in it stays there. -/
theorem journal_perform (s : MemoryStore) (c : StoreCall) :
    s.journal <+: (s.perform c).2.journal :=
  (s.perform_spec c).journal

/-! ## Tasks -/

/-- A call about no task leaves the tasks. -/
theorem tasks_perform (s : MemoryStore) {c : StoreCall} (h : c.task? = none) :
    (s.perform c).2.tasks = s.tasks :=
  (s.perform_spec c).tasks h

/-- A task is stored under the name it is given, and the answer has that name. -/
theorem perform_createTask_ok (s : MemoryStore) (ns : String) (task : CassandraTask) :
    ∃ t, (s.perform (.createTask ns task)).1 = (.ok t : Except OperatorError CassandraTask) ∧
      t.metadata.anyName = task.metadata.anyName :=
  ⟨_, rfl, rfl⟩

/-- A task that exists keeps its status when it is created again, so its progress is not lost. -/
theorem status_createTask (s : MemoryStore) (ns : String) (task : CassandraTask)
    {k : NamespacedName} {t : CassandraTask} (h : s.tasks.find? k = some t) :
    ∃ t', (s.perform (.createTask ns task)).2.tasks.find? k = some t' ∧ t'.status = t.status := by
  unfold perform
  dsimp only
  rw [find?_insert]
  split
  next hk => subst hk; exact ⟨_, rfl, by rw [h]⟩
  next => exact ⟨t, h, rfl⟩

/-- A task that is deleted is not found any more, and the others are found as before. -/
theorem find?_deleteTask (s : MemoryStore) (ns name : String) (k : NamespacedName) :
    (s.perform (.deleteTask ns name)).2.tasks.find? k =
      if k = ⟨ns, name⟩ then none else s.tasks.find? k := by
  unfold perform
  dsimp only
  split
  next => exact find?_erase _ _ _
  next h =>
    by_cases hk : k = ⟨ns, name⟩
    · subst hk
      rw [if_pos rfl]
      simpa [SortedMap.contains] using h
    · rw [if_neg hk]

/-- A status is written to the task of its name, if there is one, and to no other. -/
theorem find?_replaceTaskStatus (s : MemoryStore) (ns name : String) (status : TaskStatus)
    (k : NamespacedName) :
    (s.perform (.replaceTaskStatus ns name status)).2.tasks.find? k =
      if ⟨ns, name⟩ = k then (s.tasks.find? k).map fun t => { t with status := some status }
      else s.tasks.find? k := by
  unfold perform
  dsimp only
  cases h : s.tasks.find? ⟨ns, name⟩ with
  | none =>
    by_cases hk : ⟨ns, name⟩ = k
    · subst hk; simp [h]
    · rw [if_neg hk]
  | some t =>
    refine (find?_insert _ _ _ _).trans ?_
    by_cases hk : ⟨ns, name⟩ = k
    · subst hk; simp [h]
    · rw [if_neg hk, if_neg hk]

/-- A status write to a task that exists is acknowledged. None of them is ever refused by the store.
-/
theorem perform_replaceTaskStatus_ok {s : MemoryStore} {ns name : String} {t : CassandraTask}
    (h : s.tasks.find? ⟨ns, name⟩ = some t) (status : TaskStatus) :
    (s.perform (.replaceTaskStatus ns name status)).1 = (.ok () : Except OperatorError Unit) := by
  unfold perform
  dsimp only
  rw [h]
  rfl

end MemoryStore

end RackOperator
