import RackOperator.Proofs.Isolation.Programs

/-!
# Stores that agree in a namespace

`SortedMap.AgreeIn ns f m m'` says that two maps hold the same under the keys of a namespace, as
far as `f` tells; `SortedMap.SameOut ns m m'` that one map holds what the other does under all
keys but these. Both survive a write under a key of the namespace, whatever is stored around it.

A call about one namespace then does the same in two stores that agree there: it answers alike,
it leaves stores that agree, and it journals the same changes (`MemoryStore.sameStep_perform`).
And it touches nothing that is stored in any other namespace (`MemoryStore.spares_perform`).
-/

namespace RackOperator

namespace SortedMap

variable {α β : Type} {ns : String} {f : α → β} {m m' m'' : SortedMap NamespacedName α}

/-- Two maps hold the same under the keys of a namespace, as far as `f` tells. -/
def AgreeIn (ns : String) (f : α → β) (m m' : SortedMap NamespacedName α) : Prop :=
  ∀ name, (m.find? ⟨ns, name⟩).map f = (m'.find? ⟨ns, name⟩).map f

/-- A map holds what another does under all keys that are not of a namespace. -/
def SameOut (ns : String) (m m' : SortedMap NamespacedName α) : Prop :=
  ∀ k : NamespacedName, k.ns ≠ ns → m'.find? k = m.find? k

namespace AgreeIn

theorem refl (m : SortedMap NamespacedName α) : AgreeIn ns f m m := fun _ => rfl

/-- Two maps that agree in a namespace have something under a name there, or neither has, and what
they have looks the same. -/
theorem cases (h : AgreeIn ns f m m') (name : String) :
    m.find? ⟨ns, name⟩ = none ∧ m'.find? ⟨ns, name⟩ = none ∨
      ∃ a a', m.find? ⟨ns, name⟩ = some a ∧ m'.find? ⟨ns, name⟩ = some a' ∧ f a = f a' :=
  found_cases (h name)

/-- Where whole values have to agree, a look-up within the namespace gives the same in both. -/
theorem find?_eq (h : AgreeIn ns id m m') (name : String) :
    m.find? ⟨ns, name⟩ = m'.find? ⟨ns, name⟩ := by
  have hname := h name
  rwa [Option.map_id, id, id] at hname

theorem contains_eq (h : AgreeIn ns f m m') (name : String) :
    m.contains ⟨ns, name⟩ = m'.contains ⟨ns, name⟩ := by
  unfold contains
  obtain ⟨hm, hm'⟩ | ⟨a, a', hm, hm', -⟩ := h.cases name
  · rw [hm, hm']
  · rw [hm, hm']
    rfl

/-- What is written alike is held alike. -/
theorem insert (h : AgreeIn ns f m m') (k : NamespacedName) {a a' : α} (ha : f a = f a') :
    AgreeIn ns f (m.insert k a) (m'.insert k a') := by
  intro name
  rw [find?_insert, find?_insert]
  split
  next => exact congrArg some ha
  next => exact h name

/-- A write elsewhere is not noticed, which is how the second run may differ from the first. -/
theorem insert_right (h : AgreeIn ns f m m') {k : NamespacedName} (hk : k.ns ≠ ns) (a : α) :
    AgreeIn ns f m (m'.insert k a) := by
  intro name
  rw [find?_insert, if_neg fun he => hk (congrArg NamespacedName.ns he)]
  exact h name

theorem erase (h : AgreeIn ns f m m') (k : NamespacedName) :
    AgreeIn ns f (m.erase k) (m'.erase k) := by
  intro name
  rw [find?_erase, find?_erase]
  split
  next => rfl
  next => exact h name

end AgreeIn

namespace SameOut

theorem refl (m : SortedMap NamespacedName α) : SameOut ns m m := fun _ _ => rfl

theorem trans (h : SameOut ns m m') (h' : SameOut ns m' m'') : SameOut ns m m'' :=
  fun k hk => (h' k hk).trans (h k hk)

theorem insert (m : SortedMap NamespacedName α) (name : String) (a : α) :
    SameOut ns m (m.insert ⟨ns, name⟩ a) := by
  intro k hk
  rw [find?_insert, if_neg fun he => hk (congrArg NamespacedName.ns he).symm]

theorem erase (m : SortedMap NamespacedName α) (name : String) :
    SameOut ns m (m.erase ⟨ns, name⟩) := by
  intro k hk
  rw [find?_erase, if_neg fun he => hk (congrArg NamespacedName.ns he)]

end SameOut

end SortedMap

open SortedMap (AgreeIn SameOut)

namespace MemoryStore

/-- Two stores hold the same in a namespace, up to versions, and refuse as many status writes. -/
structure Alike (ns : String) (s s' : MemoryStore) : Prop where
  statefulSets : AgreeIn ns StatefulSet.unversioned s.statefulSets s'.statefulSets
  services : AgreeIn ns id s.services s'.services
  dataCenters : AgreeIn ns id s.dataCenters s'.dataCenters
  tasks : AgreeIn ns CassandraTask.unversioned s.tasks s'.tasks
  refused : s.refusedStatusWrites = s'.refusedStatusWrites

/-- A store holds what another does in all namespaces but one. -/
structure Spares (ns : String) (s s' : MemoryStore) : Prop where
  statefulSets : SameOut ns s.statefulSets s'.statefulSets
  services : SameOut ns s.services s'.services
  dataCenters : SameOut ns s.dataCenters s'.dataCenters
  tasks : SameOut ns s.tasks s'.tasks

/-- One call in two stores: it answers alike, leaves alike stores and journals the same. -/
structure SameStep (ns : String) (call : StoreCall) (s s' : MemoryStore)
    (x x' : Except OperatorError call.Value × MemoryStore) : Prop where
  answer : EndsAlike (call.Alike ns) x.1 x'.1
  store : Alike ns x.2 x'.2
  journal : ∃ new, x.2.journal = s.journal ++ new ∧ x'.2.journal = s'.journal ++ new

variable {ns : String} {s s' s'' : MemoryStore}

theorem Spares.refl (s : MemoryStore) : Spares ns s s := ⟨.refl _, .refl _, .refl _, .refl _⟩

theorem Spares.trans (h : Spares ns s s') (h' : Spares ns s' s'') : Spares ns s s'' where
  statefulSets := h.statefulSets.trans h'.statefulSets
  services := h.services.trans h'.services
  dataCenters := h.dataCenters.trans h'.dataCenters
  tasks := h.tasks.trans h'.tasks

/-- A call that changes nothing leaves the stores in agreement, and only its answers are to be
compared. -/
theorem Alike.unchanged (h : Alike ns s s') {call : StoreCall}
    {r r' : Except OperatorError call.Value} (hr : EndsAlike (call.Alike ns) r r') :
    SameStep ns call s s' (r, s) (r', s') :=
  ⟨hr, h, [], (List.append_nil _).symm, (List.append_nil _).symm⟩

/-- A StatefulSet that is written with the same status differs in the version it gets, which the
agreement of the two stores leaves out. -/
theorem Alike.written (h : Alike ns s s') (sts : StatefulSet)
    (status : Option StatefulSetStatus) (entry : Mutation) :
    Alike ns (s.writeStatefulSet ns sts status entry).2
      (s'.writeStatefulSet ns sts status entry).2 :=
  { h with statefulSets := h.statefulSets.insert _ rfl }

/-- A creation stores what it is given in both, with the status of what was there before, if
anything was. -/
theorem sameStep_createStatefulSet (h : Alike ns s s') (sts : StatefulSet) :
    SameStep ns (.createStatefulSet ns sts) s s' (s.perform (.createStatefulSet ns sts))
      (s'.perform (.createStatefulSet ns sts)) := by
  unfold perform
  obtain ⟨hf, hf'⟩ | ⟨old, old', hf, hf', he⟩ := h.statefulSets.cases sts.metadata.anyName
  · dsimp only
    rw [hf, hf']
    exact ⟨.ok rfl, h.written sts _ _, [_], rfl, rfl⟩
  · dsimp only
    rw [hf, hf']
    dsimp only
    rw [StatefulSet.status_eq he]
    exact ⟨.ok rfl, h.written sts _ _, [_], rfl, rfl⟩

/-- A StatefulSet that is replaced keeps the status stored, which is the same in both. -/
theorem sameStep_replaceStatefulSet (h : Alike ns s s') (sts : StatefulSet) :
    SameStep ns (.replaceStatefulSet ns sts) s s' (s.perform (.replaceStatefulSet ns sts))
      (s'.perform (.replaceStatefulSet ns sts)) := by
  unfold perform
  obtain ⟨hf, hf'⟩ | ⟨old, old', hf, hf', he⟩ := h.statefulSets.cases sts.metadata.anyName
  · dsimp only
    rw [hf, hf']
    exact h.unchanged (.error _)
  · dsimp only
    rw [hf, hf']
    dsimp only
    rw [StatefulSet.status_eq he]
    exact ⟨.ok rfl, h.written sts _ _, [_], rfl, rfl⟩

theorem sameStep_ensureService (h : Alike ns s s') (service : Service) :
    SameStep ns (.ensureService ns service) s s' (s.perform (.ensureService ns service))
      (s'.perform (.ensureService ns service)) := by
  unfold perform
  dsimp only
  rw [h.services.contains_eq]
  split
  next => exact h.unchanged (.ok rfl)
  next => exact ⟨.ok rfl, { h with services := h.services.insert _ rfl }, [_], rfl, rfl⟩

/-- A status is refused in both stores or in neither, and stored in both or in neither. -/
theorem sameStep_replaceDataCenterStatus (h : Alike ns s s') (name : String)
    (status : DataCenterStatus) :
    SameStep ns (.replaceDataCenterStatus ns name status) s s'
      (s.perform (.replaceDataCenterStatus ns name status))
      (s'.perform (.replaceDataCenterStatus ns name status)) := by
  unfold perform
  dsimp only
  rw [h.refused, h.dataCenters.find?_eq]
  split
  next =>
    exact ⟨.error _, { h with refused := rfl }, [], (List.append_nil _).symm,
      (List.append_nil _).symm⟩
  next =>
    cases s'.dataCenters.find? ⟨ns, name⟩ with
    | none => exact h.unchanged (.error _)
    | some dc =>
      refine ⟨.ok rfl, { h with dataCenters := h.dataCenters.insert _ rfl, refused := rfl }, [_],
        rfl, rfl⟩

/-- A task is stored under its name in both. One that exists keeps its status, which is the same in
both. -/
theorem sameStep_createTask (h : Alike ns s s') (task : CassandraTask) :
    SameStep ns (.createTask ns task) s s' (s.perform (.createTask ns task))
      (s'.perform (.createTask ns task)) := by
  unfold perform
  obtain ⟨hf, hf'⟩ | ⟨old, old', hf, hf', he⟩ := h.tasks.cases task.metadata.anyName
  · dsimp only
    rw [hf, hf']
    exact ⟨.ok rfl, { h with tasks := h.tasks.insert _ rfl }, [_], rfl, rfl⟩
  · dsimp only
    rw [hf, hf']
    dsimp only
    rw [CassandraTask.status_eq he]
    exact ⟨.ok rfl, { h with tasks := h.tasks.insert _ rfl }, [_], rfl, rfl⟩

theorem sameStep_deleteTask (h : Alike ns s s') (name : String) :
    SameStep ns (.deleteTask ns name) s s' (s.perform (.deleteTask ns name))
      (s'.perform (.deleteTask ns name)) := by
  unfold perform
  dsimp only
  rw [h.tasks.contains_eq]
  split
  next => exact ⟨.ok rfl, { h with tasks := h.tasks.erase _ }, [_], rfl, rfl⟩
  next => exact h.unchanged (.ok rfl)

/-- The status of a task is written under the same name in both. -/
theorem sameStep_replaceTaskStatus (h : Alike ns s s') (name : String) (status : TaskStatus) :
    SameStep ns (.replaceTaskStatus ns name status) s s'
      (s.perform (.replaceTaskStatus ns name status))
      (s'.perform (.replaceTaskStatus ns name status)) := by
  unfold perform
  obtain ⟨hf, hf'⟩ | ⟨old, old', hf, hf', he⟩ := h.tasks.cases name
  · dsimp only
    rw [hf, hf']
    exact h.unchanged (.error _)
  · dsimp only
    rw [hf, hf']
    have hnew : CassandraTask.unversioned { old with status := some status } =
        CassandraTask.unversioned { old' with status := some status } :=
      congrArg (fun t : CassandraTask => { t with status := some status }) he
    exact ⟨.ok rfl, { h with tasks := h.tasks.insert _ hnew }, [_], rfl, rfl⟩

/-- A call about a namespace does the same in two stores that agree there, if the DataCenters stored
there are of the namespace. One lemma per call of the store is behind it. -/
theorem sameStep_perform (h : Alike ns s s') {call : StoreCall} (hc : call.ns = ns)
    (hdc : ∀ name dc, s.dataCenters.find? ⟨ns, name⟩ = some dc → dc.naming.ns = ns) :
    SameStep ns call s s' (s.perform call) (s'.perform call) := by
  subst hc
  cases call with
  | getStatefulSet ns name => exact h.unchanged (.ok (h.statefulSets name))
  | createStatefulSet ns sts => exact sameStep_createStatefulSet h sts
  | replaceStatefulSet ns sts => exact sameStep_replaceStatefulSet h sts
  | ensureService ns service => exact sameStep_ensureService h service
  | getDataCenter ns name =>
    exact h.unchanged (.ok ⟨h.dataCenters.find?_eq name, fun dc hf => hdc name dc hf⟩)
  | replaceDataCenterStatus ns name status => exact sameStep_replaceDataCenterStatus h name status
  | getTask ns name => exact h.unchanged (.ok (h.tasks name))
  | createTask ns task => exact sameStep_createTask h task
  | deleteTask ns name => exact sameStep_deleteTask h name
  | replaceTaskStatus ns name status => exact sameStep_replaceTaskStatus h name status

/-- It touches nothing that is stored in another namespace. Each call writes under one key at most,
and that key is in the namespace the call is about. -/
theorem spares_perform (s : MemoryStore) {call : StoreCall} (hc : call.ns = ns) :
    Spares ns s (s.perform call).2 := by
  subst hc
  have hrefl : ∀ ns, Spares ns s s := fun _ => .refl s
  -- A call writes to one map at most, under a name of its own namespace.
  cases call with
  | getStatefulSet ns name => exact hrefl ns
  | createStatefulSet ns sts =>
    unfold perform
    dsimp only
    split
    next => exact { hrefl ns with statefulSets := .insert _ _ _ }
    next => exact { hrefl ns with statefulSets := .insert _ _ _ }
  | replaceStatefulSet ns sts =>
    unfold perform
    dsimp only
    split
    next => exact hrefl ns
    next => exact { hrefl ns with statefulSets := .insert _ _ _ }
  | ensureService ns service =>
    unfold perform
    dsimp only
    split
    next => exact hrefl ns
    next => exact { hrefl ns with services := .insert _ _ _ }
  | getDataCenter ns name => exact hrefl ns
  | replaceDataCenterStatus ns name status =>
    unfold perform
    dsimp only
    split
    next => exact { hrefl ns with }
    next =>
      split
      next => exact hrefl ns
      next => exact { hrefl ns with dataCenters := .insert _ _ _ }
  | getTask ns name => exact hrefl ns
  | createTask ns task => exact { hrefl ns with tasks := .insert _ _ _ }
  | deleteTask ns name =>
    unfold perform
    dsimp only
    split
    next => exact { hrefl ns with tasks := .erase _ _ }
    next => exact hrefl ns
  | replaceTaskStatus ns name status =>
    unfold perform
    dsimp only
    split
    next => exact hrefl ns
    next => exact { hrefl ns with tasks := .insert _ _ _ }

end MemoryStore

end RackOperator
