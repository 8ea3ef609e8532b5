import RackOperator.Advance
import RackOperator.Pass
import RackOperator.Proofs.Memory

/-!
# What was done, and what is on record of it

Of an errand, a pass over a DataCenter or an advance of a task, there are two accounts. One is the
trail: the events it has put on record, in order (`History.events`). The other is what it has really
done (`Errand.deeds`), and that is read off the store calls that were acknowledged, each beside the
store it was made on (`StoreCall.deeds`), and off the answers of the sidecars a pass has asked
(`Errand.partings`); no entry of the trail is looked at. `Deed.event` is the event that a deed is to
leave behind.

`Errand.Faithful` says that the trail is that of the deeds, one event for each and in their order.
It is kept by an effect that is no deed (`Faithful.idle`) and by one that is and is put on record at
once (`Faithful.told`).
-/

namespace RackOperator

open Work

/-- What is run for a resource, to its end. -/
inductive Errand where
  /-- A pass over a DataCenter. -/
  | pass (key : ClusterKey)
  /-- An advance of a task. -/
  | advance (key : NamespacedName)

namespace Errand

/-- The object an errand is about. -/
def about : Errand → NamespacedName
  | pass key => key
  | advance key => key

/-- The work of an errand. -/
def work (config : Config) : Errand → Work Action
  | pass key => Pass.run config key
  | advance key => Advance.run config key

end Errand

/-! ## Deeds and their events -/

/-- Something done that belongs on record. -/
inductive Deed where
  /-- The StatefulSet of a rack was replaced at the count it had. -/
  | rolled (rack : String) (generation : Option Int)
  /-- The StatefulSet of a rack was replaced at another count. -/
  | resized (rack : String) (before after : Int)
  /-- A member was asked to leave, and this is what came of it. -/
  | parted (pod : String) (outcome : Except OperatorError Unit)
  /-- A task was created. -/
  | tidied (task : String)
  /-- A task got its first entries. -/
  | started (kind : String) (members : Nat)
  /-- A task has ended. -/
  | finished (kind : String) (phase : TaskPhase) (message : Option String)

/-- An event about an object, with nothing said beyond its outcome. -/
def AuditEvent.plain (time : String) (about : NamespacedName) (eventType : AuditKind)
    (severity : AuditSeverity) (outcome : String) : AuditEvent where
  timestamp := time
  eventType := eventType
  severity := severity
  subject := some serviceAccount
  resource := about.name
  ns := about.ns
  outcome := outcome

/-- The event a deed is to leave behind. -/
def Deed.event (time : String) (about : NamespacedName) : Deed → AuditEvent
  | rolled rack generation =>
    { AuditEvent.plain time about .rackUpdated .info "success" with
      target := some rack
      metadata := some (.obj [("generation", Json.orNull (generation.map .int))]) }
  | resized rack before after =>
    { AuditEvent.plain time about (if before < after then .rackScaledUp else .rackScaledDown)
        .info "success" with
      target := some rack
      metadata := some (.obj [("from", .int before), ("to", .int after)]) }
  | parted pod (.ok _) =>
    { AuditEvent.plain time about .decommissionRequested .info "success" with
      target := some pod
      message := some ("Requested decommission of " ++ pod) }
  | parted pod (.error e) =>
    { AuditEvent.plain time about .decommissionFailed .warning "error" with
      target := some pod
      message := some e.message }
  | tidied task =>
    { AuditEvent.plain time about .cleanupTriggered .info "success" with target := some task }
  | started kind members =>
    { AuditEvent.plain time about .taskStarted .info "started" with
      metadata := some (.obj [("kind", .str kind), ("members", Json.nat members)]) }
  | finished kind phase message =>
    { AuditEvent.plain time about .taskFinished (if phase = .succeed then .info else .warning)
        phase.name with
      message := message
      metadata := some (.texts [("kind", kind)]) }

/-! ## The deeds of store calls -/

/-- The rack a StatefulSet is of, by its label. -/
def StatefulSet.rackName (s : StatefulSet) : String :=
  (s.metadata.labels.bind (·.find? rackLabel)).getD ""

/-- What it is to put one StatefulSet in place of another. -/
def Deed.ofReplacement (old new : StatefulSet) : Deed :=
  if new.replicas = old.replicas then .rolled new.rackName new.recordedGeneration
  else .resized new.rackName old.replicas new.replicas

/-- A status fills the empty progress of the one before it: the phase is RUNNING from then on and a
start time is noted, and nothing else is touched. -/
def TaskStatus.StartsFrom (new old : TaskStatus) : Prop :=
  old.pods.isEmpty = true ∧ new.startTime.isSome = true ∧
    new = { old with pods := new.pods, phase := .running, startTime := new.startTime }

/-- A status has ended where the one before it had not. -/
def TaskStatus.EndsFrom (new old : TaskStatus) : Prop :=
  old.phase.isTerminal = false ∧ new.phase.isTerminal = true

instance (new old : TaskStatus) : Decidable (new.StartsFrom old) :=
  inferInstanceAs (Decidable (_ ∧ _ ∧ _))

instance (new old : TaskStatus) : Decidable (new.EndsFrom old) :=
  inferInstanceAs (Decidable (_ ∧ _))

/-- The name of the kind of a task. -/
def CassandraTask.kindName (t : CassandraTask) : String :=
  match TaskKind.ofSpec t.spec with
  | .ok kind => kind.name
  | .error _ => ""

/-- What it is to give a task a status. -/
def Deed.ofStatus (t : CassandraTask) (new : TaskStatus) : List Deed :=
  (if new.StartsFrom (t.status.getD {}) then [.started t.kindName new.pods.size] else []) ++
    (if new.EndsFrom (t.status.getD {}) then [.finished t.kindName new.phase new.lastMessage]
      else [])

/-- What a call that is acknowledged has done to a store. -/
def StoreCall.deeds (s : MemoryStore) : StoreCall → List Deed
  | .createStatefulSet ns sts =>
    (s.statefulSets.find? ⟨ns, sts.metadata.anyName⟩).toList.map (Deed.ofReplacement · sts)
  | .replaceStatefulSet ns sts =>
    (s.statefulSets.find? ⟨ns, sts.metadata.anyName⟩).toList.map (Deed.ofReplacement · sts)
  | .createTask _ t => [.tidied t.metadata.anyName]
  | .replaceTaskStatus ns name status =>
    (s.tasks.find? ⟨ns, name⟩).toList.flatMap (Deed.ofStatus · status)
  | _ => []

namespace Answered

/-- What an effect has done to a store; a call that failed has done nothing. -/
def deeds (s : MemoryStore) : Answered → List Deed
  | ⟨.store call, r⟩ =>
    match (r : Except OperatorError call.Value) with
    | .ok _ => call.deeds s
    | .error _ => []
  | _ => []

/-- The store after an effect. -/
def after (s : MemoryStore) : Answered → MemoryStore
  | ⟨.store call, _⟩ => (s.perform call).2
  | _ => s

/-- A store call that does nothing worth telling is no deed, whatever the answer. -/
theorem deeds_store_eq_nil {s : MemoryStore} {call : StoreCall} (h : call.deeds s = [])
    (r : Except OperatorError call.Value) : deeds s ⟨.store call, r⟩ = [] := by
  cases r with
  | ok v => exact h
  | error e => rfl

end Answered

/-- The event an effect puts on record. -/
def Effect.event? (time : String) : Effect → Option AuditEvent
  | .audit about entry => some (entry.event time about)
  | _ => none

namespace History

/-- The events put on record, oldest first. -/
def events (time : String) (h : History) : List AuditEvent :=
  h.filterMap (·.effect.event? time)

/-- The store after a history. -/
def after (s : MemoryStore) (h : History) : MemoryStore := h.foldl Answered.after s

/-- What came of asking a member to leave whose sidecar has answered so far: the last answer, up to
where a sidecar is got hold of again. -/
def outcome (answer : Except OperatorError Unit) : History → Except OperatorError Unit
  | [] => answer
  | ⟨.connect _, _⟩ :: _ => answer
  | ⟨.request _ .decommission, later⟩ :: h => outcome (later : Except OperatorError Unit) h
  | _ :: h => outcome answer h

/-- The events of two stretches are those of the first and then those of the second. -/
theorem events_append (time : String) (h h' : History) :
    events time (h ++ h') = events time h ++ events time h' :=
  List.filterMap_append

/-- The store after two stretches is that after the second, begun where the first ended. -/
theorem after_append (s : MemoryStore) (h h' : History) :
    after s (h ++ h') = after (after s h) h' :=
  List.foldl_append

theorem not_sidecar_of_sidecars {h : History} (hh : h.sidecars = []) :
    ∀ a ∈ h, a.effect.isSidecar = false :=
  fun _ ha => Bool.eq_false_iff.mpr (List.filter_eq_nil_iff.mp hh _ (List.mem_map_of_mem ha))

theorem outcome_of_not_sidecar {h : History} (hh : ∀ a ∈ h, a.effect.isSidecar = false)
    (answer : Except OperatorError Unit) : outcome answer h = answer := by
  induction h with
  | nil => rfl
  | cons a h ih =>
    obtain ⟨ha, hrest⟩ := List.forall_mem_cons.mp hh
    obtain ⟨effect, r⟩ := a
    cases effect with
    | connect m => cases ha
    | request m r => cases ha
    | _ => exact ih hrest

/-- Effects that are not about sidecars do not tell what came of it, so the outcome is that of the
attempts made before. -/
theorem outcome_append {h' : History} (hh : ∀ a ∈ h', a.effect.isSidecar = false)
    (answer : Except OperatorError Unit) (h : History) :
    outcome answer (h ++ h') = outcome answer h := by
  induction h generalizing answer with
  | nil => exact outcome_of_not_sidecar hh answer
  | cons a h ih =>
    obtain ⟨effect, r⟩ := a
    cases effect with
    | connect m => rfl
    | request m request =>
      cases request with
      | decommission => exact ih _
      | _ => exact ih answer
    | _ => exact ih answer

end History

namespace Errand

/-- The members an effect has had asked to leave: a pass gets hold of a sidecar for nothing else,
and what comes of it is told by the history that goes on from there. -/
def partings : Errand → Answered → History → List Deed
  | pass _, ⟨.connect m, r⟩, h => [.parted m.name (h.outcome (r : Except OperatorError Unit))]
  | _, _, _ => []

/-- What an errand begun over a store has done. -/
def deeds (e : Errand) : MemoryStore → History → List Deed
  | _, [] => []
  | s, a :: h => a.deeds s ++ e.partings a h ++ e.deeds (a.after s) h

/-- What a history goes on with tells nothing more of the members asked to leave in it. -/
def Apart (e : Errand) (h h' : History) : Prop :=
  ∀ a ∈ h, ∀ rest, e.partings a (rest ++ h') = e.partings a rest

/-- The trail of an errand is that of its deeds. -/
structure Faithful (e : Errand) (s : MemoryStore) (h : History) (s' : MemoryStore) : Prop where
  after : h.after s = s'
  trail : ∀ time, h.events time = (e.deeds s h).map (Deed.event time e.about)

/-- An effect is no deed and puts nothing on record. -/
structure Idle (e : Errand) (s : MemoryStore) (a : Answered) : Prop where
  deeds : a.deeds s = []
  event : ∀ time, a.effect.event? time = none
  partings : ∀ rest, e.partings a rest = []

variable {e : Errand} {s s₁ s' : MemoryStore} {a : Answered} {h h' : History} {d : Deed}

/-- Only an effect about a sidecar can be the beginning of a parting. -/
theorem partings_of_not_sidecar (e : Errand) (ha : a.effect.isSidecar = false) (rest : History) :
    e.partings a rest = [] := by
  obtain ⟨effect, r⟩ := a
  cases e with
  | advance key => rfl
  | pass key =>
    cases effect with
    | connect m => cases ha
    | _ => rfl

theorem apart_advance (key : NamespacedName) (h h' : History) : (advance key).Apart h h' :=
  fun _ _ _ => rfl

/-- Where no sidecar was asked yet, no member was asked to leave, so two stretches can be told
apart. -/
theorem apart_of_none (hh : h.sidecars = []) (e : Errand) (h' : History) : e.Apart h h' := by
  intro a ha rest
  have hnot := History.not_sidecar_of_sidecars hh a ha
  rw [partings_of_not_sidecar e hnot, partings_of_not_sidecar e hnot]

/-- Where no sidecar is asked any more, what came of asking members to leave is settled. -/
theorem apart_of_no_more (hh : h'.sidecars = []) (e : Errand) (h : History) : e.Apart h h' := by
  rintro ⟨effect, r⟩ - rest
  cases e with
  | advance key => rfl
  | pass key =>
    cases effect with
    | connect m =>
      exact congrArg (fun x => [Deed.parted m.name x])
        (History.outcome_append (History.not_sidecar_of_sidecars hh) _ _)
    | _ => rfl

/-- The deeds of two stretches add up, unless attempts to have a member leave go from one into the
other. -/
theorem deeds_append (hh : e.Apart h h') (s : MemoryStore) :
    e.deeds s (h ++ h') = e.deeds s h ++ e.deeds (h.after s) h' := by
  induction h generalizing s with
  | nil => rfl
  | cons a h ih =>
    obtain ⟨ha, hh⟩ := List.forall_mem_cons.mp hh
    show a.deeds s ++ e.partings a (h ++ h') ++ e.deeds (a.after s) (h ++ h') =
      a.deeds s ++ e.partings a h ++ e.deeds (a.after s) h ++
        e.deeds (History.after (a.after s) h) h'
    rw [ha, ih hh, List.append_assoc, List.append_assoc, List.append_assoc]

namespace Faithful

theorem nil (e : Errand) (s : MemoryStore) : e.Faithful s [] s := ⟨rfl, fun _ => rfl⟩

/-- A trail that is faithful in two stretches is faithful, if these can be told apart. -/
theorem append (hf : e.Faithful s h s₁) (hh : e.Apart h h') (hf' : e.Faithful s₁ h' s') :
    e.Faithful s (h ++ h') s' where
  after := by rw [History.after_append, hf.after, hf'.after]
  trail time := by
    rw [History.events_append, deeds_append hh, List.map_append, hf.after, hf.trail, hf'.trail]

/-- One effect that is no deed needs no event. -/
theorem idle (hi : e.Idle s a) : e.Faithful s [a] (a.after s) where
  after := rfl
  trail time := by
    have hevents : History.events time [a] = [] := List.filterMap_cons_none (hi.event time)
    have hdeeds : e.deeds s [a] = a.deeds s ++ e.partings a [] ++ [] := rfl
    rw [hevents, hdeeds, hi.deeds, hi.partings]
    rfl

/-- One deed, and the event behind it, which is about the same object and says the same. -/
theorem told {about : NamespacedName} {entry : AuditEntry} (hd : a.deeds s = [d])
    (ha : a.effect.isSidecar = false) (hev : ∀ time, a.effect.event? time = none)
    (hentry : ∀ time, entry.event time about = d.event time e.about) :
    e.Faithful s [a, ⟨.audit about entry, ()⟩] (a.after s) where
  after := rfl
  trail time := by
    let b : Answered := ⟨.audit about entry, ()⟩
    have hevents : History.events time [a, b] = [entry.event time about] :=
      List.filterMap_cons_none (hev time)
    have hdeeds : e.deeds s [a, b] =
        a.deeds s ++ e.partings a [b] ++ ([] ++ e.partings b [] ++ []) := rfl
    rw [hevents, hdeeds, hd, partings_of_not_sidecar e ha, partings_of_not_sidecar e rfl, hentry]
    rfl

/-- Effects that are no deeds whatever store they meet may be done in any number. -/
theorem of_idle (hh : ∀ a ∈ h, ∀ s, e.Idle s a) (s : MemoryStore) :
    e.Faithful s h (h.after s) := by
  induction h generalizing s with
  | nil => exact .nil e s
  | cons a h ih =>
    obtain ⟨ha, hh⟩ := List.forall_mem_cons.mp hh
    have hapart : e.Apart [a] h := List.forall_mem_singleton.mpr fun rest =>
      ((ha s).partings _).trans ((ha s).partings rest).symm
    exact (idle (ha s)).append hapart (ih hh _)

end Faithful

end Errand

end RackOperator
