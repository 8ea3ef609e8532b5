import RackOperator.Proofs.Pass.Stages
import RackOperator.Proofs.Task.Stages
import RackOperator.Proofs.Underway
import RackOperator.Reconcile
import Mathlib.Logic.Relation

/-!
# Runs around one task

A `Scene` is a world with everything that is under way in it around one task: calls that
reconcile the task, the advances they have put in line, the one advance whose turn it is,
and passes over any DataCenters. A `Step` is one effect of any of them, answered in any way
the world can, or a call, a pass or an advance that begins, or an advance that is left at
any point, or a restart that leaves everything.

`Runs` are the steps of a task of one spec: no step changes the spec, and once the
task is gone none brings it back. The objects that calls are made with may be outdated, but
are of the same spec.

What is under way goes by its program (`Formed`). Of all these programs, only advances
write the status of a task whose spec is valid (`Called.not_persist`, `not_persist_of_due`).
-/

namespace RackOperator

open Relation (ReflTransGen)
open WorkQueue (Job WorkUnit)

/-- The task stored under a name. -/
def World.task? (w : World) (key : NamespacedName) : Option CassandraTask :=
  w.store.tasks.find? key

/-- A task that is there was there before, and with the same spec. -/
def World.KeepsSpec (w w' : World) (key : NamespacedName) : Prop :=
  ∀ t', w'.task? key = some t' → ∃ t, w.task? key = some t ∧ t'.spec = t.spec

/-- A task that is there before and after has the same status. -/
def World.KeepsStatus (w w' : World) (key : NamespacedName) : Prop :=
  ∀ t t', w.task? key = some t → w'.task? key = some t' → t'.status = t.status

namespace Advance

/-- A world, and what is under way in it around one task. -/
structure Scene where
  world : World
  /-- Calls that reconcile the task. -/
  calls : List (Underway (Job Action)) := []
  /-- Advances in line. -/
  queued : List (WorkUnit Action) := []
  /-- The advance whose turn it is. -/
  turn : Option (Underway (Except OperatorError Action)) := none
  /-- Passes, each with its key. -/
  passes : List (ClusterKey × Underway (Except OperatorError Action)) := []
  /-- The pods whose sidecars the advances have asked so far. -/
  asked : List String := []

/-- What can happen next around a task of one spec. -/
inductive Step (config : Config) (key : NamespacedName) (spec : TaskSpec) : Scene → Scene → Prop
  /-- The task is reconciled, as some object of it says. -/
  | call (s : Scene) (t : CassandraTask) (hns : t.metadata.ns = some key.ns)
    (hname : t.metadata.anyName = key.name) (hspec : t.spec = spec) :
    Step config key spec s { s with calls := .fresh (Reconcile.task config t) :: s.calls }
  /-- A call does one effect. -/
  | callActs (s : Scene) {l₁ l₂ : List (Underway (Job Action))} {u u' : Underway (Job Action)}
    {w' : World} (hc : s.calls = l₁ ++ u :: l₂) (ha : u.Acts s.world u' w') :
    Step config key spec s { s with world := w', calls := l₁ ++ u' :: l₂ }
  /-- A call puts an advance in line. -/
  | queue (s : Scene) {l₁ l₂ : List (Underway (Job Action))} {h : History} {u : WorkUnit Action}
    (hc : s.calls = l₁ ++ ⟨h, .done (.queued u)⟩ :: l₂) :
    Step config key spec s { s with calls := l₁ ++ l₂, queued := s.queued ++ [u] }
  /-- It is the turn of an advance in line. -/
  | begin (s : Scene) {l₁ l₂ : List (WorkUnit Action)} {u : WorkUnit Action}
    (ht : s.turn = none) (hq : s.queued = l₁ ++ u :: l₂) :
    Step config key spec s { s with queued := l₁ ++ l₂, turn := some (.fresh u.work) }
  /-- The advance does one effect. -/
  | act (s : Scene) {h : History} {e : Effect} {next : e.Reply → Program _} {r : e.Reply}
    {w' : World} (ht : s.turn = some ⟨h, .perform e next⟩) (ha : Answers s.world e r w') :
    Step config key spec s { s with
      world := w', turn := some ⟨h ++ [⟨e, r⟩], next r⟩, asked := s.asked ++ e.invokes }
  /-- The advance ends, crashes or is cut short. -/
  | leave (s : Scene) : Step config key spec s { s with turn := none }
  /-- A pass begins. -/
  | pass (s : Scene) (k : ClusterKey) :
    Step config key spec s { s with
      passes := (k, .fresh (Pass.run config k).run) :: s.passes }
  /-- A pass does one effect. -/
  | passActs (s : Scene) {l₁ l₂ : List (ClusterKey × Underway (Except OperatorError Action))}
    {k : ClusterKey} {u u' : Underway (Except OperatorError Action)} {w' : World}
    (hp : s.passes = l₁ ++ (k, u) :: l₂) (ha : u.Acts s.world u' w') :
    Step config key spec s { s with world := w', passes := l₁ ++ (k, u') :: l₂ }
  /-- Everything under way is left. -/
  | restart (s : Scene) :
    Step config key spec s { s with calls := [], queued := [], turn := none, passes := [] }
  /-- The outside changes anything but the status of the task. -/
  | edit (s : Scene) {w' : World} (h : s.world.KeepsStatus w' key) :
    Step config key spec s { s with world := w' }

/-- Any number of steps around a task whose spec stays as it is, and that does not come back
once it is gone. -/
def Runs (config : Config) (key : NamespacedName) (spec : TaskSpec) : Scene → Scene → Prop :=
  ReflTransGen fun s s' => Step config key spec s s' ∧ s.world.KeepsSpec s'.world key

/-! ## What is under way -/

/-- What a call to reconcile a task does; it writes a status only where the spec is invalid. -/
inductive Called (key : NamespacedName) (spec : TaskSpec) : History → Effect → Prop
  | now (h : History) : Called key spec h .now
  | delete (h : History) : Called key spec h (.store (.deleteTask key.ns key.name))
  | reject (h : History) (reason : String) (s : TaskStatus)
    (hs : TaskKind.ofSpec spec = .error reason) :
    Called key spec h (.store (.replaceTaskStatus key.ns key.name s))

/-- A call puts nothing in line but advances of the task, and all under one key: this is why
they take turns. -/
def Queues (config : Config) (key : NamespacedName) (spec : TaskSpec) (_ : History)
    (job : Job Action) : Prop :=
  ∀ u, job = .queued u →
    u.key = ⟨key.ns, spec.datacenter⟩ ∧ u.work = (Advance.run config key).run

variable {config : Config} {key : NamespacedName} {spec : TaskSpec}

theorem queues_settled (h : History) (r : Except OperatorError Action) :
    Queues config key spec h (.settled r) := fun _ hu => by cases hu

/-- Work whose result settles a call, and puts nothing in line. -/
theorem holds_settled {w : Work Action} {h : History}
    (hw : w.Holds (Called key spec) (fun _ _ => True) h) :
    Program.Holds (Called key spec) (Queues config key spec) h
      (w.run >>= fun r => pure (.settled r)) :=
  (Program.holds_bind _ _ _).mpr
    (Program.Holds.mono (fun _ _ h => h) (fun h r _ => queues_settled h r) hw)

/-- A call over a task that has ended at most deletes it. -/
theorem holds_expire {t : CassandraTask} (hname : t.metadata.anyName = key.name) (h : History) :
    (Reconcile.expire config key.ns t).Holds (Called key spec) (fun _ _ => True) h := by
  unfold Reconcile.expire
  split
  next => exact (Work.holds_pure _).mpr trivial
  next finished _ =>
    refine (Work.holds_bind _ _).mpr ((Work.holds_effect .now).mpr ⟨.now h, fun now => ?_⟩)
    split
    next => exact (Work.holds_pure _).mpr trivial
    next =>
      rw [hname]
      refine (Work.holds_store_bind _ _).mpr ⟨.delete _, fun u => ?_⟩
      exact (Work.holds_pure _).mpr trivial

/-- A call over a task of no kind stores the fault, and only then. -/
theorem holds_reject {t : CassandraTask} (hname : t.metadata.anyName = key.name) {reason : String}
    (hs : TaskKind.ofSpec spec = .error reason) (h : History) :
    (Reconcile.reject key.ns t reason).Holds (Called key spec) (fun _ _ => True) h := by
  unfold Reconcile.reject
  rw [hname]
  dsimp only
  split
  next =>
    refine (Work.holds_store_bind _ _).mpr ⟨.reject _ reason _ hs, fun u => ?_⟩
    exact (Work.holds_pure _).mpr trivial
  next => exact (Work.holds_pure _).mpr trivial

/-- A call does what it may, and puts advances of its task in line: none for a task that has ended
or is at fault. -/
theorem holds_call {t : CassandraTask} (hns : t.metadata.ns = some key.ns)
    (hname : t.metadata.anyName = key.name) :
    (Reconcile.task config t).Holds (Called key t.spec) (Queues config key t.spec) [] := by
  unfold Reconcile.task
  rw [hns]
  dsimp only
  split
  next => exact queues_settled _ _
  next =>
    split
    next => exact holds_settled (holds_expire hname _)
    next =>
      cases hs : TaskKind.ofSpec t.spec with
      | error reason => exact holds_settled (holds_reject hname hs _)
      | ok kind =>
        intro u hu
        cases hu
        rw [hname]
        exact ⟨rfl, rfl⟩

/-- What is under way goes by its program. -/
structure Formed (config : Config) (key : NamespacedName) (spec : TaskSpec) (s : Scene) :
    Prop where
  calls : ∀ u ∈ s.calls, u.Holds (Called key spec) (Queues config key spec)
  queued : ∀ u ∈ s.queued,
    u.key = ⟨key.ns, spec.datacenter⟩ ∧ u.work = (Advance.run config key).run
  turn : ∀ u, s.turn = some u → u.Holds (Due key) (fun _ _ => True)
  passes : ∀ p ∈ s.passes, p.2.Holds (Pass.Due config p.1) (fun _ _ => True)

theorem formed_start (config : Config) (key : NamespacedName) (spec : TaskSpec) (w : World) :
    Formed config key spec ⟨w, [], [], none, [], []⟩ where
  calls _ hu := absurd hu List.not_mem_nil
  queued _ hu := absurd hu List.not_mem_nil
  turn _ hu := by cases hu
  passes _ hp := absurd hp List.not_mem_nil

/-- Each step leaves what is under way by the code: the calls, the advances queued and the one whose
turn it is, and the passes beside them. -/
theorem formed_step {s s' : Scene} (h : Step config key spec s s')
    (hf : Formed config key spec s) : Formed config key spec s' := by
  cases h with
  | call t hns hname hspec =>
    subst hspec
    exact ⟨List.forall_mem_cons.mpr ⟨holds_call hns hname, hf.calls⟩, hf.queued, hf.turn, hf.passes⟩
  | callActs hc ha =>
    have hu := forall_mem_at hf.calls hc
    exact ⟨forall_mem_put hf.calls hc (hu.acts ha), hf.queued, hf.turn, hf.passes⟩
  | @queue l₁ l₂ h u hc =>
    have hu := forall_mem_at hf.calls hc
    exact ⟨forall_mem_without hf.calls hc,
      List.forall_mem_append.mpr ⟨hf.queued, List.forall_mem_singleton.mpr (hu u rfl)⟩,
      hf.turn, hf.passes⟩
  -- The unit in the queue is the advance, which is `Due` from its first effect on.
  | @begin l₁ l₂ u ht hq =>
    refine ⟨hf.calls, forall_mem_without hf.queued hq, fun v hv => ?_, hf.passes⟩
    cases hv
    rw [(forall_mem_at hf.queued hq).2]
    exact Program.Holds.mono (fun _ _ h => h) (fun _ _ _ => trivial) (holds_run config key)
  | @act h e next r w' ht ha =>
    refine ⟨hf.calls, hf.queued, fun u hu => ?_, hf.passes⟩
    cases hu
    exact (hf.turn _ ht).2 r
  | leave => exact ⟨hf.calls, hf.queued, (fun u hu => by cases hu), hf.passes⟩
  | pass k =>
    have hk : (Underway.fresh (Pass.run config k).run).Holds (Pass.Due config k) fun _ _ => True :=
      Program.Holds.mono (fun _ _ h => h) (fun _ _ _ => trivial) (Pass.holds_run config k)
    exact ⟨hf.calls, hf.queued, hf.turn, List.forall_mem_cons.mpr ⟨hk, hf.passes⟩⟩
  | @passActs l₁ l₂ k u u' w' hp ha =>
    have hu := forall_mem_at hf.passes hp
    have hu' : u'.Holds (Pass.Due config k) fun _ _ => True := hu.acts ha
    exact ⟨hf.calls, hf.queued, hf.turn, forall_mem_put hf.passes hp hu'⟩
  | restart =>
    have hstart := formed_start config key spec s.world
    exact ⟨hstart.calls, hstart.queued, hstart.turn, hstart.passes⟩
  | edit he => exact ⟨hf.calls, hf.queued, hf.turn, hf.passes⟩

/-! ## Who writes the status of the task -/

/-- No pass writes the status of a task. -/
theorem not_persist_of_due {k : ClusterKey} {h : History} {e : Effect}
    (hd : Pass.Due config k h e) (name : NamespacedName) (s : TaskStatus) :
    e ≠ .store (.replaceTaskStatus name.ns name.name s) := by
  cases hd <;> simp

/-- No call writes the status of a task whose spec is valid. -/
theorem Called.not_persist {h : History} {e : Effect} (hc : Called key spec h e)
    {kind : TaskKind} (hk : TaskKind.ofSpec spec = .ok kind) (s : TaskStatus) :
    e ≠ .store (.replaceTaskStatus key.ns key.name s) := by
  cases hc with
  | now => simp
  | delete => simp
  | reject reason s hs =>
    rw [hk] at hs
    cases hs

/-- An effect leaves a task as it is, unless it creates, deletes or writes it. Creating it again
keeps its status. -/
theorem task?_cases {w w' : World} {e : Effect} {r : e.Reply} (ha : Answers w e r w')
    (key : NamespacedName) :
    w'.task? key = w.task? key ∨
    (∃ ns task, e = .store (.createTask ns task)) ∧ (∀ t, w.task? key = some t →
      ∃ t', w'.task? key = some t' ∧ t'.status = t.status) ∨
    e = .store (.deleteTask key.ns key.name) ∧ w'.task? key = none ∨
    ∃ status, e = .store (.replaceTaskStatus key.ns key.name status) ∧
      w'.task? key = (w.task? key).map fun t => { t with status := some status } := by
  unfold World.task?
  cases e with
  | store call =>
    -- A call that failed has left the store as it was or has done its work unacknowledged.
    rcases ha.store_cases with ⟨hs, -⟩ | ⟨hs, -⟩
    · exact .inl (by rw [hs])
    · rw [hs]
      cases call with
      | createTask ns task =>
        exact .inr (.inl ⟨⟨ns, task, rfl⟩, fun t ht => MemoryStore.status_createTask _ ns task ht⟩)
      | deleteTask ns name =>
        rw [MemoryStore.find?_deleteTask]
        split
        next hk =>
          subst hk
          exact .inr (.inr (.inl ⟨rfl, rfl⟩))
        next => exact .inl rfl
      | replaceTaskStatus ns name status =>
        rw [MemoryStore.find?_replaceTaskStatus]
        split
        next hk =>
          subst hk
          exact .inr (.inr (.inr ⟨status, rfl, rfl⟩))
        next => exact .inl rfl
      | _ => exact .inl (by rw [MemoryStore.tasks_perform _ rfl])
  | _ => exact .inl (by rw [ha.store_eq (by simp)])

/-- What does not write the status of the task keeps it, or takes the task away with it. -/
theorem keepsStatus_of_answers {w w' : World} {e : Effect} {r : e.Reply} (ha : Answers w e r w')
    (he : ∀ s, e ≠ .store (.replaceTaskStatus key.ns key.name s)) : w.KeepsStatus w' key := by
  intro t t' ht ht'
  rcases task?_cases ha key with hsame | ⟨-, hmade⟩ | ⟨-, hgone⟩ | ⟨status, hwrite, -⟩
  · rw [hsame, ht] at ht'
    rw [Option.some.inj ht']
  · obtain ⟨t₁, ht₁, hst⟩ := hmade t ht
    rw [ht₁] at ht'
    rw [← Option.some.inj ht', hst]
  · rw [hgone] at ht'
    cases ht'
  · exact absurd hwrite (he status)

/-- What does nothing to a task keeps its status. -/
theorem keepsStatus_of_onTask {w w' : World} {e : Effect} {r : e.Reply} (ha : Answers w e r w')
    (he : e.onTask = false) : w.KeepsStatus w' key := by
  refine keepsStatus_of_answers ha fun status hstatus => ?_
  rw [hstatus] at he
  cases he

/-! ## Who keeps the spec of the task -/

theorem keepsSpec_refl (w : World) (key : NamespacedName) : w.KeepsSpec w key :=
  fun t ht => ⟨t, ht, rfl⟩

/-- An advance leaves the spec as it is and brings no task back. -/
theorem keepsSpec_of_due {w w' : World} {h : History} {e : Effect} {r : e.Reply}
    (ha : Answers w e r w') (hd : Due key h e) : w.KeepsSpec w' key := by
  intro t ht
  rcases task?_cases ha key with hsame | ⟨⟨ns, task, hmake⟩, -⟩ | ⟨hdelete, -⟩ | ⟨status, -, hnow⟩
  · exact ⟨t, hsame ▸ ht, rfl⟩
  · rw [hmake] at hd
    cases hd with
    | act he => cases he
  · rw [hdelete] at hd
    cases hd with
    | act he => cases he
  · rw [hnow] at ht
    obtain ⟨t₀, ht₀, rfl⟩ := Option.map_eq_some_iff.mp ht
    exact ⟨t₀, ht₀, rfl⟩

/-- An advance whose turn it is can do effects while nothing else goes on, one after another. What
it asks of sidecars on the way is added to what has been asked. -/
theorem runs_forward (n : Nat) {s : Scene} {u : Underway (Except OperatorError Action)}
    (hu : u.Holds (Due key) (fun _ _ => True)) (hs : s.turn = some u) :
    ∃ h, (u.forward n s.world).2.history = u.history ++ h ∧
      Runs config key spec s { s with
        world := (u.forward n s.world).1
        turn := some (u.forward n s.world).2
        asked := s.asked ++ h.invoked } := by
  -- A program at its end makes no step, however many are left.
  have hstay : ∀ {s : Scene} {u : Underway (Except OperatorError Action)}, s.turn = some u →
      ∃ h, u.history = u.history ++ h ∧ Runs config key spec s
        { s with turn := some u, asked := s.asked ++ h.invoked } := by
    intro s u hs
    refine ⟨[], (List.append_nil _).symm, ?_⟩
    rw [← hs, show s.asked ++ History.invoked [] = s.asked from List.append_nil _]
    exact .refl
  induction n generalizing s u with
  | zero => exact hstay hs
  | succ n ih =>
    obtain ⟨h, rest⟩ := u
    cases rest with
    | done a => exact hstay hs
    | crash => exact hstay hs
    | perform e next =>
      have ha := Answers.answers_perform s.world e
      have hstep : Step config key spec s _ := .act s hs ha
      let s₁ : Scene := { s with
        world := (s.world.perform e).2
        turn := some ⟨h ++ [⟨e, (s.world.perform e).1⟩], next (s.world.perform e).1⟩
        asked := s.asked ++ e.invokes }
      have hs₁ : s₁.turn = some ⟨_, _⟩ := rfl
      obtain ⟨h', he, hr⟩ := ih (hu.acts (.act ha)) hs₁
      refine ⟨⟨e, (s.world.perform e).1⟩ :: h', ?_, ?_⟩
      · rw [List.append_cons]
        exact he
      · have hinv : s.asked ++ History.invoked (⟨e, (s.world.perform e).1⟩ :: h') =
            s.asked ++ e.invokes ++ h'.invoked := by
          rw [List.append_assoc]
          rfl
        rw [hinv]
        exact ReflTransGen.head ⟨hstep, keepsSpec_of_due ha hu.1⟩ hr

end Advance

end RackOperator
