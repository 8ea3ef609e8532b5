import RackOperator.Fixture
import RackOperator.Proofs.Task.Runs

/-!
# No member is asked twice

A task asks each member's sidecar at most once, however often its advances are cut short
and whichever of its status writes are lost. Nothing but the stored status carries this from
one advance to the next: a pod is stored to be RUNNING before its sidecar is asked, an entry
that has left WAITING never returns, and creating the task again keeps its status.

`Accounted` is the invariant. The stored status touches every pod asked, and the advance
under way knows of them: a pod that was asked is touched by the status it has read, or was
asked by itself.
-/

namespace RackOperator.Advance

open Relation (ReflTransGen)

variable {config : Config} {key : NamespacedName} {spec : TaskSpec} {s s' : Scene}

/-! ## One spec -/

/-- A task that is read is the one stored, at the moment of reading. -/
theorem task?_of_reading {w w' : World} {r : Except OperatorError (Option CassandraTask)}
    (ha : Answers w (.store (.getTask key.ns key.name)) r w') {t : CassandraTask}
    (hr : r = .ok (some t)) : w.task? key = some t := by
  subst hr
  rcases ha.store_cases with ⟨-, err, he⟩ | ⟨-, he | ⟨err, he⟩⟩
  · cases he
  · exact (Except.ok.inj he).symm
  · cases he

/-- The task stored, and the one the advance under way has read, are of a spec. -/
structure OfSpec (key : NamespacedName) (spec : TaskSpec) (s : Scene) : Prop where
  stored : ∀ t, s.world.task? key = some t → t.spec = spec
  read : ∀ u, s.turn = some u → ∀ t, reading key (some t) ∈ u.history → t.spec = spec

/-- The spec of the task stays what it is, whatever is done. An advance that has read the task thus
goes by the spec that is stored, even if it has read it long ago. -/
theorem ofSpec_step (h : Step config key spec s s') (hk : s.world.KeepsSpec s'.world key)
    (hi : OfSpec key spec s) : OfSpec key spec s' := by
  have hstored : ∀ t, s'.world.task? key = some t → t.spec = spec := by
    intro t' ht'
    obtain ⟨t, ht, he⟩ := hk t' ht'
    rw [he]
    exact hi.stored t ht
  refine ⟨hstored, ?_⟩
  cases h with
  | begin ht hq =>
    intro u hu t ht
    cases hu
    cases ht
  -- The only step that reads: what it read is what the store held.
  | @act h e next r w' ht ha =>
    intro u hu t hread
    cases hu
    rcases List.mem_append.mp hread with hread | hread
    · exact hi.read _ ht t hread
    · cases List.mem_singleton.mp hread
      exact hi.stored t (task?_of_reading ha rfl)
  | leave =>
    intro u hu
    cases hu
  | restart =>
    intro u hu
    cases hu
  | _ => exact hi.read

/-- Sidecars are asked for a task whose spec is valid, so an invalid one has nobody asked. -/
theorem valid_of_invokes {h : History} {e : Effect} (hd : Due key h e) {pod : String}
    (hp : pod ∈ e.invokes) :
    ∃ t kind, reading key (some t) ∈ h ∧ TaskKind.ofSpec t.spec = .ok kind := by
  cases hd with
  | read => cases hp
  | persist hr hs => cases hp
  | act he hnd hnew => exact (hnew pod hp).2.2

/-- With a spec that is at fault no step asks anybody. -/
theorem asked_nil_step {reason : String} (hspec : TaskKind.ofSpec spec = .error reason)
    (hf : Formed config key spec s) (hi : OfSpec key spec s) (h : Step config key spec s s')
    (ha : s.asked = []) : s'.asked = [] := by
  cases h with
  | @act h e next r w' ht _ =>
    have hd : Due key h e := (hf.turn _ ht).1
    have hnone : e.invokes = [] := by
      refine List.eq_nil_iff_forall_not_mem.mpr fun pod hp => ?_
      obtain ⟨t, kind, hread, hkind⟩ := valid_of_invokes hd hp
      rw [hi.read _ ht t hread, hspec] at hkind
      cases hkind
    show s.asked ++ e.invokes = []
    rw [ha, hnone]
    rfl
  | _ => exact ha

/-! ## What is asked is touched -/

/-- An advance that has done a history knows of every pod asked, and the store of what the
history shows. -/
structure Aware (key : NamespacedName) (w : World) (asked : List String) (h : History) :
    Prop where
  read : ∀ t, reading key (some t) ∈ h → ∀ pod ∈ asked,
    pod ∈ h.invoked ∨ (t.status.getD {}).Touched pod
  invoked : ∀ pod ∈ h.invoked, Recorded key h pod
  stored : ∀ t, w.task? key = some t → ∀ pod, Recorded key h pod →
    (t.status.getD {}).Touched pod

/-- No pod was asked twice, and all that were asked are touched. -/
structure Accounted (key : NamespacedName) (s : Scene) : Prop where
  once : s.asked.Nodup
  stored : ∀ t, s.world.task? key = some t → ∀ pod ∈ s.asked, (t.status.getD {}).Touched pod
  turn : ∀ u, s.turn = some u → Aware key s.world s.asked u.history

theorem aware_nil (w : World) (asked : List String) : Aware key w asked [] where
  read _ h := by cases h
  invoked _ h := by cases h
  stored _ _ pod hr := by
    obtain ⟨s, hs, -⟩ := hr
    cases hs with
    | read t h => cases h
    | stored s h => cases h

/-- A status that is kept touches what it touched. -/
theorem touched_of_keeps {w w' : World} (hs : w.KeepsStatus w' key) (hk : w.KeepsSpec w' key)
    {pod : String} (h : ∀ t, w.task? key = some t → (t.status.getD {}).Touched pod) :
    ∀ t, w'.task? key = some t → (t.status.getD {}).Touched pod := by
  intro t' ht'
  obtain ⟨t, ht, -⟩ := hk t' ht'
  rw [hs t t' ht ht']
  exact h t ht

/-- What an advance is aware of stays true while spec and status of its task are kept. -/
theorem Aware.keeps {w w' : World} {asked : List String} {h : History}
    (ha : Aware key w asked h) (hs : w.KeepsStatus w' key) (hk : w.KeepsSpec w' key) :
    Aware key w' asked h :=
  ⟨ha.read, ha.invoked,
    fun t ht pod hr => touched_of_keeps hs hk (fun t ht => ha.stored t ht pod hr) t ht⟩

theorem Accounted.keeps {w' : World} (ha : Accounted key s)
    (hs : s.world.KeepsStatus w' key) (hk : s.world.KeepsSpec w' key) {calls queued passes} :
    Accounted key { s with world := w', calls, queued, passes } :=
  ⟨ha.once,
    fun t ht pod hp => touched_of_keeps hs hk (fun t ht => ha.stored t ht pod hp) t ht,
    fun u hu => (ha.turn u hu).keeps hs hk⟩

/-! ## The advance under way -/

/-- A status write is refused, or what is stored then is the status, whatever the answer says. -/
theorem persist_cases {w w' : World} {status : TaskStatus} {r : Except OperatorError Unit}
    (ha : Answers w (.store (.replaceTaskStatus key.ns key.name status)) r w') :
    w'.task? key = w.task? key ∧ (∃ err, r = .error err) ∨
      ∀ t, w'.task? key = some t → t.status = some status := by
  rcases ha.store_cases with ⟨hs, hr⟩ | ⟨hs, -⟩
  · exact .inl ⟨by unfold World.task?; rw [hs], hr⟩
  · refine .inr fun t ht => ?_
    unfold World.task? at ht
    rw [hs, MemoryStore.find?_replaceTaskStatus, if_pos rfl] at ht
    obtain ⟨t₀, -, rfl⟩ := Option.map_eq_some_iff.mp ht
    rfl

/-- A status write shows the status, if it is acknowledged. If it is not, the advance has learnt
nothing. -/
theorem recorded_persist {status : TaskStatus} {r : Except OperatorError Unit} {pod : String}
    (hr : Recorded key [⟨.store (.replaceTaskStatus key.ns key.name status), r⟩] pod) :
    (∃ u, r = .ok u) ∧ status.Touched pod := by
  obtain ⟨s, hs, ht⟩ := hr
  cases hs with
  | read t hm => cases List.mem_singleton.mp hm
  | stored s hm =>
    cases List.mem_singleton.mp hm
    exact ⟨⟨(), rfl⟩, ht⟩

/-- What is done after the task has been read does not read it again. -/
theorem mem_of_mem_concat {h : History} {a : Answered} {t : CassandraTask}
    (ha : ∀ t, a ≠ reading key (some t)) (ht : reading key (some t) ∈ h ++ [a]) :
    reading key (some t) ∈ h :=
  (List.mem_append.mp ht).resolve_right fun hm => ha t (List.mem_singleton.mp hm).symm

section Act

variable {w' : World} {h : History} {rest : Program (Except OperatorError Action)}

/-- An advance that reads its task is aware of all that was asked so far. -/
theorem accounted_read {r : Except OperatorError (Option CassandraTask)}
    (ha : Answers s.world (.store (.getTask key.ns key.name)) r w')
    (hk : s.world.KeepsSpec w' key) (hi : Accounted key s) :
    Accounted key { s with
      world := w', turn := some ⟨[⟨.store (.getTask key.ns key.name), r⟩], rest⟩ } := by
  -- Reading changes nothing, so what the turn knows is what the store has.
  have hs : s.world.KeepsStatus w' key := keepsStatus_of_answers ha (by simp)
  have hstored : ∀ pod ∈ s.asked, ∀ t, w'.task? key = some t → (t.status.getD {}).Touched pod :=
    fun pod hp => touched_of_keeps hs hk fun t ht => hi.stored t ht pod hp
  refine ⟨hi.once, fun t ht pod hp => hstored pod hp t ht, fun u hu => ?_⟩
  cases hu
  refine ⟨fun t ht pod hp => .inr ?_, fun pod hp => (by cases hp), fun t ht pod hr => ?_⟩
  · cases List.mem_singleton.mp ht
    exact hi.stored t (task?_of_reading ha rfl) pod hp
  · obtain ⟨status, hshows, htouched⟩ := hr
    cases hshows with
    | read t₀ hm =>
      cases List.mem_singleton.mp hm
      rw [hs t₀ t (task?_of_reading ha rfl) ht]
      exact htouched
    | stored status hm => cases List.mem_singleton.mp hm

/-- A status write loses no touch, whether it takes effect or not. The status written extends the
one the advance knows, and that one has all the touches there are. -/
theorem accounted_persist {status : TaskStatus} {r : Except OperatorError Unit}
    (hu : Aware key s.world s.asked h) (hr : ∃ t, reading key (some t) ∈ h)
    (hs : ∀ pod, Recorded key h pod → status.Touched pod)
    (ha : Answers s.world (.store (.replaceTaskStatus key.ns key.name status)) r w')
    (hi : Accounted key s) :
    Accounted key { s with
      world := w'
      turn := some ⟨h ++ [⟨.store (.replaceTaskStatus key.ns key.name status), r⟩], rest⟩ } := by
  obtain ⟨t₀, ht₀⟩ := hr
  have hasked : ∀ pod ∈ s.asked, Recorded key h pod := by
    intro pod hp
    rcases hu.read t₀ ht₀ pod hp with hin | ht
    · exact hu.invoked pod hin
    · exact ⟨_, .read t₀ ht₀, ht⟩
  have hstored : ∀ t, w'.task? key = some t → ∀ pod, Recorded key h pod →
      (t.status.getD {}).Touched pod := by
    intro t ht pod hrec
    rcases persist_cases ha with ⟨hsame, -⟩ | hnow
    · exact hu.stored t (hsame ▸ ht) pod hrec
    · rw [hnow t ht]
      exact hs pod hrec
  refine ⟨hi.once, fun t ht pod hp => hstored t ht pod (hasked pod hp), fun u hu' => ?_⟩
  cases hu'
  refine ⟨fun t ht pod hp => ?_, fun pod hp => ?_, fun t ht pod hrec => ?_⟩
  · have hread := mem_of_mem_concat (fun t he => by cases he) ht
    rw [invoked_concat]
    exact (hu.read t hread pod hp).imp (List.mem_append_left _) id
  · rw [invoked_concat] at hp
    exact recorded_append.mpr (.inl (hu.invoked pod ((List.mem_append.mp hp).resolve_right
      List.not_mem_nil)))
  · rcases recorded_append.mp hrec with hrec | hrec
    · exact hstored t ht pod hrec
    · -- acknowledged, it is what is stored
      obtain ⟨⟨u, hok⟩, htouched⟩ := recorded_persist hrec
      rcases persist_cases ha with ⟨-, err, he⟩ | hnow
      · rw [hok] at he
        cases he
      · rw [hnow t ht]
        exact htouched

/-- Sidecars are asked for pods that the store touches and that were not asked before. This is where
it counts that an entry is stored before its pod is asked. -/
theorem accounted_ask {e : Effect} {r : e.Reply} (hu : Aware key s.world s.asked h)
    (he : e.onTask = false) (hnd : e.invokes.Nodup)
    (hnew : ∀ pod ∈ e.invokes, Fresh key h pod ∧ Recorded key h pod ∧
      ∃ t kind, reading key (some t) ∈ h ∧ TaskKind.ofSpec t.spec = .ok kind)
    (ha : Answers s.world e r w') (hk : s.world.KeepsSpec w' key) (hi : Accounted key s) :
    Accounted key { s with
      world := w', turn := some ⟨h ++ [⟨e, r⟩], rest⟩, asked := s.asked ++ e.invokes } := by
  have hs : s.world.KeepsStatus w' key := keepsStatus_of_onTask ha he
  have hnot : ∀ t, (⟨e, r⟩ : Answered) ≠ reading key (some t) := by
    intro t ht
    cases ht
    cases he
  have hw := hu.keeps hs hk
  -- None is asked a second time: a pod asked before would be touched in the task read, or asked in
  -- this advance.
  refine ⟨List.nodup_append'.mpr ⟨hi.once, hnd, fun pod hasked hp => ?_⟩,
    fun t ht pod hp => ?_, fun u hu' => ?_⟩
  · obtain ⟨⟨hnotin, huntouched⟩, -, t, -, hread, -⟩ := hnew pod hp
    exact (hu.read t hread pod hasked).elim hnotin (huntouched t hread)
  · rcases List.mem_append.mp hp with hp | hp
    · exact touched_of_keeps hs hk (fun t ht => hi.stored t ht pod hp) t ht
    · exact hw.stored t ht pod (hnew pod hp).2.1
  · cases hu'
    refine ⟨fun t ht pod hp => ?_, fun pod hp => ?_, fun t ht pod hr => ?_⟩
    · rw [invoked_concat]
      rcases List.mem_append.mp hp with hp | hp
      · exact (hu.read t (mem_of_mem_concat hnot ht) pod hp).imp (List.mem_append_left _) id
      · exact .inl (List.mem_append_right _ hp)
    · rw [invoked_concat] at hp
      rcases List.mem_append.mp hp with hp | hp
      · exact recorded_append.mpr (.inl (hu.invoked pod hp))
      · exact recorded_append.mpr (.inl (hnew pod hp).2.1)
    · exact hw.stored t ht pod ((recorded_append.mp hr).resolve_right (not_recorded he))

end Act

/-- A step keeps what was asked accounted for: each pod asked has a touched entry in the store, and
was asked once. -/
theorem accounted_step {kind : TaskKind} (hspec : TaskKind.ofSpec spec = .ok kind)
    (hf : Formed config key spec s) (h : Step config key spec s s')
    (hk : s.world.KeepsSpec s'.world key) (hi : Accounted key s) : Accounted key s' := by
  -- Only advances ask sidecars; calls and passes write no status of the task, so all stays
  -- accounted for.
  cases h with
  | call t => exact ⟨hi.once, hi.stored, hi.turn⟩
  | @callActs l₁ l₂ u u' w' hc ha =>
    have hu := forall_mem_at hf.calls hc
    cases ha with
    | act ha => exact hi.keeps (keepsStatus_of_answers ha (hu.1.not_persist hspec)) hk
  | queue hc => exact ⟨hi.once, hi.stored, hi.turn⟩
  | begin ht hq =>
    refine ⟨hi.once, hi.stored, fun u hu => ?_⟩
    cases hu
    exact aware_nil _ _
  | @act h e next r w' ht ha =>
    have hd : Due key h e := (hf.turn _ ht).1
    have hu := hi.turn _ ht
    cases hd with
    | read =>
      rw [show s.asked ++ Effect.invokes _ = s.asked from List.append_nil _]
      exact accounted_read ha hk hi
    | persist hr hs =>
      rw [show s.asked ++ Effect.invokes _ = s.asked from List.append_nil _]
      exact accounted_persist hu hr hs ha hi
    | act he hnd hnew => exact accounted_ask hu he hnd hnew ha hk hi
  | leave =>
    refine ⟨hi.once, hi.stored, fun u hu => ?_⟩
    cases hu
  | pass k => exact ⟨hi.once, hi.stored, hi.turn⟩
  | @passActs l₁ l₂ k u u' w' hp ha =>
    have hu := forall_mem_at hf.passes hp
    cases ha with
    | act ha => exact hi.keeps (keepsStatus_of_answers ha (not_persist_of_due hu.1 key)) hk
  | restart =>
    refine ⟨hi.once, hi.stored, fun u hu => ?_⟩
    cases hu
  | edit hs => exact hi.keeps hs hk

/-- **At-most-once steps.** Along every run around a task, whatever is cut short, lost or run
beside it, the sidecar of a pod is asked at most once. -/
theorem asked_at_most_once {w : World} {t : CassandraTask} (ht : w.task? key = some t)
    (hr : Runs config key t.spec ⟨w, [], [], none, [], []⟩ s) (pod : String) :
    s.asked.count pod ≤ 1 := by
  have hof : OfSpec key t.spec ⟨w, [], [], none, [], []⟩ := by
    refine ⟨fun t' ht' => ?_, fun u hu => by cases hu⟩
    rw [ht] at ht'
    rw [Option.some.inj ht']
  refine List.nodup_iff_count_le_one.mp ?_ pod
  cases hspec : TaskKind.ofSpec t.spec with
  | error reason =>
    -- nothing is asked at all
    suffices hs : Formed config key t.spec s ∧ OfSpec key t.spec s ∧ s.asked = [] by
      rw [hs.2.2]
      exact List.nodup_nil
    induction hr with
    | refl => exact ⟨formed_start _ _ _ w, hof, rfl⟩
    | tail _ hstep ih =>
      obtain ⟨hf, hi, ha⟩ := ih
      exact ⟨formed_step hstep.1 hf, ofSpec_step hstep.1 hstep.2 hi,
        asked_nil_step hspec hf hi hstep.1 ha⟩
  | ok kind =>
    suffices hs : Formed config key t.spec s ∧ Accounted key s from hs.2.once
    induction hr with
    | refl =>
      exact ⟨formed_start _ _ _ w, List.nodup_nil, fun _ _ _ hp => absurd hp List.not_mem_nil,
        fun u hu => by cases hu⟩
    | tail _ hstep ih =>
      obtain ⟨hf, hi⟩ := ih
      exact ⟨formed_step hstep.1 hf, accounted_step hspec hf hstep.1 hstep.2 hi⟩

/-- The name of a task. -/
def tidyKey : NamespacedName := ⟨"n", "t"⟩

/-- A task that cleans up a DataCenter. -/
def tidy : CassandraTask where
  metadata := { name := some "t", ns := some "n" }
  spec := { datacenter := "d", cleanup := some {} }

/-- The DataCenter: one rack of one member. -/
def tidied : DataCenter where
  metadata := { name := some "d", ns := some "n" }
  spec := { clusterName := "c", datacenterName := "d", replicas := 1, racks := 1 }

/-- A world with the two. -/
def untidy : World where
  store := {
    dataCenters := SortedMap.insert {} ⟨"n", "d"⟩ tidied
    statefulSets := SortedMap.insert {} ⟨"n", "c-d-rack1"⟩
      (Fixture.readyStatefulSet tidied (.new 0) 1)
    tasks := SortedMap.insert {} tidyKey tidy }

/-- An advance of a task that has yet to begin. -/
def fresh (config : Config) (key : NamespacedName) : Underway (Except OperatorError Action) :=
  .fresh (Advance.run config key).run

/-- What reconciling a task has queued is its advance, and nothing keeps that from its turn. -/
theorem steps_to_turn {t : CassandraTask} {u : WorkQueue.WorkUnit Action}
    (hns : t.metadata.ns = some key.ns) (hname : t.metadata.anyName = key.name)
    (hu : Reconcile.task config t = .done (.queued u)) (w : World) (asked : List String) :
    Step config key t.spec ⟨w, [⟨[], .done (.queued u)⟩], [], none, [], asked⟩
        ⟨w, [], [u], none, [], asked⟩ ∧
      Step config key t.spec ⟨w, [], [u], none, [], asked⟩
        ⟨w, [], [], some (fresh config key), [], asked⟩ := by
  have hcall := @holds_call config key t hns hname
  rw [hu] at hcall
  have hwork : u.work = (Advance.run config key).run := (hcall u rfl).2
  let s₁ : Scene := ⟨w, [⟨[], .done (.queued u)⟩], [], none, [], asked⟩
  let s₂ : Scene := ⟨w, [], [u], none, [], asked⟩
  have hc : s₁.calls = [] ++ ⟨[], .done (.queued u)⟩ :: [] := rfl
  have hq : s₂.queued = [] ++ u :: [] := rfl
  have hbegun : Step config key t.spec s₂ _ := .begin s₂ rfl hq
  rw [hwork] at hbegun
  exact ⟨.queue s₁ hc, hbegun⟩

/-- The task is reconciled, and it is the turn of its advance. -/
theorem runs_begin {t : CassandraTask} {u : WorkQueue.WorkUnit Action}
    (hns : t.metadata.ns = some key.ns) (hname : t.metadata.anyName = key.name)
    (hu : Reconcile.task config t = .done (.queued u)) (w : World) (asked : List String) :
    Runs config key t.spec ⟨w, [], [], none, [], asked⟩
      ⟨w, [], [], some (fresh config key), [], asked⟩ := by
  have hk := keepsSpec_refl w key
  let s₀ : Scene := ⟨w, [], [], none, [], asked⟩
  have hcalled : Step config key t.spec s₀ _ := .call s₀ t hns hname rfl
  rw [hu] at hcalled
  obtain ⟨hqueued, hbegun⟩ := steps_to_turn hns hname hu w asked
  exact .head ⟨hcalled, hk⟩ (.head ⟨hqueued, hk⟩ (.head ⟨hbegun, hk⟩ .refl))

/-- Its advance comes some effects far, with nothing else going on. -/
theorem runs_on (n : Nat) {t : CassandraTask} {u : WorkQueue.WorkUnit Action}
    (hns : t.metadata.ns = some key.ns) (hname : t.metadata.anyName = key.name)
    (hu : Reconcile.task config t = .done (.queued u)) (w : World) (asked : List String) :
    Runs config key t.spec ⟨w, [], [], none, [], asked⟩
      ⟨((fresh config key).forward n w).1, [], [], some ((fresh config key).forward n w).2, [],
        asked ++ ((fresh config key).forward n w).2.history.invoked⟩ := by
  have hdue : (fresh config key).Holds (Due key) fun _ _ => True :=
    Program.Holds.mono (fun _ _ h => h) (fun _ _ _ => trivial) (holds_run config key)
  let s : Scene := ⟨w, [], [], some (fresh config key), [], asked⟩
  obtain ⟨h, he, hr⟩ := @runs_forward config key t.spec n s _ hdue rfl
  rw [show h = ((fresh config key).forward n w).2.history from he.symm] at hr
  exact (runs_begin hns hname hu w asked).trans hr

/-- It is cut short there, and its place is free for the next. -/
theorem runs_advance (n : Nat) {t : CassandraTask} {u : WorkQueue.WorkUnit Action}
    (hns : t.metadata.ns = some key.ns) (hname : t.metadata.anyName = key.name)
    (hu : Reconcile.task config t = .done (.queued u)) (w : World) (asked : List String) :
    Runs config key t.spec ⟨w, [], [], none, [], asked⟩
      ⟨((fresh config key).forward n w).1, [], [], none, [],
        asked ++ ((fresh config key).forward n w).2.history.invoked⟩ :=
  (runs_on n hns hname hu w asked).tail ⟨.leave _, keepsSpec_refl _ key⟩

/-- An advance is cut short when it has asked the member; the next one asks nobody and fails the
member's entry. -/
theorem cut_short_asked_once : ∃ config key w t s, w.task? key = some t ∧
    Runs config key t.spec ⟨w, [], [], none, [], []⟩ s ∧ s.asked = ["c-d-rack1-0"] ∧
      ((s.world.task? key).bind (·.status)).map (·.phase) = some .failed ∧
        ∀ pod, s.asked.count pod ≤ 1 := by
  have hu : ∃ u, Reconcile.task {} tidy = .done (.queued u) := ⟨_, rfl⟩
  obtain ⟨u, hu⟩ := hu
  have hfirst : Runs {} tidyKey tidy.spec ⟨untidy, [], [], none, [], []⟩ _ :=
    runs_advance 10 rfl rfl hu untidy []
  have hr := hfirst.trans (runs_advance 30 rfl rfl hu _ _)
  refine ⟨_, _, untidy, tidy, _, rfl, hr, ?_, ?_, asked_at_most_once rfl hr⟩
  · decide +kernel
  · decide +kernel

end RackOperator.Advance
