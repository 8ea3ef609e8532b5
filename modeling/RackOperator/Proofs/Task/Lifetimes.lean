import RackOperator.Proofs.Task.AtMostOnce
import RackOperator.Proofs.Task.Forward
import Mathlib.Data.List.Chain

/-!
# The life of a task

A `Lifetime` is a run around one task of one spec, from a world that stores it, together
with the versions of the task that were stored on the way. In it a call is made with any of
these versions (`Told`), so it may know less of the task than the store does. Advances are
cut short anywhere and status writes get lost; passes create the task again, and the outside
may change all but its status and its spec.

`forward_of_lifetime` says that every status stored goes forward from the one before it,
that from a terminal one on no sidecar is asked and no status written, and that the task is
deleted by no other than a call that found it expired.

Two facts carry this. The status that the advance under way was shown last is the one stored
(`Sees`), so `orderly_run` speaks of what is stored. And a call writes a status only where
the spec is invalid: then there are no advances, and all versions have the same entries and
the same phase (`Versions.inert`).
-/

namespace RackOperator.Advance

variable {config : Config} {key : NamespacedName} {spec : TaskSpec} {s s' : Scene}
  {vs vs' : List CassandraTask} {w w' : World}

theorem phase_status (t : CassandraTask) : (t.status.getD {}).phase = t.phase := by
  unfold CassandraTask.phase
  cases t.status <;> rfl

/-! ## Lifetimes -/

/-- A step of a run in which these versions of the task were stored so far. -/
structure Told (config : Config) (key : NamespacedName) (spec : TaskSpec)
    (vs : List CassandraTask) (s s' : Scene) : Prop where
  step : Step config key spec s s'
  keeps : s.world.KeepsSpec s'.world key
  /-- A call is made with one of the versions. -/
  informed : ∀ u, s'.calls = u :: s.calls → ∃ t ∈ vs, t.metadata.ns = some key.ns ∧
    t.metadata.anyName = key.name ∧ u = .fresh (Reconcile.task config t)
  /-- The outside does not delete the task. -/
  outside : ∀ w', s' = { s with world := w' } → (s.world.task? key).isSome = true →
    (w'.task? key).isSome = true

/-- A run from a world that stores the task, with all versions of the task stored in it. -/
inductive Lifetime (config : Config) (key : NamespacedName) (spec : TaskSpec) :
    Scene → List CassandraTask → Prop
  | start {w : World} {t : CassandraTask} (ht : w.task? key = some t) (hs : t.spec = spec) :
    Lifetime config key spec ⟨w, [], [], none, [], []⟩ [t]
  | next {s s' : Scene} {vs : List CassandraTask} (h : Lifetime config key spec s vs)
    (ht : Told config key spec vs s s') :
    Lifetime config key spec s' (vs ++ (s'.world.task? key).toList)

/-- Something under way is about to do an effect. -/
inductive Scene.AboutTo (s : Scene) : Effect → Prop
  | call {h : History} {e : Effect} {next : e.Reply → Program (WorkQueue.Job Action)}
    (hu : ⟨h, .perform e next⟩ ∈ s.calls) : AboutTo s e
  | turn {h : History} {e : Effect} {next : e.Reply → Program (Except OperatorError Action)}
    (hu : s.turn = some ⟨h, .perform e next⟩) : AboutTo s e
  | pass {k : ClusterKey} {h : History} {e : Effect}
    {next : e.Reply → Program (Except OperatorError Action)}
    (hu : (k, ⟨h, .perform e next⟩) ∈ s.passes) : AboutTo s e

/-- Nothing more is done for a task. -/
structure Scene.Still (key : NamespacedName) (s : Scene) : Prop where
  /-- The advance whose turn it is asks no sidecar next. -/
  asks : ∀ h e next, s.turn = some ⟨h, .perform e next⟩ → e.invokes = []
  /-- Nothing under way writes the status next. -/
  writes : ∀ e, s.AboutTo e → ∀ status, e ≠ .store (.replaceTaskStatus key.ns key.name status)

/-- A call has asked the time, and by then a version of the task that has ended is older than
the retention. -/
def Expired (config : Config) (vs : List CassandraTask) (h : History) : Prop :=
  ∃ t ∈ vs, t.phase.isTerminal = true ∧ ∃ finished now : Instant,
    Reconcile.finishedAt? t = some finished ∧
    Reconcile.remaining? config.taskRetention finished now = none ∧ h = [⟨.now, now⟩]

/-! ## What calls do -/

/-- What a call may do that was made with one of these versions. -/
inductive Asks (config : Config) (key : NamespacedName) (spec : TaskSpec)
    (vs : List CassandraTask) : History → Effect → Prop
  | now (h : History) : Asks config key spec vs h .now
  | expire {h : History} (hx : Expired config vs h) :
    Asks config key spec vs h (.store (.deleteTask key.ns key.name))
  | reject {h : History} {t : CassandraTask} {reason : String} (ht : t ∈ vs)
    (hp : t.phase.isTerminal = false) (hs : TaskKind.ofSpec spec = .error reason) :
    Asks config key spec vs h (.store (.replaceTaskStatus key.ns key.name
      { t.status.getD {} with lastMessage := some reason }))

/-- A call puts something in line only where the spec is valid. -/
def QueuesValid (spec : TaskSpec) (_ : History) (job : WorkQueue.Job Action) : Prop :=
  ∀ u, job = .queued u → ∀ reason, TaskKind.ofSpec spec ≠ .error reason

/-- What a call found expired is among the versions there are, and stays so when there are more. -/
theorem Expired.mono {h : History} (hx : Expired config vs h) (hsub : vs ⊆ vs') :
    Expired config vs' h := by
  obtain ⟨t, ht, hrest⟩ := hx
  exact ⟨t, hsub ht, hrest⟩

theorem Asks.mono {h : History} {e : Effect} (ha : Asks config key spec vs h e)
    (hsub : vs ⊆ vs') : Asks config key spec vs' h e := by
  cases ha with
  | now => exact .now h
  | expire hx => exact .expire (hx.mono hsub)
  | reject ht hp hs => exact .reject (hsub ht) hp hs

/-- Work whose result settles a call, and leaves no advance to be queued. -/
theorem asks_settled {work : Work Action} {h : History}
    (hw : work.Holds (Asks config key spec vs) (fun _ _ => True) h) :
    Program.Holds (Asks config key spec vs) (QueuesValid spec) h
      (work.run >>= fun r => pure (.settled r)) :=
  (Program.holds_bind _ _ _).mpr
    (Program.Holds.mono (fun _ _ h => h) (fun _ _ _ u hu => by cases hu) hw)

/-- A call over a version that has ended asks for its deletion only once it is older than the
retention. -/
theorem asks_expire {t : CassandraTask} (ht : t ∈ vs) (hp : t.phase.isTerminal = true)
    (hname : t.metadata.anyName = key.name) :
    (Reconcile.expire config key.ns t).Holds (Asks config key spec vs) (fun _ _ => True) [] := by
  unfold Reconcile.expire
  split
  next => exact (Work.holds_pure _).mpr trivial
  next finished hf =>
    refine (Work.holds_bind _ _).mpr ((Work.holds_effect .now).mpr ⟨.now [], fun now => ?_⟩)
    split
    next => exact (Work.holds_pure _).mpr trivial
    next hr =>
      rw [hname]
      have hx : Expired config vs [⟨.now, now⟩] := ⟨t, ht, hp, finished, now, hf, hr, rfl⟩
      refine (Work.holds_store_bind _ _).mpr ⟨.expire hx, fun u => ?_⟩
      exact (Work.holds_pure _).mpr trivial

/-- A call over a version that has not ended stores the fault of its spec, if the spec is at fault.
-/
theorem asks_reject {t : CassandraTask} {reason : String} (ht : t ∈ vs)
    (hp : t.phase.isTerminal = false) (hs : TaskKind.ofSpec spec = .error reason)
    (hname : t.metadata.anyName = key.name) :
    (Reconcile.reject key.ns t reason).Holds (Asks config key spec vs) (fun _ _ => True) [] := by
  unfold Reconcile.reject
  rw [hname]
  dsimp only
  split
  next =>
    refine (Work.holds_store_bind _ _).mpr ⟨.reject ht hp hs, fun u => ?_⟩
    exact (Work.holds_pure _).mpr trivial
  next => exact (Work.holds_pure _).mpr trivial

/-- Whatever version a call knows, it asks for nothing but these: to delete an expired task, or to
store the fault of the spec. -/
theorem asks_call {t : CassandraTask} (ht : t ∈ vs) (hns : t.metadata.ns = some key.ns)
    (hname : t.metadata.anyName = key.name) (hspec : t.spec = spec) :
    (Reconcile.task config t).Holds (Asks config key spec vs) (QueuesValid spec) [] := by
  unfold Reconcile.task
  rw [hns, hspec]
  dsimp only
  split
  next => exact fun u hu => by cases hu
  next =>
    split
    next hp => exact asks_settled (asks_expire ht hp hname)
    next hp =>
      cases hs : TaskKind.ofSpec spec with
      | error reason => exact asks_settled (asks_reject ht (Bool.eq_false_iff.mpr hp) hs hname)
      | ok kind => exact fun u hu reason hr => by rw [hs] at hr; cases hr

/-! ## What is under way -/

/-- What is under way goes by its program, and there are advances only where the spec is
valid. -/
structure Abides (config : Config) (key : NamespacedName) (spec : TaskSpec) (s : Scene)
    (vs : List CassandraTask) : Prop where
  formed : Formed config key spec s
  calls : ∀ u ∈ s.calls, u.Holds (Asks config key spec vs) (QueuesValid spec)
  turn : ∀ u, s.turn = some u → u.Holds (Orderly key) (fun _ _ => True)
  idle : ∀ reason, TaskKind.ofSpec spec = .error reason → s.queued = [] ∧ s.turn = none

theorem Abides.mono (hi : Abides config key spec s vs) (hsub : vs ⊆ vs') :
    Abides config key spec s vs' :=
  ⟨hi.formed, fun u hu => Program.Holds.mono (fun _ _ ha => ha.mono hsub) (fun _ _ h => h)
    (hi.calls u hu), hi.turn, hi.idle⟩

/-- A step keeps all that is under way by the code: the calls made with one of the versions, the
advances queued and the one whose turn it is. -/
theorem abides_step (hvs : ∀ t ∈ vs, t.spec = spec) (h : Told config key spec vs s s')
    (hi : Abides config key spec s vs) : Abides config key spec s' vs := by
  have hf := formed_step h.step hi.formed
  obtain ⟨hstep, -, hinf, -⟩ := h
  cases hstep with
  | call t hns hname hspec =>
    -- the object is one of the versions
    obtain ⟨v, hv, hns, hname, he⟩ := hinf _ rfl
    refine ⟨hf, List.forall_mem_cons.mpr ⟨?_, hi.calls⟩, hi.turn, hi.idle⟩
    rw [he]
    exact asks_call hv hns hname (hvs v hv)
  | callActs hc ha =>
    have hu := forall_mem_at hi.calls hc
    exact ⟨hf, forall_mem_put hi.calls hc (hu.acts ha), hi.turn, hi.idle⟩
  | queue hc =>
    have hu := forall_mem_at hi.calls hc
    exact ⟨hf, forall_mem_without hi.calls hc, hi.turn,
      fun reason hr => absurd hr (hu _ rfl reason)⟩
  | begin ht hq =>
    have hline := forall_mem_at hi.formed.queued hq
    refine ⟨hf, hi.calls, fun u hu => ?_, fun reason hr => ?_⟩
    · cases hu
      rw [hline.2]
      exact Program.Holds.mono (fun _ _ h => h) (fun _ _ _ => trivial) (orderly_run config key)
    · -- nothing was in line
      rw [(hi.idle reason hr).1] at hq
      exact absurd hq (by simp)
  | act ht ha =>
    refine ⟨hf, hi.calls, fun u hu => ?_, fun reason hr => ?_⟩
    · cases hu
      exact (hi.turn _ ht).2 _
    · rw [(hi.idle reason hr).2] at ht
      cases ht
  | leave => exact ⟨hf, hi.calls, nofun, fun reason hr => ⟨(hi.idle reason hr).1, rfl⟩⟩
  | pass k => exact ⟨hf, hi.calls, hi.turn, hi.idle⟩
  | passActs hp ha => exact ⟨hf, hi.calls, hi.turn, hi.idle⟩
  | restart => exact ⟨hf, fun u hu => absurd hu List.not_mem_nil, nofun, fun _ _ => ⟨rfl, rfl⟩⟩
  | edit he => exact ⟨hf, hi.calls, hi.turn, hi.idle⟩

/-! ## The versions -/

/-- What is so of all versions stored up to a world. -/
structure Versions (key : NamespacedName) (spec : TaskSpec) (w : World)
    (vs : List CassandraTask) : Prop where
  specs : ∀ t ∈ vs, t.spec = spec
  last : ∀ t, w.task? key = some t → vs.getLast? = some t
  chain : vs.IsChain fun t t' => (t.status.getD {}).Forward (t'.status.getD {})
  ended : ∀ t ∈ vs, t.phase.isTerminal = true → ∀ t', w.task? key = some t' → t'.status = t.status
  inert : ∀ reason, TaskKind.ofSpec spec = .error reason → ∀ t ∈ vs, ∀ t' ∈ vs,
    (t'.status.getD {}).pods = (t.status.getD {}).pods ∧ t'.phase = t.phase

/-- A version may come after another one, behind all these. -/
structure Fits (spec : TaskSpec) (vs : List CassandraTask) (t t' : CassandraTask) : Prop where
  forward : (t.status.getD {}).Forward (t'.status.getD {})
  ended : ∀ v ∈ vs, v.phase.isTerminal = true → t'.status = v.status
  inert : ∀ reason, TaskKind.ofSpec spec = .error reason →
    (t'.status.getD {}).pods = (t.status.getD {}).pods ∧ t'.phase = t.phase

theorem Versions.current (hv : Versions key spec w vs) {t : CassandraTask}
    (ht : w.task? key = some t) : t ∈ vs :=
  List.mem_of_getLast? (hv.last t ht)

/-- A version that fits may be the next one. Where the task has gone there is none to add, and what
holds of the versions before it stays. -/
theorem Versions.next (hv : Versions key spec w vs) (hk : w.KeepsSpec w' key)
    (hf : ∀ t t', w.task? key = some t → w'.task? key = some t' → Fits spec vs t t') :
    Versions key spec w' (vs ++ (w'.task? key).toList) := by
  cases ht' : w'.task? key with
  | none =>
    rw [Option.toList_none, List.append_nil]
    have hnone : ∀ t', w'.task? key ≠ some t' := by
      intro t' h
      rw [ht'] at h
      cases h
    exact ⟨hv.specs, fun t' h => absurd h (hnone t'), hv.chain,
      fun _ _ _ t' h => absurd h (hnone t'), hv.inert⟩
  | some t' =>
    obtain ⟨t, ht, hspec⟩ := hk t' ht'
    have hfit := hf t t' ht ht'
    have hmem := hv.current ht
    rw [Option.toList_some]
    refine ⟨?_, fun v hvs => ?_, ?_, fun v hmem hp v' hv' => ?_, fun reason hr => ?_⟩
    · refine List.forall_mem_append.mpr ⟨hv.specs, List.forall_mem_singleton.mpr ?_⟩
      exact hspec.trans (hv.specs t hmem)
    · rw [List.getLast?_concat, ← ht', hvs]
    · refine List.isChain_append.mpr ⟨hv.chain, .singleton _, fun v hlast v' hhead => ?_⟩
      rw [hv.last t ht] at hlast
      cases hlast
      cases hhead
      exact hfit.forward
    · rw [ht'] at hv'
      cases hv'
      rcases List.mem_append.mp hmem with hmem | hmem
      · exact hfit.ended v hmem hp
      · rw [List.mem_singleton.mp hmem]
    · -- the new version is compared with the others through the one before it
      obtain ⟨hpods, hphase⟩ := hfit.inert reason hr
      have hold := hv.inert reason hr
      refine List.forall_mem_append.mpr ⟨fun v hmem' => ?_, List.forall_mem_singleton.mpr ?_⟩
      · refine List.forall_mem_append.mpr ⟨hold v hmem', List.forall_mem_singleton.mpr ?_⟩
        rw [hpods, hphase]
        exact hold v hmem' t hmem
      · refine List.forall_mem_append.mpr
          ⟨fun v hmem' => ?_, List.forall_mem_singleton.mpr ⟨rfl, rfl⟩⟩
        rw [hpods, hphase]
        exact hold t hmem v hmem'

/-- A version with the status of the one before it fits, so writes elsewhere make none that does
not. -/
theorem Versions.fits_of_keeps (hv : Versions key spec w vs) (hs : w.KeepsStatus w' key)
    (t t' : CassandraTask) (ht : w.task? key = some t) (ht' : w'.task? key = some t') :
    Fits spec vs t t' := by
  have he := hs t t' ht ht'
  refine ⟨?_, fun v hmem hp => he.trans (hv.ended v hmem hp t ht), fun _ _ => ?_⟩
  · rw [he]
    exact (TaskStatus.Advances.refl _).forward
  · rw [← phase_status, ← phase_status t, he]
    exact ⟨rfl, rfl⟩

/-- A rejection writes the entries and the phase that all versions have. With the spec at fault no
advance ever ran, so no version has any other. -/
theorem Versions.fits_of_reject (hv : Versions key spec w vs) {v : CassandraTask}
    {reason : String} (hmem : v ∈ vs) (hp : v.phase.isTerminal = false)
    (hs : TaskKind.ofSpec spec = .error reason)
    (hnow : ∀ t', w'.task? key = some t' →
      t'.status = some { v.status.getD {} with lastMessage := some reason })
    (t t' : CassandraTask) (ht : w.task? key = some t) (ht' : w'.task? key = some t') :
    Fits spec vs t t' := by
  obtain ⟨hpods, hphase⟩ := hv.inert reason hs t (hv.current ht) v hmem
  have hstatus := hnow t' ht'
  have hphase' : t'.phase = t.phase := by
    rw [← hphase, ← phase_status v, ← phase_status t', hstatus]
    rfl
  have hpods' : (t'.status.getD {}).pods = (t.status.getD {}).pods := by
    rw [← hpods, hstatus]
    rfl
  refine ⟨(TaskStatus.advances_of_eq hpods' ?_).forward, fun u hu hend => ?_,
    fun _ _ => ⟨hpods', hphase'⟩⟩
  · rw [phase_status, phase_status]
    exact hphase'
  · -- no version has ended
    rw [← (hv.inert reason hs v hmem u hu).2, hend] at hp
    cases hp

/-! ## What the advance under way was shown -/

/-- What a history was shown last is what is stored, and it is terminal if a version is. -/
def Sees (key : NamespacedName) (w : World) (vs : List CassandraTask) (h : History) : Prop :=
  ∀ s₀, Shown key h s₀ → (∀ t, w.task? key = some t → t.status.getD {} = s₀) ∧
    ((∃ t ∈ vs, t.phase.isTerminal = true) → s₀.phase.isTerminal = true)

/-- What an advance has been shown stays true while spec and status of the task are kept. -/
theorem Sees.keeps {h : History} (hi : Sees key w vs h) (hk : w.KeepsSpec w' key)
    (hs : w.KeepsStatus w' key) : Sees key w' (vs ++ (w'.task? key).toList) h := by
  intro s₀ hs₀
  obtain ⟨hstored, hend⟩ := hi s₀ hs₀
  have hstored' : ∀ t', w'.task? key = some t' → t'.status.getD {} = s₀ := by
    intro t' ht'
    obtain ⟨t, ht, -⟩ := hk t' ht'
    rw [hs t t' ht ht']
    exact hstored t ht
  refine ⟨hstored', ?_⟩
  rintro ⟨t, hmem, hp⟩
  rcases List.mem_append.mp hmem with hmem | hmem
  · exact hend ⟨t, hmem, hp⟩
  · rw [← hstored' t (Option.mem_toList.mp hmem), phase_status]
    exact hp

/-- A status write is refused, or what is stored then is the status. There is nothing in between,
even if the answer is lost. -/
theorem keeps_or_stores {status : TaskStatus} {r : Except OperatorError Unit}
    (ha : Answers w (.store (.replaceTaskStatus key.ns key.name status)) r w') :
    w.KeepsStatus w' key ∧ (∃ err, r = .error err) ∨
      ∀ t, w'.task? key = some t → t.status = some status := by
  refine (persist_cases ha).imp (fun ⟨hsame, hr⟩ => ⟨fun t t' ht ht' => ?_, hr⟩) id
  rw [hsame, ht] at ht'
  rw [Option.some.inj ht']

section Act

variable {h : History}

/-- A task that is read is shown as it is stored. -/
theorem sees_read {r : Except OperatorError (Option CassandraTask)}
    (ha : Answers w (.store (.getTask key.ns key.name)) r w') (hv : Versions key spec w vs) :
    Sees key w vs [⟨.store (.getTask key.ns key.name), r⟩] := by
  intro s₀ hs₀
  have hlast : Shown key ([] ++ [⟨.store (.getTask key.ns key.name), r⟩]) s₀ := hs₀
  rcases shown_concat hlast with ⟨t, he, rfl⟩ | he | ⟨hq, -⟩
  · cases he
    have ht := task?_of_reading ha rfl
    refine ⟨fun t' ht' => by rw [Option.some.inj (ht'.symm.trans ht)], ?_⟩
    rintro ⟨v, hmem, hp⟩
    rw [hv.ended v hmem hp t ht, phase_status]
    exact hp
  · cases he
  · cases hq

/-- A status write that is due fits, and what is shown then is the status, if anything is. A task
that has ended is not advanced, so nothing terminal is written over. -/
theorem sees_persist {s₀ status : TaskStatus} {r : Except OperatorError Unit}
    (hshown : Shown key h s₀) (hp : s₀.phase.isTerminal = false) (hf : s₀.Forward status)
    (ha : Answers w (.store (.replaceTaskStatus key.ns key.name status)) r w')
    (hv : Versions key spec w vs) (hvalid : ∀ reason, TaskKind.ofSpec spec ≠ .error reason)
    (hs : Sees key w vs h) :
    (∀ t t', w.task? key = some t → w'.task? key = some t' → Fits spec vs t t') ∧
      Sees key w' (vs ++ (w'.task? key).toList)
        (h ++ [⟨.store (.replaceTaskStatus key.ns key.name status), r⟩]) := by
  obtain ⟨hstored, hend⟩ := hs s₀ hshown
  have hopen : ∀ v ∈ vs, v.phase.isTerminal ≠ true := by
    intro v hmem hv
    rw [hend ⟨v, hmem, hv⟩] at hp
    cases hp
  -- shown is what this write stored, and only if it was acknowledged
  have hnew : ∀ s₁, Shown key (h ++ [⟨.store (.replaceTaskStatus key.ns key.name status), r⟩]) s₁ →
      r = .ok () ∧ s₁ = status := by
    intro s₁ hs₁
    rcases shown_concat hs₁ with ⟨t, he, -⟩ | he | ⟨hq, -⟩
    · cases he
    · cases he
      exact ⟨rfl, rfl⟩
    · cases hq
  rcases keeps_or_stores ha with ⟨hkeep, err, hr⟩ | hnow
  · refine ⟨hv.fits_of_keeps hkeep, fun s₁ hs₁ => ?_⟩
    rw [(hnew s₁ hs₁).1] at hr
    cases hr
  · refine ⟨fun t t' ht ht' => ⟨?_, fun v hmem hv => absurd hv (hopen v hmem),
      fun reason hr => absurd hr (hvalid reason)⟩, fun s₁ hs₁ => ?_⟩
    · rw [hstored t ht, hnow t' ht']
      exact hf
    · obtain ⟨-, rfl⟩ := hnew s₁ hs₁
      refine ⟨fun t ht => by rw [hnow t ht]; rfl, ?_⟩
      rintro ⟨v, hmem, hv⟩
      rcases List.mem_append.mp hmem with hmem | hmem
      · exact absurd hv (hopen v hmem)
      · rw [← phase_status, hnow v (Option.mem_toList.mp hmem)] at hv
        exact hv

/-- One effect of the advance under way: the next version fits behind those there were, and the
advance sees what is stored. -/
theorem sees_act {e : Effect} {r : e.Reply} (hd : Orderly key h e)
    (ha : Answers w e r w') (hk : w.KeepsSpec w' key) (hv : Versions key spec w vs)
    (hvalid : ∀ reason, TaskKind.ofSpec spec ≠ .error reason) (hs : Sees key w vs h) :
    (∀ t t', w.task? key = some t → w'.task? key = some t' → Fits spec vs t t') ∧
      Sees key w' (vs ++ (w'.task? key).toList) (h ++ [⟨e, r⟩]) := by
  cases hd with
  | read =>
    have hkeep : w.KeepsStatus w' key := keepsStatus_of_answers ha (by simp)
    exact ⟨hv.fits_of_keeps hkeep, (sees_read ha hv).keeps hk hkeep⟩
  | persist hshown hp hf => exact sees_persist hshown hp hf ha hv hvalid hs
  | act he hi =>
    have hkeep : w.KeepsStatus w' key := keepsStatus_of_onTask ha he
    refine ⟨hv.fits_of_keeps hkeep, Sees.keeps (fun s₀ hs₀ => ?_) hk hkeep⟩
    rcases shown_concat hs₀ with ⟨t, hread, -⟩ | hstore | ⟨-, hold⟩
    · cases hread
      cases he
    · cases hstore
      cases he
    · exact hs s₀ hold

end Act

/-! ## The invariant -/

/-- The versions are as they should be, and what is under way knows of them. -/
structure Kept (config : Config) (key : NamespacedName) (spec : TaskSpec) (s : Scene)
    (vs : List CassandraTask) : Prop where
  abides : Abides config key spec s vs
  versions : Versions key spec s.world vs
  sees : ∀ u, s.turn = some u → Sees key s.world vs u.history

/-- A task with nothing under way has one version. -/
theorem kept_start {t : CassandraTask} (ht : w.task? key = some t) :
    Kept config key t.spec ⟨w, [], [], none, [], []⟩ [t] where
  abides := ⟨formed_start _ _ _ w, fun u hu => absurd hu List.not_mem_nil, nofun,
    fun _ _ => ⟨rfl, rfl⟩⟩
  versions :=
    { specs := List.forall_mem_singleton.mpr rfl
      last := fun t' ht' => ht.symm.trans ht'
      chain := .singleton t
      ended := List.forall_mem_singleton.mpr fun _ t' ht' => by
        rw [Option.some.inj (ht'.symm.trans ht)]
      inert := fun _ _ => List.forall_mem_singleton.mpr
        (List.forall_mem_singleton.mpr ⟨rfl, rfl⟩) }
  sees := nofun

/-- A step that keeps the status, and the advance under way if there still is one, keeps the
lifetime in order. -/
theorem Kept.keeps (hi : Kept config key spec s vs) (hk : s.world.KeepsSpec s'.world key)
    (hs : s.world.KeepsStatus s'.world key) (ha : Abides config key spec s' vs)
    (ht : ∀ u, s'.turn = some u → s.turn = some u ∨ u.history = []) :
    Kept config key spec s' (vs ++ (s'.world.task? key).toList) := by
  refine ⟨ha.mono (List.subset_append_left _ _),
    hi.versions.next hk (hi.versions.fits_of_keeps hs), fun u hu => ?_⟩
  rcases ht u hu with hold | hnew
  · exact (hi.sees u hold).keeps hk hs
  · rw [hnew]
    exact fun s₀ hs₀ => absurd hs₀ shown_nil

theorem keepsStatus_refl (w : World) (key : NamespacedName) : w.KeepsStatus w key :=
  fun t t' ht ht' => by rw [Option.some.inj (ht'.symm.trans ht)]

/-- A step keeps the lifetime in order. The cases are those of the step: outside changes, calls,
effects of calls, and effects of the advance. -/
theorem kept_step (h : Told config key spec vs s s') (hi : Kept config key spec s vs) :
    Kept config key spec s' (vs ++ (s'.world.task? key).toList) := by
  have ha := abides_step hi.versions.specs h hi.abides
  have hk := h.keeps
  have hsame := keepsStatus_refl s.world key
  cases h.step with
  | call t => exact hi.keeps hk hsame ha fun u hu => .inl hu
  | @callActs l₁ l₂ u u' w' hc hact =>
    have hu := forall_mem_at hi.abides.calls hc
    cases hact with
    | @act _ _ h' e next r hans =>
      have hasks : Asks config key spec vs h' e := hu.1
      cases hasks with
      | now => exact hi.keeps hk (keepsStatus_of_answers hans (by simp)) ha fun u hu => .inl hu
      | expire hx =>
        exact hi.keeps hk (keepsStatus_of_answers hans (by simp)) ha fun u hu => .inl hu
      | reject hmem hp hs =>
        rcases keeps_or_stores hans with ⟨hkeep, -⟩ | hnow
        · exact hi.keeps hk hkeep ha fun u hu => .inl hu
        · -- where the spec is invalid it is no advance's turn
          refine ⟨ha.mono (List.subset_append_left _ _),
            hi.versions.next hk (hi.versions.fits_of_reject hmem hp hs hnow), fun u hu => ?_⟩
          rw [(ha.idle _ hs).2] at hu
          cases hu
  | queue hc => exact hi.keeps hk hsame ha fun u hu => .inl hu
  | begin ht hq => exact hi.keeps hk hsame ha fun u hu => by cases hu; exact .inr rfl
  | @act h' e next r w' ht hans =>
    have hd : Orderly key h' e := (hi.abides.turn _ ht).1
    have hvalid : ∀ reason, TaskKind.ofSpec spec ≠ .error reason := by
      intro reason hr
      rw [(hi.abides.idle reason hr).2] at ht
      cases ht
    obtain ⟨hfits, hsees⟩ := sees_act hd hans hk hi.versions hvalid (hi.sees _ ht)
    refine ⟨ha.mono (List.subset_append_left _ _), hi.versions.next hk hfits, fun u hu => ?_⟩
    cases hu
    exact hsees
  | leave => exact hi.keeps hk hsame ha nofun
  | pass k => exact hi.keeps hk hsame ha fun u hu => .inl hu
  | @passActs l₁ l₂ k u u' w' hp hact =>
    have hu := forall_mem_at hi.abides.formed.passes hp
    cases hact with
    | act hans =>
      exact hi.keeps hk (keepsStatus_of_answers hans (not_persist_of_due hu.1 key)) ha
        fun u hu => .inl hu
  | restart => exact hi.keeps hk hsame ha nofun
  | edit he => exact hi.keeps hk he ha fun u hu => .inl hu

theorem kept_of_lifetime (h : Lifetime config key spec s vs) : Kept config key spec s vs := by
  induction h with
  | start ht hs =>
    subst hs
    exact kept_start ht
  | next _ ht ih => exact kept_step ht ih

/-! ## The end of a task -/

/-- Once a version is terminal, nothing more is done: the advance under way has seen it end, and
those to come will find it so. -/
theorem Kept.still (hi : Kept config key spec s vs) (hend : ∃ t ∈ vs, t.phase.isTerminal = true) :
    s.Still key := by
  -- what an advance has been shown is terminal too
  have hturn : ∀ h e next, s.turn = some ⟨h, .perform e next⟩ → e.invokes = [] ∧
      ∀ status, e ≠ .store (.replaceTaskStatus key.ns key.name status) := by
    intro h e next ht
    have hterm : ∀ s₀, Shown key h s₀ → s₀.phase.isTerminal ≠ false := by
      intro s₀ hs₀ hp
      rw [((hi.sees _ ht) s₀ hs₀).2 hend] at hp
      cases hp
    have hd : Orderly key h e := (hi.abides.turn _ ht).1
    cases hd with
    | read => exact ⟨rfl, by simp⟩
    | persist hs hp hf => exact absurd hp (hterm _ hs)
    | act he hinv =>
      refine ⟨by_contra fun hne => ?_, fun status hstatus => by rw [hstatus] at he; cases he⟩
      obtain ⟨s₀, hs₀, hp⟩ := hinv hne
      exact hterm s₀ hs₀ hp
  refine ⟨fun h e next ht => (hturn h e next ht).1, fun e habout status => ?_⟩
  cases habout with
  | call hu =>
    have hasks : Asks config key spec vs _ e := (hi.abides.calls _ hu).1
    cases hasks with
    | now => simp
    | expire => simp
    | reject hmem hp hs =>
      obtain ⟨t, ht, hterm⟩ := hend
      rw [(hi.versions.inert _ hs _ ht _ hmem).2, hterm] at hp
      cases hp
  | turn hu => exact (hturn _ _ _ hu).2 status
  | pass hu => exact not_persist_of_due (hi.abides.formed.passes _ hu).1 key status

/-- A task is there until it is deleted, so of all effects only one can make it go. -/
theorem isSome_of_answers {e : Effect} {r : e.Reply} (ha : Answers w e r w')
    (he : e ≠ .store (.deleteTask key.ns key.name)) (ht : (w.task? key).isSome = true) :
    (w'.task? key).isSome = true := by
  rcases task?_cases ha key with hsame | ⟨-, hmade⟩ | ⟨hdelete, -⟩ | ⟨status, -, hnow⟩
  · rw [hsame]
    exact ht
  · obtain ⟨t, ht⟩ := Option.isSome_iff_exists.mp ht
    obtain ⟨t', ht', -⟩ := hmade t ht
    rw [ht']
    rfl
  · exact absurd hdelete he
  · rw [hnow, Option.isSome_map]
    exact ht

/-- The task goes only by a call that found it expired. No advance deletes a task, and nothing
outside does here. -/
theorem Kept.expired (hi : Kept config key spec s vs) (h : Told config key spec vs s s')
    (ht : (s.world.task? key).isSome = true) (hgone : s'.world.task? key = none) :
    ∃ u ∈ s.calls, Expired config vs u.history ∧
      (∃ next, u.rest = .perform (.store (.deleteTask key.ns key.name)) next) ∧
      ∃ u', u.Acts s.world u' s'.world := by
  have hstays : (s'.world.task? key).isSome ≠ true := by
    rw [hgone]
    exact Bool.false_ne_true
  cases h.step with
  | @callActs l₁ l₂ u u' w' hc hact =>
    have hmem : u ∈ s.calls := by
      rw [hc]
      exact List.mem_append_right _ List.mem_cons_self
    have hu := hi.abides.calls u hmem
    cases hact with
    | @act _ _ h' e next r hans =>
      have hasks : Asks config key spec vs h' e := hu.1
      cases hasks with
      | now => exact absurd (isSome_of_answers hans (by simp) ht) hstays
      | expire hx => exact ⟨_, hmem, hx, ⟨next, rfl⟩, _, .act hans⟩
      | reject => exact absurd (isSome_of_answers hans (by simp) ht) hstays
  -- nothing else deletes a task
  | @act h' e next r w' hturn hans =>
    have hd : Orderly key h' e := (hi.abides.turn _ hturn).1
    have hne : e ≠ .store (.deleteTask key.ns key.name) := by
      cases hd with
      | read => simp
      | persist => simp
      | act he =>
        intro hdel
        rw [hdel] at he
        cases he
    exact absurd (isSome_of_answers hans hne ht) hstays
  | @passActs l₁ l₂ k u u' w' hp hact =>
    have hu := forall_mem_at hi.abides.formed.passes hp
    cases hact with
    | @act _ _ h' e next r hans =>
      have hd : Pass.Due config k h' e := hu.1
      have hne : e ≠ .store (.deleteTask key.ns key.name) := by cases hd <;> simp
      exact absurd (isSome_of_answers hans hne ht) hstays
  | edit => exact absurd (h.outside _ rfl ht) hstays
  | _ => exact absurd ht hstays

/-- **Progress goes forward.** Whatever versions of a task the calls know, wherever advances
are cut short and whatever is created again beside them: each status stored goes forward
from the one before it. Once a version is terminal its status stays, no sidecar is asked and
no status written any more; and the task goes only by a call that found it expired. -/
theorem forward_of_lifetime (h : Lifetime config key spec s vs) :
    (vs.IsChain fun t t' => (t.status.getD {}).Forward (t'.status.getD {})) ∧
    (∀ t ∈ vs, t.phase.isTerminal = true →
      (∀ t', s.world.task? key = some t' → t'.status = t.status) ∧ s.Still key) ∧
    ∀ s', Told config key spec vs s s' → (s.world.task? key).isSome = true →
      s'.world.task? key = none → ∃ u ∈ s.calls, Expired config vs u.history ∧
        (∃ next, u.rest = .perform (.store (.deleteTask key.ns key.name)) next) ∧
        ∃ u', u.Acts s.world u' s'.world := by
  have hi := kept_of_lifetime h
  refine ⟨hi.versions.chain, fun t hmem hp => ?_, fun s' ht => hi.expired ht⟩
  exact ⟨hi.versions.ended t hmem hp, hi.still ⟨t, hmem, hp⟩⟩

/-! ## A whole life -/

/-- A step that leaves the task there, and makes no call, is told of whatever the versions are. -/
theorem told_of_step (h : Step config key spec s s') (hk : s.world.KeepsSpec s'.world key)
    (hlen : s'.calls.length ≤ s.calls.length)
    (hstay : (s.world.task? key).isSome = true → (s'.world.task? key).isSome = true) :
    Told config key spec vs s s' where
  step := h
  keeps := hk
  informed u hu := by
    rw [hu, List.length_cons] at hlen
    exact absurd hlen (Nat.not_succ_le_self _)
  outside w' he ht := by
    have hthere := hstay ht
    rw [he] at hthere
    exact hthere

/-- An advance whose turn it is can do effects while nothing else goes on, one after another. Each
status it stores is a version of the task, and the list of versions grows with it. -/
theorem lifetime_forward (n : Nat) {u : Underway (Except OperatorError Action)}
    (hl : Lifetime config key spec s vs) (hu : u.Holds (Due key) (fun _ _ => True))
    (hs : s.turn = some u) : ∃ s' vs', Lifetime config key spec s' vs' ∧
      s'.world = (u.forward n s.world).1 ∧ s'.calls = s.calls := by
  induction n generalizing s u vs with
  | zero => exact ⟨s, vs, hl, rfl, rfl⟩
  | succ n ih =>
    obtain ⟨h, rest⟩ := u
    cases rest with
    | done a => exact ⟨s, vs, hl, rfl, rfl⟩
    | crash => exact ⟨s, vs, hl, rfl, rfl⟩
    | perform e next =>
      have ha := Answers.answers_perform s.world e
      have hstep : Step config key spec s _ := .act s hs ha
      have hne : e ≠ .store (.deleteTask key.ns key.name) := by
        intro he
        have hd : Due key h e := hu.1
        rw [he] at hd
        cases hd with
        | act hq => cases hq
      have hnext := hl.next (told_of_step hstep (keepsSpec_of_due ha hu.1) le_rfl
        (isSome_of_answers ha hne))
      obtain ⟨s', vs', hl', hw, hc⟩ := ih hnext (hu.acts (.act ha)) rfl
      exact ⟨s', vs', hl', hw, hc⟩

/-- A task is reconciled, and its advance comes some effects far. This is how the example's task is
brought to its end. -/
theorem lifetime_advance (n : Nat) {t : CassandraTask} {u : WorkQueue.WorkUnit Action}
    (ht : w.task? key = some t) (hns : t.metadata.ns = some key.ns)
    (hname : t.metadata.anyName = key.name) (hu : Reconcile.task config t = .done (.queued u)) :
    ∃ s vs, Lifetime config key t.spec s vs ∧
      s.world = ((fresh config key).forward n w).1 ∧ s.calls = [] := by
  have hdue : (fresh config key).Holds (Due key) fun _ _ => True :=
    Program.Holds.mono (fun _ _ h => h) (fun _ _ _ => trivial) (holds_run config key)
  have hk := keepsSpec_refl w key
  -- The task is given to the reconciler, its unit is queued, and the queue starts the advance.
  let s₀ : Scene := ⟨w, [], [], none, [], []⟩
  let s₁ : Scene := { s₀ with calls := [.fresh (Reconcile.task config t)] }
  have hcalled : Told config key t.spec [t] s₀ s₁ := by
    refine ⟨.call s₀ t hns hname rfl, hk, fun v hv => ?_, fun w' he => ?_⟩
    · exact ⟨t, List.mem_singleton_self t, hns, hname, (List.cons.inj hv).1.symm⟩
    · cases congrArg Scene.calls he
  obtain ⟨hqueued, hbegun⟩ := steps_to_turn hns hname hu w []
  have hs₁ : s₁ = ⟨w, [⟨[], .done (.queued u)⟩], [], none, [], []⟩ := by
    rw [← hu]
    rfl
  rw [← hs₁] at hqueued
  have hl := (((Lifetime.start ht rfl).next hcalled).next
    (told_of_step hqueued hk (Nat.zero_le _) id)).next (told_of_step hbegun hk le_rfl id)
  exact lifetime_forward n hl hdue rfl

/-- A version older than the retention has a call go on to delete the task, once the clock has been
read. -/
theorem follows_expire {t : CassandraTask} (hname : t.metadata.anyName = key.name)
    {finished now : Instant} (hf : Reconcile.finishedAt? t = some finished)
    (hr : Reconcile.remaining? config.taskRetention finished now = none) :
    (Reconcile.expire config key.ns t).run.Follows [⟨.now, now⟩]
      (do Work.store (.deleteTask key.ns key.name); return Action.done : Work Action).run := by
  unfold Reconcile.expire
  rw [hf, hname]
  have hnow : (Work.ofProgram (Program.effect .now)).Comes [⟨.now, now⟩] now := ⟨_, rfl, rfl⟩
  have hgoes {f : Instant → Work Action} {w : Work Action} (hw : f now = w) :
      (Work.ofProgram (Program.effect .now) >>= f).run.Follows [⟨.now, now⟩] w.run :=
    hw ▸ hnow.bind f
  refine hgoes ?_
  rw [hr]

theorem follows_call {t : CassandraTask} (hns : t.metadata.ns = some key.ns)
    (hname : t.metadata.anyName = key.name) (hlive : t.metadata.deletionTimestamp = none)
    (hp : t.phase.isTerminal = true) {finished now : Instant}
    (hf : Reconcile.finishedAt? t = some finished)
    (hr : Reconcile.remaining? config.taskRetention finished now = none) :
    ∃ next, (Reconcile.task config t).Follows [⟨.now, now⟩]
      (.perform (.store (.deleteTask key.ns key.name)) next) := by
  unfold Reconcile.task
  rw [hns, hlive]
  dsimp only
  rw [if_neg (by simp), if_pos hp]
  exact ⟨_, Program.follows_bind (follows_expire hname hf hr) _⟩

/-- A task that has ended may be deleted once it is older than the retention, by a call that is made
with its last version. -/
theorem lifetime_expire {t : CassandraTask} (hl : Lifetime config key spec s vs)
    (hc : s.calls = []) (ht : s.world.task? key = some t) (hns : t.metadata.ns = some key.ns)
    (hname : t.metadata.anyName = key.name) (hlive : t.metadata.deletionTimestamp = none)
    (hp : t.phase.isTerminal = true) {finished : Instant}
    (hf : Reconcile.finishedAt? t = some finished)
    (hr : Reconcile.remaining? config.taskRetention finished s.world.clock = none) :
    ∃ s₁ s₂ vs', Lifetime config key spec s₁ vs' ∧ Told config key spec vs' s₁ s₂ ∧ t ∈ vs' ∧
      (s₁.world.task? key).isSome = true ∧ s₂.world.task? key = none := by
  have hv := (kept_of_lifetime hl).versions
  have hmem := hv.current ht
  have hk := keepsSpec_refl s.world key
  obtain ⟨next, asked, hcall, hasked⟩ := follows_call hns hname hlive hp hf hr
  let call : Effect := .store (.deleteTask key.ns key.name)
  let u₁ : Underway (WorkQueue.Job Action) := ⟨[], .perform .now asked⟩
  let u₂ : Underway (WorkQueue.Job Action) := ⟨[⟨.now, s.world.clock⟩], .perform call next⟩
  let s₁ : Scene := { s with calls := [u₁] }
  let s₂ : Scene := { s with calls := [u₂] }
  have hmade : Told config key spec vs s s₁ := by
    refine ⟨?_, hk, fun v hv => ⟨t, hmem, hns, hname, ?_⟩, fun w' he => ?_⟩
    · have h : Step config key spec s _ := .call s t hns hname (hv.specs t hmem)
      rwa [hc, hcall] at h
    · rw [hcall]
      exact (List.cons.inj hv).1.symm
    · cases (congrArg Scene.calls he).trans hc
  have htime : Step config key spec s₁ s₂ := by
    have hu : s₁.calls = [] ++ u₁ :: [] := rfl
    have ha : Answers s.world .now s.world.clock s.world := .performed s.world .now
    have hact : u₁.Acts s₁.world ⟨[⟨.now, s.world.clock⟩], asked s.world.clock⟩ s.world := .act ha
    rw [hasked] at hact
    exact .callActs s₁ hu hact
  have hl₂ := (hl.next hmade).next (told_of_step htime hk le_rfl id)
  -- the task goes
  let w' : World := { s.world with
    store := (s.world.store.perform (.deleteTask key.ns key.name)).2 }
  have hgone : w'.task? key = none := by
    show (s.world.store.perform (.deleteTask key.ns key.name)).2.tasks.find? key = none
    rw [MemoryStore.find?_deleteTask, if_pos rfl]
  have hdelete : Step config key spec s₂ _ :=
    .callActs s₂ (show s₂.calls = [] ++ u₂ :: [] from rfl) (.act (.acknowledged s.world _))
  refine ⟨s₂, _, _, hl₂, ⟨hdelete, fun v hv => ?_, fun v hv => ?_, fun w he _ => ?_⟩, ?_, ?_, hgone⟩
  · rw [hgone] at hv
    cases hv
  · cases congrArg List.length hv
  · cases congrArg (fun s => s.calls.map fun u => u.history.length) he
  · exact List.mem_append_left _ (List.mem_append_left _ hmem)
  · show (s.world.task? key).isSome = true
    rw [ht]
    rfl

/-- The world in which the task has been cleaned up. -/
def tidyWorld (config : Config) : World := ((fresh config tidyKey).forward 30 untidy).1

/-- A task is cleaned up and ends; a call finds it expired and deletes it. So a lifetime may come to
its end, and its versions go forward till then. -/
theorem tidied_then_expired : ∃ config s s' vs, Lifetime config tidyKey tidy.spec s vs ∧
    Told config tidyKey tidy.spec vs s s' ∧
    (vs.IsChain fun t t' => (t.status.getD {}).Forward (t'.status.getD {})) ∧
    (∃ t ∈ vs, t.phase = .succeed) ∧ s.Still tidyKey ∧ s'.world.task? tidyKey = none ∧
    ∃ u ∈ s.calls, Expired config vs u.history := by
  let config : Config := { taskRetention := 0 }
  have hu : ∃ u, Reconcile.task config tidy = .done (.queued u) := ⟨_, rfl⟩
  obtain ⟨u, hu⟩ := hu
  have hadvance : ∃ s vs, Lifetime config tidyKey tidy.spec s vs ∧
      s.world = tidyWorld config ∧ s.calls = [] := lifetime_advance 30 rfl rfl rfl hu
  obtain ⟨s, vs, hl, hw, hc⟩ := hadvance
  have hfacts : ((tidyWorld config).task? tidyKey).map (fun t => (t.metadata.ns,
      t.metadata.anyName, t.metadata.deletionTimestamp, t.phase, Reconcile.finishedAt? t)) =
      some (some "n", "t", none, .succeed, some (tidyWorld config).clock) := by
    decide +kernel
  obtain ⟨t, ht, hfacts⟩ := Option.map_eq_some_iff.mp hfacts
  simp only [Prod.mk.injEq] at hfacts
  obtain ⟨hns, hname, hlive, hphase, hf⟩ := hfacts
  have hp : t.phase.isTerminal = true := by
    rw [hphase]
    rfl
  rw [← hw] at ht hf
  -- With no retention nothing remains from the moment the task has finished.
  have hr : Reconcile.remaining? config.taskRetention s.world.clock s.world.clock = none := by
    unfold Reconcile.remaining?
    simp [config]
  obtain ⟨s₁, s₂, vs', hl', htold, hmem, hthere, hgone⟩ :=
    lifetime_expire hl hc ht hns hname hlive hp hf hr
  obtain ⟨hchain, hend, hdeleted⟩ := forward_of_lifetime hl'
  obtain ⟨u, hu, hexpired, -⟩ := hdeleted s₂ htold hthere hgone
  exact ⟨config, s₁, s₂, vs', hl', htold, hchain, ⟨t, hmem, hphase⟩, (hend t hmem hp).2, hgone,
    u, hu, hexpired⟩

end RackOperator.Advance
