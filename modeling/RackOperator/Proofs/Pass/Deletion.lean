import RackOperator.Proofs.Pass.Forward
import RackOperator.Reconcile

/-!
# A DataCenter that is being deleted

Whether a DataCenter is being deleted is looked at once, by the call that reconciles it, on
the copy the call was given. A copy without a deletion timestamp puts a pass in line; the
pass reads the DataCenter again when its turn comes, but does not look at the timestamp. So
a call that was given an older copy has a pass begin after the deletion, which writes and
registers members as ever (`not_left_alone`).

A `Scene` has the calls with the copies they were given, the passes in line and the pass
whose turn it is; `Runs` are its steps, with all versions of the DataCenter stored on the
way. `left_alone` says that older copies are the only way a pass gets to start: from a time
at which the DataCenter is being deleted, nothing is in line and the calls under way were
given copies that say so, and if further calls are given versions stored since, no pass
starts any more; and once a call has unregistered the members, and no pass that was under
way has yet to register, nothing is ever registered under the key again.
-/

namespace RackOperator.Deletion

open Relation (ReflTransGen)
open WorkQueue (Job WorkUnit)

/-- Whether a DataCenter is being deleted. -/
def Leaving (dc : DataCenter) : Prop := dc.metadata.deletionTimestamp.isSome = true

/-- A world, and what is under way in it around one DataCenter. -/
structure Scene where
  world : World
  /-- Calls that reconcile the DataCenter, each with the copy it was given. -/
  calls : List (DataCenter × Underway (Job Action)) := []
  /-- Passes in line. -/
  queued : List (WorkUnit Action) := []
  /-- The pass whose turn it is. -/
  turn : Option (Underway (Except OperatorError Action)) := none
  /-- The versions of the DataCenter that were stored so far. -/
  versions : List DataCenter := []

variable {config : Config} {key : ClusterKey} {s s' s₁ s₂ s₃ s₄ : Scene} {w w' : World}

/-- The DataCenter stored under the key. -/
def stored? (key : ClusterKey) (w : World) : Option DataCenter :=
  w.store.dataCenters.find? ⟨key.ns, key.name⟩

/-- The scene in another world, whose version of the DataCenter is remembered. -/
def Scene.at (s : Scene) (key : ClusterKey) (w : World) : Scene :=
  { s with world := w, versions := s.versions ++ (stored? key w).toList }

/-- The scene with no versions remembered but the one stored. -/
def Scene.since (s : Scene) (key : ClusterKey) : Scene :=
  { s with versions := (stored? key s.world).toList }

/-- The outside polls nobody under the key, creates no DataCenter there, and takes no deletion
back. -/
structure Revised (key : ClusterKey) (w w' : World) : Prop where
  registry : w'.registry.find? key = w.registry.find? key
  stored : ∀ dc', stored? key w' = some dc' → ∃ dc, stored? key w = some dc ∧
    (Leaving dc → Leaving dc')

/-- What can happen next around a DataCenter. -/
inductive Step (config : Config) (key : ClusterKey) : Scene → Scene → Prop
  /-- The DataCenter is reconciled, as some version of it says. -/
  | call (s : Scene) (dc : DataCenter) (hv : dc ∈ s.versions)
    (hns : dc.metadata.ns = some key.ns) (hname : dc.metadata.anyName = key.name) :
    Step config key s
      { s with calls := (dc, .fresh (Reconcile.dataCenter config dc)) :: s.calls }
  /-- A call does one effect. -/
  | callActs (s : Scene) {l₁ l₂ : List (DataCenter × Underway (Job Action))} {dc : DataCenter}
    {u u' : Underway (Job Action)} {w' : World} (hc : s.calls = l₁ ++ (dc, u) :: l₂)
    (ha : u.Acts s.world u' w') :
    Step config key s { s.at key w' with calls := l₁ ++ (dc, u') :: l₂ }
  /-- A call puts a pass in line. -/
  | queue (s : Scene) {l₁ l₂ : List (DataCenter × Underway (Job Action))} {dc : DataCenter}
    {h : History} {u : WorkUnit Action}
    (hc : s.calls = l₁ ++ (dc, ⟨h, .done (.queued u)⟩) :: l₂) :
    Step config key s { s with calls := l₁ ++ l₂, queued := s.queued ++ [u] }
  /-- It is the turn of a pass in line. -/
  | begin (s : Scene) {l₁ l₂ : List (WorkUnit Action)} {u : WorkUnit Action}
    (ht : s.turn = none) (hq : s.queued = l₁ ++ u :: l₂) :
    Step config key s { s with queued := l₁ ++ l₂, turn := some (.fresh u.work) }
  /-- The pass does one effect. -/
  | act (s : Scene) {u u' : Underway (Except OperatorError Action)} {w' : World}
    (ht : s.turn = some u) (ha : u.Acts s.world u' w') :
    Step config key s { s.at key w' with turn := some u' }
  /-- The pass ends, crashes or is cut short. -/
  | leave (s : Scene) : Step config key s { s with turn := none }
  /-- The outside changes the world. -/
  | edit (s : Scene) {w' : World} (h : Revised key s.world w') : Step config key s (s.at key w')

/-- Any number of steps. -/
abbrev Runs (config : Config) (key : ClusterKey) : Scene → Scene → Prop :=
  ReflTransGen (Step config key)

/-- Nothing is under way, and the version stored is the only one. -/
def start (key : ClusterKey) (w : World) : Scene where
  world := w
  versions := (stored? key w).toList

/-! ## What is under way -/

/-- What a call may do that was given a copy: forget the members, if the copy is being deleted. -/
inductive Called (key : ClusterKey) (dc : DataCenter) : History → Effect → Prop
  | unregister (hl : Leaving dc) : Called key dc [] (.unregister key)

/-- A call puts nothing in line but a pass, and that only if its copy is not being deleted. -/
def Queues (config : Config) (key : ClusterKey) (dc : DataCenter) (_ : History)
    (job : Job Action) : Prop :=
  ∀ u, job = .queued u → ¬Leaving dc ∧ u.key = key ∧ u.work = (Pass.run config key).run

/-- A call for a DataCenter that is being deleted has its members forgotten, and queues no pass; any
other call queues one pass and does nothing else. -/
theorem holds_call {dc : DataCenter} (hns : dc.metadata.ns = some key.ns)
    (hname : dc.metadata.anyName = key.name) :
    (Reconcile.dataCenter config dc).Holds (Called key dc) (Queues config key dc) [] := by
  have hkey : (⟨key.ns, dc.metadata.anyName⟩ : ClusterKey) = key := by
    rw [hname]
  unfold Reconcile.dataCenter
  rw [hns]
  dsimp only
  rw [hkey]
  -- the copy is the only thing that is looked at
  split
  next hl =>
    refine (Program.holds_bind _ _ _).mpr ⟨.unregister hl, fun r => ?_⟩
    intro u hu
    cases hu
  next hl =>
    intro u hu
    cases hu
    exact ⟨hl, rfl, rfl⟩

/-- What is under way goes by its program. -/
structure Formed (config : Config) (key : ClusterKey) (s : Scene) : Prop where
  calls : ∀ c ∈ s.calls, c.2.Holds (Called key c.1) (Queues config key c.1)
  queued : ∀ u ∈ s.queued, u.work = (Pass.run config key).run
  turn : ∀ u, s.turn = some u → u.Holds (Pass.Due config key) (fun _ _ => True)

theorem formed_start (config : Config) (key : ClusterKey) (w : World) :
    Formed config key (start key w) :=
  ⟨fun _ hc => absurd hc List.not_mem_nil, fun _ hu => absurd hu List.not_mem_nil, nofun⟩

/-- Every step leaves what is under way by the code: calls of copies, and passes of the key. -/
theorem formed_step (h : Step config key s s') (hf : Formed config key s) :
    Formed config key s' := by
  cases h with
  | call dc hv hns hname =>
    exact ⟨List.forall_mem_cons.mpr ⟨holds_call hns hname, hf.calls⟩, hf.queued, hf.turn⟩
  | callActs hc ha =>
    have hu := forall_mem_at hf.calls hc
    exact ⟨forall_mem_put hf.calls hc (hu.acts ha), hf.queued, hf.turn⟩
  | queue hc =>
    have hu := forall_mem_at hf.calls hc
    exact ⟨forall_mem_without hf.calls hc,
      List.forall_mem_append.mpr ⟨hf.queued, List.forall_mem_singleton.mpr (hu _ rfl).2.2⟩, hf.turn⟩
  | begin ht hq =>
    refine ⟨hf.calls, forall_mem_without hf.queued hq, fun v hv => ?_⟩
    cases hv
    rw [forall_mem_at hf.queued hq]
    exact Program.Holds.mono (fun _ _ h => h) (fun _ _ _ => trivial) (Pass.holds_run config key)
  | act ht ha =>
    refine ⟨hf.calls, hf.queued, fun u hu => ?_⟩
    cases hu
    exact (hf.turn _ ht).acts ha
  | leave => exact ⟨hf.calls, hf.queued, nofun⟩
  | edit => exact ⟨hf.calls, hf.queued, hf.turn⟩

/-! ## No pass starts -/

/-- A DataCenter stays one that is being deleted, whatever is done, as only its status is ever
written. -/
theorem leaving_of_answers {e : Effect} {r : e.Reply} (ha : Answers w e r w')
    (hl : ∀ dc, stored? key w = some dc → Leaving dc) :
    ∀ dc, stored? key w' = some dc → Leaving dc := by
  intro dc hdc
  obtain ⟨dc₀, hdc₀, he⟩ := ha.dataCenter_before hdc
  rw [he]
  exact hl dc₀ hdc₀

/-- The DataCenter is being deleted, all calls know, and no pass is in line. -/
structure Closing (config : Config) (key : ClusterKey) (s : Scene) : Prop where
  formed : Formed config key s
  stored : ∀ dc, stored? key s.world = some dc → Leaving dc
  versions : ∀ dc ∈ s.versions, Leaving dc
  calls : ∀ c ∈ s.calls, Leaving c.1
  idle : s.queued = []

/-- What is remembered of another world is being deleted too, so calls that are made from then on
are given nothing else. -/
theorem Closing.versions_at (hi : Closing config key s)
    (hl : ∀ dc, stored? key w' = some dc → Leaving dc) :
    ∀ dc ∈ s.versions ++ (stored? key w').toList, Leaving dc :=
  List.forall_mem_append.mpr ⟨hi.versions, fun dc hdc => hl dc (Option.mem_toList.mp hdc)⟩

/-- While all copies given out are being deleted, a step adds no pass. A call of such a copy ends
without queueing anything, and there is nothing else that queues. -/
theorem closing_step (h : Step config key s s') (hi : Closing config key s) :
    Closing config key s' := by
  have hf := formed_step h hi.formed
  cases h with
  | call dc hv hns hname =>
    exact ⟨hf, hi.stored, hi.versions, List.forall_mem_cons.mpr ⟨hi.versions dc hv, hi.calls⟩,
      hi.idle⟩
  | callActs hc ha =>
    have hu := forall_mem_at hi.calls hc
    cases ha with
    | act ha =>
      have hl := leaving_of_answers ha hi.stored
      exact ⟨hf, hl, hi.versions_at hl, forall_mem_put hi.calls hc hu, hi.idle⟩
  | @queue l₁ l₂ dc h u hc =>
    -- no call has anything to put in line
    have hdone := forall_mem_at hi.formed.calls hc
    have hq : Queues config key dc h (.queued u) := hdone
    exact absurd (forall_mem_at hi.calls hc) (hq u rfl).1
  | begin ht hq =>
    rw [hi.idle] at hq
    exact absurd hq (by simp)
  | act ht ha =>
    cases ha with
    | act ha =>
      have hl := leaving_of_answers ha hi.stored
      exact ⟨hf, hl, hi.versions_at hl, hi.calls, hi.idle⟩
  | leave => exact ⟨hf, hi.stored, hi.versions, hi.calls, hi.idle⟩
  | @edit w' he =>
    have hl : ∀ dc, stored? key w' = some dc → Leaving dc := by
      intro dc' hdc'
      obtain ⟨dc, hdc, hkeeps⟩ := he.stored dc' hdc'
      exact hkeeps (hi.stored dc hdc)
    exact ⟨hf, hl, hi.versions_at hl, hi.calls, hi.idle⟩

/-- So it stays for as long as the run goes on, by induction on its steps. -/
theorem closing_runs (hr : Runs config key s s') (hi : Closing config key s) :
    Closing config key s' := by
  induction hr with
  | refl => exact hi
  | tail _ hstep ih => exact closing_step hstep ih

/-- The pass whose turn it is was under way before, and has only gone on since: no other is in line
to follow it. -/
theorem turn_runs (hr : Runs config key s s') (hi : Closing config key s) :
    ∀ u', s'.turn = some u' → ∃ u, s.turn = some u ∧ u.history <+: u'.history := by
  -- No turn can begin with nothing queued: the one under way goes on or ends.
  induction hr with
  | refl => exact fun u' hu' => ⟨u', hu', List.prefix_rfl⟩
  | @tail t t' hr hstep ih =>
    intro u' hu'
    cases hstep with
    | begin ht hq =>
      rw [(closing_runs hr hi).idle] at hq
      exact absurd hq (by simp)
    | act ht ha =>
      cases hu'
      obtain ⟨u, hu, hpre⟩ := ih _ ht
      cases ha with
      | act ha => exact ⟨u, hu, hpre.trans (List.prefix_append _ _)⟩
    | leave => cases hu'
    | _ => exact ih u' hu'

/-! ## Nothing is registered -/

/-- A pass has registered its members. -/
def Registered (h : History) : Prop := ∃ a ∈ h, a.effect.isRegistration = true

/-- A pass registers once, so one that has registered does not put back what is forgotten later. -/
theorem not_registration_of_due {h : History} {e : Effect} (hd : Pass.Due config key h e)
    (hr : Registered h) : e.isRegistration = false := by
  cases hd with
  | register v hv =>
    obtain ⟨a, ha, he⟩ := hr
    have hno : ∀ a ∈ v.reads key, a.effect.isRegistration = false :=
      Pass.Survey.forall_mem_reads rfl rfl fun _ _ => rfl
    rw [hno a ha] at he
    cases he
  | _ => rfl

/-- Nobody is polled under the key, and no pass is going to change that. -/
structure Dropped (key : ClusterKey) (s : Scene) : Prop where
  registry : s.world.registry.find? key = none
  turn : ∀ u, s.turn = some u → Registered u.history

/-- Members that are forgotten stay so, if no pass that is under way has yet to register. Only a
pass registers members, and by `closing_step` none is added. -/
theorem dropped_step (h : Step config key s s') (hc : Closing config key s)
    (hi : Dropped key s) : Dropped key s' := by
  cases h with
  | call dc hv hns hname => exact ⟨hi.registry, hi.turn⟩
  | @callActs l₁ l₂ dc u u' w' hcalls ha =>
    have hu := forall_mem_at hc.formed.calls hcalls
    cases ha with
    | @act _ _ h e next r ha =>
      refine ⟨?_, hi.turn⟩
      -- a call can do nothing but unregister once more
      have hcalled : Called key dc h e := hu.1
      cases hcalled with
      | unregister =>
        cases ha with
        | performed =>
          exact (SortedMap.find?_erase _ _ _).trans (if_pos rfl)
  | queue hcalls => exact ⟨hi.registry, hi.turn⟩
  | begin ht hq =>
    rw [hc.idle] at hq
    exact absurd hq (by simp)
  | act ht ha =>
    cases ha with
    | @act _ _ h e next r ha =>
      -- the pass has registered before the call unregistered, and does so only once
      have hregistered : Registered h := hi.turn _ ht
      refine ⟨?_, fun u hu => ?_⟩
      · have hsame := ha.registry_eq (not_registration_of_due (hc.formed.turn _ ht).1 hregistered)
        exact (congrArg (SortedMap.find? · key) hsame).trans hi.registry
      · cases hu
        obtain ⟨a, hmem, he⟩ := hregistered
        exact ⟨a, List.mem_append_left _ hmem, he⟩
  | leave => exact ⟨hi.registry, nofun⟩
  | edit he => exact ⟨he.registry.trans hi.registry, hi.turn⟩

/-- A call that was given a copy being deleted has the members forgotten. -/
inductive Scene.Unregisters (key : ClusterKey) (s : Scene) : Scene → Prop
  | act {l₁ l₂ : List (DataCenter × Underway (Job Action))} {dc : DataCenter} {h : History}
    {next : Unit → Program (Job Action)} {r : Unit} {w' : World}
    (hc : s.calls = l₁ ++ (dc, ⟨h, .perform (.unregister key) next⟩) :: l₂)
    (ha : Answers s.world (.unregister key) r w') :
    Unregisters key s { s.at key w' with
      calls := l₁ ++ (dc, ⟨h ++ [⟨.unregister key, r⟩], next r⟩) :: l₂ }

/-- A call that has the members forgotten does so in a step of the system. -/
theorem Scene.Unregisters.step (h : s.Unregisters key s') : Step config key s s' := by
  cases h with
  | act hc ha => exact .callActs s hc (.act ha)

/-- With the members just forgotten, nobody of the DataCenter is left to be polled. -/
theorem dropped_of_unregisters (h : s.Unregisters key s')
    (hturn : ∀ u, s'.turn = some u → Registered u.history) : Dropped key s' := by
  refine ⟨?_, hturn⟩
  cases h with
  | act hc ha =>
    cases ha with
    | performed => exact (SortedMap.find?_erase _ _ _).trans (if_pos rfl)

theorem formed_runs (hr : Runs config key (start key w) s) : Formed config key s := by
  induction hr with
  | refl => exact formed_start config key w
  | tail _ hstep ih => exact formed_step hstep ih

/-- **Left alone.** The DataCenter stored is being deleted, nothing is in line, and all calls under
way were given copies that are being deleted. If further calls are given versions stored since, no
pass gets in line, let alone starts. Once one of the calls has the members forgotten, while no pass
that was under way has yet to register, nobody is ever polled under the key again. -/
theorem left_alone (hr : Runs config key (start key w) s₁)
    (hleaving : ∃ dc, stored? key s₁.world = some dc ∧ Leaving dc) (hline : s₁.queued = [])
    (hcalls : ∀ c ∈ s₁.calls, Leaving c.1) :
    (∀ s₂, Runs config key (s₁.since key) s₂ → s₂.queued = [] ∧
      ∀ u, s₂.turn = some u → ∃ u₁, s₁.turn = some u₁ ∧ u₁.history <+: u.history) ∧
    ∀ s₂ s₃ s₄, Runs config key (s₁.since key) s₂ → s₂.Unregisters key s₃ →
      (∀ u, s₃.turn = some u → Registered u.history) → Runs config key s₃ s₄ →
        s₄.world.registry.membersOf key = [] := by
  have hf := formed_runs hr
  -- What is under way from now on knows of no version that is not being deleted.
  have hclosing : Closing config key (s₁.since key) := by
    obtain ⟨dc, hdc, hl⟩ := hleaving
    have hstored : ∀ dc', stored? key s₁.world = some dc' → Leaving dc' := by
      intro dc' hdc'
      cases hdc.symm.trans hdc'
      exact hl
    exact ⟨⟨hf.calls, hf.queued, hf.turn⟩, hstored,
      fun dc' hv => hstored dc' (Option.mem_toList.mp hv), hcalls, hline⟩
  refine ⟨fun s₂ hr₂ => ⟨(closing_runs hr₂ hclosing).idle, fun u hu => ?_⟩, ?_⟩
  · exact turn_runs hr₂ hclosing u hu
  intro s₂ s₃ s₄ hr₂ hun hturn hr₄
  have hclosing₃ := closing_step hun.step (closing_runs hr₂ hclosing)
  suffices hs : Closing config key s₄ ∧ Dropped key s₄ by
    unfold Registry.membersOf
    rw [hs.2.registry]
    rfl
  -- On the steps since the members were forgotten; both invariants go along, as the second needs
  -- the first.
  induction hr₄ with
  | refl => exact ⟨hclosing₃, dropped_of_unregisters hun hturn⟩
  | tail _ hstep ih => exact ⟨closing_step hstep ih.1, dropped_step hstep ih.1 ih.2⟩

/-! ## An older copy -/

/-- The pass whose turn it is can do effects while nothing else goes on, one after another. Examples
are brought to where they are wanted by this. -/
theorem runs_forward (n : ℕ) {u : Underway (Except OperatorError Action)} (hs : s.turn = some u) :
    ∃ versions, Runs config key s { s with
      world := (u.forward n s.world).1, turn := some (u.forward n s.world).2, versions } := by
  have hstay : ∀ {s : Scene} {u : Underway (Except OperatorError Action)}, s.turn = some u →
      ∃ versions, Runs config key s { s with turn := some u, versions } := by
    intro s u hs
    refine ⟨s.versions, ?_⟩
    rw [← hs]
  induction n generalizing s u with
  | zero => exact hstay hs
  | succ n ih =>
    obtain ⟨h, rest⟩ := u
    cases rest with
    | done a => exact hstay hs
    | crash => exact hstay hs
    | perform e next =>
      let s' : Scene := { s.at key (s.world.perform e).2 with
        turn := some ⟨h ++ [⟨e, (s.world.perform e).1⟩], next (s.world.perform e).1⟩ }
      have hstep : Step config key s s' := .act s hs (.act (Answers.answers_perform s.world e))
      obtain ⟨versions, hr⟩ := ih (s := s') rfl
      exact ⟨versions, .head hstep hr⟩

/-- Whether an effect writes a Service, a StatefulSet or a task, or asks a member to leave. -/
def manages : Effect → Bool
  | .store (.ensureService ..) => true
  | .store (.createStatefulSet ..) => true
  | .store (.replaceStatefulSet ..) => true
  | .store (.createTask ..) => true
  | .request _ .decommission => true
  | _ => false

/-- A DataCenter of one member. -/
def wanted : DataCenter := Pass.small 1 1 1

/-- The same, being deleted. -/
def unwanted : DataCenter :=
  { wanted with metadata := { wanted.metadata with deletionTimestamp := some (.ofSeconds 0) } }

/-- Its key. -/
def wantedKey : ClusterKey := ⟨"n", "d"⟩

/-- A world with it, and with its member polled. -/
def settled : World where
  store := {
    dataCenters := SortedMap.insert {} wantedKey wanted
    statefulSets := SortedMap.insert {} ⟨"n", "c-d-rack1"⟩ (Pass.smallSet 1 0) }
  registry := SortedMap.insert {} wantedKey (wanted.naming.members (.new 0) 1)

/-- The world once it is being deleted. -/
def doomed : World :=
  { settled with store := { settled.store with
      dataCenters := settled.store.dataCenters.insert wantedKey unwanted } }

theorem stored?_settled : stored? wantedKey settled = some wanted := by
  show (SortedMap.insert {} wantedKey wanted).find? wantedKey = _
  rw [SortedMap.find?_insert, if_pos rfl]

theorem stored?_doomed : stored? wantedKey doomed = some unwanted := by
  show (settled.store.dataCenters.insert wantedKey unwanted).find? wantedKey = _
  rw [SortedMap.find?_insert, if_pos rfl]

/-- The scene in which the deletion has been stored. -/
def announced : Scene := (start wantedKey settled).at wantedKey doomed

theorem versions_announced : announced.versions = [wanted, unwanted] := by
  show (stored? wantedKey settled).toList ++ (stored? wantedKey doomed).toList = _
  rw [stored?_settled, stored?_doomed]
  rfl

/-- The deletion is stored while an earlier version is still known to callers. -/
theorem runs_announced (config : Config) :
    Runs config wantedKey (start wantedKey settled) announced := by
  refine .single (.edit _ ⟨rfl, fun dc' hdc' => ⟨wanted, stored?_settled, nofun⟩⟩)

/-- A call that is given the DataCenter being deleted. -/
def deleting (config : Config) (s : Scene) : Scene :=
  { s with calls := [(unwanted, .fresh (Reconcile.dataCenter config unwanted))] }

/-- The world once that call has had the members forgotten. -/
def forgotten : World := (doomed.perform (.unregister wantedKey)).2

/-- The call that was given the deleted version goes on to have the members forgotten. -/
theorem unregisters_deleting (config : Config) {s : Scene} (hw : s.world = doomed) :
    ∃ s', (deleting config s).Unregisters wantedKey s' ∧ s'.world = forgotten ∧
      s'.turn = s.turn ∧ s'.queued = s.queued ∧ s.versions ⊆ s'.versions := by
  have ha : Answers (deleting config s).world (.unregister wantedKey) () forgotten := by
    show Answers s.world _ _ _
    rw [hw]
    exact .performed doomed (.unregister wantedKey)
  have hc : (deleting config s).calls = [] ++ (unwanted, ⟨[], .perform (.unregister wantedKey)
      fun _ => .done (.settled (.ok .done))⟩) :: [] := rfl
  exact ⟨_, .act hc ha, rfl, rfl, rfl, List.subset_append_left _ _⟩

/-- A call that is given the older version has a pass begin where none is under way, since the pass
is queued by the copy and not by what is stored. -/
theorem runs_outdated (config : Config) {s : Scene} (hv : wanted ∈ s.versions)
    (hq : s.queued = []) (ht : s.turn = none) : ∃ s', Runs config wantedKey s s' ∧
      s'.world = s.world ∧ s'.turn = some (.fresh (Pass.run config wantedKey).run) := by
  let unit : WorkUnit Action :=
    ⟨wantedKey, "reconcile datacenter", (Pass.run config wantedKey).run⟩
  let s₁ : Scene := { s with calls := (wanted, ⟨[], .done (.queued unit)⟩) :: s.calls }
  let s₂ : Scene := { s with queued := s.queued ++ [unit] }
  have hcalled : Step config wantedKey s s₁ := .call s wanted hv rfl rfl
  have hqueued : Step config wantedKey s₁ s₂ :=
    .queue s₁ (show s₁.calls = [] ++ (wanted, ⟨[], .done (.queued unit)⟩) :: s.calls from rfl)
  have hline : s₂.queued = [] ++ unit :: [] := by
    show s.queued ++ [unit] = _
    rw [hq]
  exact ⟨_, .head hcalled (.head hqueued (.single (.begin s₂ ht hline))), rfl, rfl⟩

/-- The deletion has been stored, and a call that was given it is under way. -/
theorem runs_deleting (config : Config) :
    Runs config wantedKey (start wantedKey settled) (deleting config announced) := by
  have hv : unwanted ∈ announced.versions := by
    rw [versions_announced]
    exact List.mem_cons_of_mem _ List.mem_cons_self
  exact (runs_announced config).tail (.call announced unwanted hv rfl rfl)

/-- **Not left alone.** With a call that was given the older version, a pass starts after the
deletion and writes the Service; and it registers the members that a call has just had forgotten. -/
theorem not_left_alone :
    (¬∀ config key w s₁ s₂, Runs config key (start key w) s₁ →
      (∃ dc, stored? key s₁.world = some dc ∧ Leaving dc) → s₁.turn = none →
        Runs config key s₁ s₂ → ∀ h e next, s₂.turn = some ⟨h, .perform e next⟩ →
          manages e = false) ∧
    ¬∀ config key w s₁ s₂ s₃, Runs config key (start key w) s₁ → s₁.turn = none →
      s₁.Unregisters key s₂ → Runs config key s₂ s₃ →
        s₃.world.registry.membersOf key = [] := by
  have hr := runs_deleting {}
  -- The members are forgotten while a caller still has the older version, and then that call is
  -- made.
  obtain ⟨s₂, hun, hw, ht, hq, hv⟩ := unregisters_deleting {} (s := announced) rfl
  have hwanted : wanted ∈ s₂.versions := by
    refine hv ?_
    rw [versions_announced]
    exact List.mem_cons_self
  obtain ⟨s₃, hr₃, hw₃, ht₃⟩ := runs_outdated {} hwanted (hq.trans rfl) (ht.trans rfl)
  have hpass (n : ℕ) : ∃ versions, Runs {} wantedKey s₃ { s₃ with
      world := ((Underway.fresh (Pass.run {} wantedKey).run).forward n s₃.world).1
      turn := some ((Underway.fresh (Pass.run {} wantedKey).run).forward n s₃.world).2
      versions } := runs_forward n ht₃
  rw [hw₃, hw] at hpass
  constructor
  · intro hall
    -- Once its pass has read the DataCenter, it is about to see to the Service.
    have hnext : (((Underway.fresh (Pass.run {} wantedKey).run).forward 1 forgotten).2.next?).map
        manages = some true := by
      decide +kernel
    obtain ⟨e, he, hmanages⟩ := Option.map_eq_some_iff.mp hnext
    obtain ⟨next, hrest⟩ := Underway.exists_perform he
    obtain ⟨versions, hrun⟩ := hpass 1
    have hnot := hall {} wantedKey settled _ _ hr ⟨unwanted, stored?_doomed, rfl⟩ rfl
      ((hr₃.head hun.step).trans hrun) _ e next (congrArg some hrest)
    rw [hmanages] at hnot
    cases hnot
  · intro hall
    -- After four effects the pass has registered the members again.
    obtain ⟨versions, hrun⟩ := hpass 4
    have hnone := hall {} wantedKey settled _ _ _ hr rfl hun (hr₃.trans hrun)
    have hsome : (((Underway.fresh (Pass.run {} wantedKey).run).forward 4
        forgotten).1.registry.membersOf wantedKey).length = 1 := by
      decide +kernel
    rw [show _ = [] from hnone] at hsome
    cases hsome

/-- Where no older version is around, the members stay forgotten. So the conditions for being left
alone are met by a run. -/
theorem stays_forgotten : ∃ config key w s₁ s₂ s₃, Runs config key (start key w) s₁ ∧
    (∃ dc, stored? key s₁.world = some dc ∧ Leaving dc) ∧ s₁.queued = [] ∧
      (∀ c ∈ s₁.calls, Leaving c.1) ∧ Runs config key (s₁.since key) s₂ ∧
        (s₂.world.registry.membersOf key).length = 1 ∧ s₂.Unregisters key s₃ ∧
          ∀ s₄, Runs config key s₃ s₄ → s₄.queued = [] ∧ s₄.world.registry.membersOf key = [] := by
  let config : Config := {}
  have hnone : ∀ c ∈ announced.calls, Leaving c.1 := fun c hc => absurd hc List.not_mem_nil
  obtain ⟨hidle, hdropped⟩ := left_alone (runs_announced config) ⟨unwanted, stored?_doomed, rfl⟩
    rfl hnone
  have hv : unwanted ∈ (announced.since wantedKey).versions := by
    show unwanted ∈ (stored? wantedKey doomed).toList
    rw [stored?_doomed]
    exact List.mem_cons_self
  have hcalled : Runs config wantedKey (announced.since wantedKey)
      (deleting config (announced.since wantedKey)) :=
    .single (.call (announced.since wantedKey) unwanted hv rfl rfl)
  obtain ⟨s₃, hun, hw, ht, -, -⟩ := unregisters_deleting config (s := announced.since wantedKey) rfl
  have hpolled : (doomed.registry.membersOf wantedKey).length = 1 := by decide +kernel
  refine ⟨config, wantedKey, settled, announced, _, s₃, runs_announced config,
    ⟨unwanted, stored?_doomed, rfl⟩, rfl, hnone, hcalled, hpolled, hun, fun s₄ hr₄ => ⟨?_, ?_⟩⟩
  · exact (hidle s₄ ((hcalled.tail hun.step).trans hr₄)).1
  · refine hdropped _ s₃ s₄ hcalled hun (fun u hu => ?_) hr₄
    rw [ht] at hu
    cases hu

end RackOperator.Deletion
