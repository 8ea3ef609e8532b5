import Mathlib
import RackOperator.Proofs.Pass.Records
import RackOperator.Proofs.Pass.Statuses

/-!
# Passes with nothing to do

A pass is quiet if it writes no StatefulSet and asks no sidecar. A quiet pass that succeeds has
stored a status, and the next pass finds the same StatefulSets, the same Service and, while the
cache stays as it is, the same statuses. It differs in what it starts from: the phase and the error
the first one stored.

Neither makes a difference. The phase bears on a decision only through the cleanup that is due when
everything has converged, and the phase stored then asks for none (`decide_again`). What is observed
is put into the status again as it is there (`observed?_again`), and the error is recorded or
dropped as before (`Applied.again`). So the status of the second pass is that of the first, and
nothing else is written (`quiet_repeats`).
-/

namespace RackOperator

/-! ## What does not change around a pass -/

/-- What answers a program beside the store, and does not change meanwhile: the cache, and whether a
sidecar can be got hold of. -/
structure Surroundings where
  cache : StatusCache
  connects : Member → Except OperatorError Unit

namespace Surroundings

variable (x : Surroundings) {α : Type}

/-- An answer is the one the surroundings give, if it is theirs to give. -/
def Gives : (e : Effect) → e.Reply → Prop
  | .snapshot ms, r => r = x.cache.snapshot ms
  | .connect m, r => r = x.connects m
  | _, _ => True

/-- All that was done was answered as the surroundings do. -/
def Gave (h : History) : Prop := ∀ a ∈ h, x.Gives a.effect a.reply

/-- There is always an answer: the store gives one to every call, and the surroundings to everything
else. -/
theorem exists_answer (s : MemoryStore) (e : Effect) :
    ∃ r s', s.Serves e r s' ∧ x.Gives e r := by
  cases e with
  | store call => exact ⟨_, _, ⟨rfl, rfl⟩, trivial⟩
  | connect m => exact ⟨x.connects m, s, rfl, rfl⟩
  | request m r => exact ⟨.error (.invalidConfig ""), s, rfl, trivial⟩
  | requestAll ms r => exact ⟨[], s, rfl, trivial⟩
  | snapshot ms => exact ⟨x.cache.snapshot ms, s, rfl, rfl⟩
  | now => exact ⟨.ofSeconds 0, s, rfl, trivial⟩
  | _ => exact ⟨(), s, rfl, trivial⟩

/-- Every program can be run to its end in them, so the pass that repeats a quiet one exists. -/
theorem exists_ran (p : Program α) (s : MemoryStore) :
    ∃ h o s', p.Ran s h o s' ∧ x.Gave h := by
  induction p generalizing s with
  | done a => exact ⟨[], some a, s, .done a s, fun _ ha => absurd ha List.not_mem_nil⟩
  | crash => exact ⟨[], none, s, .crash s, fun _ ha => absurd ha List.not_mem_nil⟩
  | perform e next ih =>
    obtain ⟨r, s₁, hs, hr⟩ := x.exists_answer s e
    obtain ⟨h, o, s', hran, hall⟩ := ih r s₁
    exact ⟨⟨e, r⟩ :: h, o, s', .perform hs hran, List.forall_mem_cons.mpr ⟨hr, hall⟩⟩

end Surroundings

/-- Whether an effect writes a StatefulSet or asks a sidecar. -/
def Effect.disturbs : Effect → Bool
  | .store call => call.statefulSet?.isSome
  | .request .. => true
  | .requestAll .. => true
  | _ => false

/-- No StatefulSet was written and no sidecar asked. -/
def History.Quiet (h : History) : Prop := ∀ a ∈ h, a.effect.disturbs = false

/-! ## The decision and the status once more -/

namespace Decision

/-- What is decided once the phase of a decision is stored: the same, but no cleanup. -/
def again : Decision → Decision
  | converged _ => converged false
  | d => d

/-- The decision that follows a quiet one writes a StatefulSet exactly if that one did. -/
theorem writesStatefulSet_again (d : Decision) :
    d.again.writesStatefulSet = d.writesStatefulSet := by
  cases d <;> rfl

/-- A cleanup is created once: the pass that follows converges without it. -/
theorem again_ne_cleanup (d : Decision) : d.again ≠ .converged true := by
  cases d <;> exact nofun

/-- What is decided from the phase of a decision is that decision, without its cleanup. -/
theorem decide_again (o : Observation) (previous : DataCenterPhase) (size : Int) :
    decide o ((decide o previous size).phase previous) size = (decide o previous size).again := by
  rcases decide_previous o previous ((decide o previous size).phase previous) size with
    ⟨hne, he⟩ | ⟨hc, he⟩
  · rw [he]
    cases hd : decide o previous size with
    | converged cleanup => exact absurd hd (hne cleanup)
    | _ => rfl
  · rw [he, hc]
    rfl

end Decision

/-- A status that tells what is observed already is left as it is, whatever its phase and error. -/
theorem DataCenterStatus.observed?_again {st observed : DataCenterStatus} {o : Observation}
    {generation : Option Int64} (h : st.observed? o generation = some observed)
    (phase : DataCenterPhase) (error : Option String) :
    ({ observed with phase, lastErrorMessage := error } : DataCenterStatus).observed? o generation =
      some { observed with phase, lastErrorMessage := error } := by
  obtain ⟨replicas, ready, hreplicas, hready, rfl⟩ := observed?_eq_some h
  unfold observed?
  rw [hreplicas, hready]
  rfl

namespace Pass

variable {config : Config} {key : ClusterKey} {v : Survey} {x : Surroundings}
  {s s₀ s₁ : MemoryStore}

/-- The survey of the same things when another status is stored. -/
def Survey.again (v : Survey) (st : DataCenterStatus) : Survey :=
  { v with dc := { v.dc with status := some st } }

/-- A survey of the same racks, made after the status of the decision was stored, comes to that
decision again. -/
theorem Survey.decision_again (v : Survey) (st : DataCenterStatus)
    (h : st.phase = v.decision.phase v.dc.previousPhase) :
    (v.again st).decision = v.decision.again := by
  show Decision.decide v.observation st.phase v.dc.spec.replicas.toInt = _
  rw [h]
  exact Decision.decide_again v.observation v.dc.previousPhase v.dc.spec.replicas.toInt

/-! ## What is done once more -/

variable {m : Member} {tries tries' : History} {y y' : Except OperatorError Unit}

/-- Whoever is asked at all is disturbed, so a quiet pass has asked nobody. -/
theorem Asking.disturbs {more : Nat} (h : Asking config m more tries y) :
    ∃ a ∈ tries, a.effect.disturbs = true := by
  cases h with
  | accepted => exact ⟨_, List.mem_cons_self, rfl⟩
  | spent => exact ⟨_, List.mem_cons_self, rfl⟩
  | again => exact ⟨_, List.mem_cons_self, rfl⟩

/-- A member that was not asked could not be got hold of, since nothing but its connection stands
before the first attempt. -/
theorem Parting.unreached_of_quiet (h : Parting config m tries y) (hq : History.Quiet tries) :
    ∃ err, tries = [⟨.connect m, .error err⟩] ∧ y = .error err := by
  cases h with
  | unreached err => exact ⟨err, rfl, rfl⟩
  | reached ha =>
    obtain ⟨a, hmem, hd⟩ := ha.disturbs
    rw [hq a (List.mem_cons_of_mem _ hmem)] at hd
    cases hd

/-- A member that cannot be got hold of is not asked, and its connection fails with the same error
again. -/
theorem Parting.unreached_of_gave (h : Parting config m tries y) (hx : x.Gave tries)
    {err : OperatorError} (hm : x.connects m = .error err) :
    tries = [⟨.connect m, .error err⟩] ∧ y = .error err := by
  have hconnect := fun r rest (he : tries = ⟨.connect m, r⟩ :: rest) => by
    have hr : x.Gives (.connect m) r :=
      hx ⟨.connect m, r⟩ (by rw [he]; exact List.mem_cons_self)
    exact Eq.trans hr hm
  cases h with
  | unreached err' =>
    cases hconnect _ _ rfl
    exact ⟨rfl, rfl⟩
  | reached ha => cases hconnect _ _ rfl

section Applications

variable {v' : Survey} {st observed told told' : DataCenterStatus} {d : Decision}
  {done done' : History}

/-- Of what is observed a decision changes at most the error, which is that of the member it could
not get hold of. -/
theorem Applied.told_eq (h : Applied config key v s observed d done told) :
    told = { observed with lastErrorMessage := told.lastErrorMessage } := by
  cases h <;> rfl

theorem not_quiet_replacing {sts : StatefulSet} {entry : AuditEntry} :
    ¬History.Quiet (replacing key s sts entry) :=
  fun hq => nomatch hq _ List.mem_cons_self

theorem Applied.idle_of_quiet (h : Applied config key v s observed d done told)
    (hq : History.Quiet done) : d.writesStatefulSet = false := by
  cases h with
  | updateRack => exact absurd hq not_quiet_replacing
  | scaleUp => exact absurd hq not_quiet_replacing
  | scaleDown => exact absurd hq not_quiet_replacing
  | _ => rfl

/-- Where a decision was applied quietly, it is applied once more to the same effect: the sidecars
are seen to be as they were, and the status comes out as it is. -/
theorem Applied.again {previous : DataCenterPhase}
    (h : Applied config key v s observed d done told) (hx : x.Gave done)
    (hq : History.Quiet done) (hst : st = { told with phase := d.phase previous })
    (h' : Applied config key v' s₁ st d.again done' told') (hx' : x.Gave done') :
    { told' with phase := d.again.phase st.phase } = st ∧ History.Quiet done' ∧
      History.sidecars done' = History.sidecars done := by
  subst hst
  have hidle : History.Quiet [] := fun a ha => absurd ha List.not_mem_nil
  -- A decision that wrote a StatefulSet was not quiet, and neither was one that asked a member;
  -- what is left has done nothing, or has failed to get hold of a member.
  cases h with
  | inconsistent reason =>
    cases h'
    exact ⟨rfl, List.forall_mem_singleton.mpr rfl, rfl⟩
  | waitForRacks racks =>
    cases h'
    exact ⟨rfl, hidle, rfl⟩
  | waitForMembers ms =>
    cases h'
    exact ⟨rfl, hidle, rfl⟩
  | updateRack r hg => exact absurd hq not_quiet_replacing
  | scaleUp r n hg => exact absurd hq not_quiet_replacing
  | scaleDown r n m hg => exact absurd hq not_quiet_replacing
  | decommissioned r m hp =>
    obtain ⟨err, -, he⟩ := hp.unreached_of_quiet fun a ha => hq a (List.mem_append_left _ ha)
    cases he
  | @refused r m _ err hp =>
    obtain ⟨_, rfl, he⟩ := hp.unreached_of_quiet fun a ha => hq a (List.mem_append_left _ ha)
    cases he
    -- The surroundings are the same the second time, so the connection fails with the same error.
    have hm : x.connects m = .error err := (hx _ List.mem_cons_self).symm
    cases h' with
    | decommissioned _ _ hp' =>
      cases (hp'.unreached_of_gave (fun a ha => hx' a (List.mem_append_left _ ha)) hm).2
    | refused _ _ hp' =>
      obtain ⟨rfl, he'⟩ :=
        hp'.unreached_of_gave (fun a ha => hx' a (List.mem_append_left _ ha)) hm
      cases he'
      exact ⟨rfl, hq, rfl⟩
  | waitForDecommission r m status =>
    cases h'
    exact ⟨rfl, hidle, rfl⟩
  | converged =>
    cases h'
    exact ⟨rfl, hidle, rfl⟩
  | cleanup =>
    cases h'
    exact ⟨rfl, hidle, rfl⟩

end Applications

/-! ## The second pass -/

theorem written?_eq_none {o : Observation} {d : Decision} (hd : d.writesStatefulSet = false) :
    d.written? o = none := by
  cases d with
  | updateRack => cases hd
  | scaleUp => cases hd
  | scaleDown => cases hd
  | _ => rfl

/-- A survey is settled with a status: the status is stored, the StatefulSets are those found, the
Service is there, and no status write is refused. -/
structure Survey.Settled (v : Survey) (key : ClusterKey) (st : DataCenterStatus)
    (s : MemoryStore) : Prop where
  dataCenter : s.dataCenters.find? ⟨key.ns, key.name⟩ = some (v.again st).dc
  found : ∀ p ∈ v.found, stored? key v.dc s p.1 = some p.2
  served : served key v.dc s = s
  reported : reported key s st =
    (.ok (), { s with journal := s.journal ++ [.dataCenterStatus key.name st] })

/-- A decision that writes no StatefulSet leaves them and the Services as they were, so the next
survey finds the same. -/
theorem acted_of_quiet (key : ClusterKey) (hd : v.decision.writesStatefulSet = false)
    (s : MemoryStore) :
    (v.acted key s).statefulSets = s.statefulSets ∧ (v.acted key s).services = s.services := by
  rcases acted_cases v key s with ⟨sts, hw, -⟩ | ⟨-, hacted⟩ | ⟨-, -, hacted⟩
  · rw [written?_eq_none hd] at hw
    cases hw
  · rw [hacted]
    exact ⟨rfl, rfl⟩
  · rw [hacted]
    exact ⟨rfl, rfl⟩

/-- A pass that writes no StatefulSet and has its status stored leaves the store as its survey found
it, but for that status. -/
theorem settled_of_quiet (hr : v.Reads key s) (hd : v.decision.writesStatefulSet = false)
    {st : DataCenterStatus} {u : Unit}
    (hok : (reported key (v.acted key (served key v.dc s)) st).1 = .ok u) :
    v.Settled key st (reported key (v.acted key (served key v.dc s)) st).2 ∧
      ∃ made, (reported key (v.acted key (served key v.dc s)) st).2.journal =
        s.journal ++ made ++ [.dataCenterStatus key.name st] := by
  have hdc := dataCenter_acted hr
  have hrefused := MemoryStore.refused_of_acknowledged hok
  obtain ⟨hsets, hservices⟩ := acted_of_quiet key hd (served key v.dc s)
  obtain ⟨made, hmade⟩ : s.journal <+: (v.acted key (served key v.dc s)).journal := by
    refine (MemoryStore.journal_perform s (.ensureService key.ns v.dc.service)).trans ?_
    rcases acted_cases v key (served key v.dc s) with ⟨_, -, hacted⟩ | ⟨-, hacted⟩ | ⟨-, -, hacted⟩
    · rw [hacted]
      exact MemoryStore.journal_perform _ _
    · rw [hacted]
      exact MemoryStore.journal_perform _ _
    · rw [hacted]
      exact List.prefix_rfl
  -- Only that it has the same StatefulSets and Services matters from here on.
  generalize v.acted key (served key v.dc s) = s' at *
  have hreport : reported key s' st = _ :=
    MemoryStore.perform_replaceDataCenterStatus hdc hrefused st
  have hfind : (reported key s' st).2.dataCenters.find? ⟨key.ns, key.name⟩ =
      some (v.again st).dc := MemoryStore.find?_of_acknowledged hdc hok
  refine ⟨⟨hfind, fun p hp => ?_, ?_, ?_⟩, made, ?_⟩
  · rw [stored?_of_eq ((statefulSets_reported s' st).trans hsets),
      stored?_of_eq (statefulSets_served v.dc s)]
    exact hr.found p hp
  · refine MemoryStore.perform_ensureService_again (s := s) ?_
    exact (MemoryStore.services_perform s' (by simp)).trans hservices
  · refine (MemoryStore.perform_replaceDataCenterStatus hfind
      (MemoryStore.refusedStatusWrites_perform hrefused _) st).trans ?_
    rw [hreport]
    dsimp only
    -- The same status written twice leaves what writing it once does.
    rw [SortedMap.insert_insert]
    rfl
  · rw [hreport, hmade]

/-- A pass over the store a survey was settled in comes to the survey of the same things, so it goes
the same way. -/
theorem way_of_settled {st : DataCenterStatus} (hs : v.Settled key st s) (hv : v.Whole)
    (hstatuses : v.statuses = x.cache.snapshot v.members)
    (ho : st.observed? v.observation v.dc.metadata.generation = some st) {h : History}
    {o : Option (Except OperatorError Action)} {s' : MemoryStore}
    (hran : Program.Ran (run config key).run s h o s') (hx : x.Gave h) :
    ∃ done told, Applied config key (v.again st) s st (v.again st).decision done told ∧
      h = (v.again st).history key ++ done ++
        [⟨.store (.replaceDataCenterStatus key.ns key.name ((v.again st).status told)),
          (reported key ((v.again st).acted key s) ((v.again st).status told)).1⟩] ∧
      o = some ((reported key ((v.again st).acted key s) ((v.again st).status told)).1.map
        fun _ => next config (v.again st).decision) ∧
      s' = (reported key ((v.again st).acted key s) ((v.again st).status told)).2 := by
  have hwhole : (v.again st).Whole := ⟨hv.racks, hv.plan⟩
  have hnone : missing key (v.again st).dc s = [] :=
    missing_eq_nil hwhole ⟨hs.dataCenter, hs.found⟩
  have hsame : ∀ {dc found}, dc = (v.again st).dc → found.map (·.1) = dc.racks →
      (∀ p ∈ found, stored? key dc s p.1 = some p.2) → found = v.found := by
    intro dc found hdc hracks hf
    subst hdc
    exact found_unique (hracks.trans hv.racks.symm) hs.found hf
  -- Whatever the second pass reads is what the first one did, but for the status.
  have hsurvey : ∀ {v' : Survey}, v'.Whole → v'.Reads key s → x.Gave (v'.history key) →
      v' = v.again st := by
    rintro ⟨dc, found, planned, statuses⟩ hv' hr' hx'
    cases hs.dataCenter.symm.trans hr'.dataCenter
    cases hsame rfl hv'.racks hr'.found
    cases hv.plan.symm.trans hv'.plan
    have hsnapshot : statuses = x.cache.snapshot v.members :=
      hx' ⟨.snapshot v.members, statuses⟩ (List.mem_append_right _ (List.mem_pair.mpr (.inr rfl)))
    rw [hsnapshot, ← hstatuses]
    rfl
  have hserved : served key (v.again st).dc s = s := hs.served
  -- The DataCenter and its racks are there, the plan exists and the status can be made: one way is
  -- left.
  cases way_of_ran hran with
  | gone hdc =>
    rw [hs.dataCenter] at hdc
    cases hdc
  | created hdc hm =>
    cases hs.dataCenter.symm.trans hdc
    exact absurd hnone hm
  | @unplanned v' hdc _ hracks hf hplan =>
    obtain ⟨dc, found, planned, statuses⟩ := v'
    cases hs.dataCenter.symm.trans hdc
    cases hsame rfl hracks hf
    cases hplan.symm.trans hv.plan
  | unsummed hv' hr' ho' =>
    cases hsurvey hv' hr' hx
    cases ho.symm.trans ho'
  | @settled v' hv' hr' _ _ ho' _ ha =>
    cases hsurvey hv' hr' fun a h =>
      hx a (List.mem_append_left _ (List.mem_append_left _ h))
    cases ho.symm.trans ho'
    rw [hserved] at ha ⊢
    exact ⟨_, _, ha, rfl, rfl, rfl⟩

theorem quiet_history (key : ClusterKey) (v : Survey) : History.Quiet (v.history key) :=
  Survey.forall_mem_history (Survey.forall_mem_reads rfl rfl fun _ _ => rfl) rfl rfl

/-- Creating racks is not, so a quiet pass found all of them there. -/
theorem not_quiet_creations {dc : DataCenter} {racks : List Rack} (hne : racks ≠ []) :
    ¬History.Quiet (creations key dc s racks) := by
  cases racks with
  | nil => exact absurd rfl hne
  | cons r rest => exact fun hq => nomatch hq _ List.mem_cons_self

/-- Quiet passes are idempotent. A pass that succeeds without writing a StatefulSet or asking a
sidecar is repeated by the next one, if the cache and the reachability of the sidecars are the same:
that one ends with the same action, has tried for the same sidecars and is quiet too, and where
there is a DataCenter, all it changes is to put on record once more the status that the first one
recorded last. -/
theorem quiet_repeats {h : History} {a : Action}
    (hran : Program.Ran (run config key).run s h (some (.ok a)) s₁) (hx : x.Gave h)
    (hq : History.Quiet h) :
    (∃ h' o s', Program.Ran (run config key).run s₁ h' o s' ∧ x.Gave h') ∧
      ∀ h' o s', Program.Ran (run config key).run s₁ h' o s' → x.Gave h' →
        o = some (.ok a) ∧ History.Quiet h' ∧ History.sidecars h' = History.sidecars h ∧
          (s.dataCenters.find? ⟨key.ns, key.name⟩ = none ∧ s₁ = s ∧ s' = s ∨
            ∃ made status,
              s₁.journal = s.journal ++ made ++ [.dataCenterStatus key.name status] ∧
                s' = { s₁ with
                  journal := s₁.journal ++ [.dataCenterStatus key.name status] }) := by
  refine ⟨x.exists_ran _ s₁, fun h' o' s' hran' hx' => ?_⟩
  have hway := way_of_ran hran
  generalize ho : (some (.ok a) : Option (Except OperatorError Action)) = o at hway
  -- By the way of the first pass: there was no DataCenter, or it has settled its decision.
  cases hway with
  | gone hdc =>
    cases ho
    cases way_of_ran hran' with
    | gone => exact ⟨rfl, hq, rfl, .inl ⟨hdc, rfl, rfl⟩⟩
    | created hdc' => cases hdc.symm.trans hdc'
    | unplanned hdc' => cases hdc.symm.trans hdc'
    | unsummed _ hr' => cases hdc.symm.trans hr'.dataCenter
    | settled _ hr' => cases hdc.symm.trans hr'.dataCenter
  | @created dc hdc hm =>
    refine absurd (fun a ha => hq a (List.mem_append_right _ ha)) (not_quiet_creations hm)
  | unplanned => cases ho
  | unsummed => cases ho
  | @settled v hv hr observed told hobs done ha =>
    have hdone : ∀ {e : Answered}, e ∈ done → e ∈ v.history key ++ done := List.mem_append_right _
    have hx₁ : x.Gave done := fun e he => hx e (List.mem_append_left _ (hdone he))
    have hq₁ : History.Quiet done := fun e he => hq e (List.mem_append_left _ (hdone he))
    obtain ⟨u, hok, rfl⟩ : ∃ u,
        (reported key (v.acted key (served key v.dc s)) (v.status told)).1 = .ok u ∧
          a = next config v.decision := by
      cases hreport : (reported key (v.acted key (served key v.dc s)) (v.status told)).1 with
      | error e =>
        rw [hreport] at ho
        cases ho
      | ok u =>
        rw [hreport] at ho
        cases ho
        exact ⟨u, rfl, rfl⟩
    obtain ⟨hset, made, hmade⟩ := settled_of_quiet hr (ha.idle_of_quiet hq₁) hok
    have hstatuses : v.statuses = x.cache.snapshot v.members :=
      hx ⟨.snapshot v.members, v.statuses⟩ (List.mem_append_left _ (List.mem_append_left _
        (List.mem_append_right _ (List.mem_pair.mpr (.inr rfl)))))
    -- The status stored says what is observed, so the second pass observes what is there already.
    have hagain : (v.status told).observed? v.observation v.dc.metadata.generation =
        some (v.status told) := by
      rw [ha.told_eq]
      exact DataCenterStatus.observed?_again hobs _ _
    obtain ⟨done', told', ha', hh', ho', hs'⟩ := way_of_settled hset hv hstatuses hagain hran' hx'
    have hd := v.decision_again (v.status told) rfl
    have hidle := ha.idle_of_quiet hq₁
    rw [hd] at ha'
    obtain ⟨hstatus, hq', hsidecars⟩ := ha.again hx₁ hq₁ rfl ha' fun e he =>
      hx' e (by rw [hh']; exact List.mem_append_left _ (List.mem_append_right _ he))
    -- The phase follows from the decision, which is the same but for the cleanup.
    have hsame : (v.again (v.status told)).status told' = v.status told := by
      refine Eq.trans ?_ hstatus
      rw [← hd]
      rfl
    rw [acted_of_idle (written?_eq_none (by rw [hd, Decision.writesStatefulSet_again, hidle]))
      (by rw [hd]; exact v.decision.again_ne_cleanup), hsame] at hh' ho' hs'
    rw [hset.reported] at ho' hs'
    refine ⟨?_, ?_, ?_, .inr ⟨made, v.status told, hmade, hs'⟩⟩
    · rw [ho', hd, ← ho]
      cases v.decision <;> rfl
    · rw [hh']
      refine List.forall_mem_append.mpr ⟨List.forall_mem_append.mpr ⟨quiet_history _ _, hq'⟩, ?_⟩
      exact List.forall_mem_singleton.mpr rfl
    · rw [hh', History.sidecars_concat rfl, sidecars_history, hsidecars,
        History.sidecars_concat rfl, sidecars_history]

/-- One rack of one pod, as many as are wanted, with its member in the ring. -/
def content : Survey where
  dc := small 1 1 1
  found := [(.new 0, smallSet 1 0)]
  planned := .ofList [(.new 0, 1)]
  statuses := .ofList [("c-d-rack1-0", .normal)]

theorem content_whole : content.Whole where
  racks := rfl
  plan := rfl

set_option maxRecDepth 4000 in
/-- Everything is as it should be in the example, and no cleanup is due. -/
theorem content_decision : content.decision = .converged false := by
  cbv

theorem content_observed : ∃ status,
    (content.dc.status.getD {}).observed? content.observation content.dc.metadata.generation =
      some status :=
  Survey.exists_observed content_whole rfl rfl _ _

/-- A store with that rack. -/
def contentStore : MemoryStore where
  dataCenters := SortedMap.insert {} ⟨"n", "d"⟩ (small 1 1 1)
  statefulSets := SortedMap.insert {} ⟨"n", "c-d-rack1"⟩ (smallSet 1 0)

theorem content_reads : content.Reads ⟨"n", "d"⟩ contentStore where
  dataCenter := rfl
  found p hp := by
    rw [List.mem_singleton.mp hp]
    exact (SortedMap.find?_insert _ _ _ _).trans (if_pos (by decide +kernel))

/-- A pass over it converges, and so does the next, which stores the same status. So the conditions
under which quiet passes repeat are met. -/
theorem content_repeats : ∃ (x : Surroundings) (s s₁ s' : MemoryStore) (h h' : History)
    (a : Action) (made : List Mutation) (status : DataCenterStatus),
    Program.Ran (run {} ⟨"n", "d"⟩).run s h (some (.ok a)) s₁ ∧ x.Gave h ∧ History.Quiet h ∧
      s₁.journal = s.journal ++ made ++ [.dataCenterStatus "d" status] ∧
      Program.Ran (run {} ⟨"n", "d"⟩).run s₁ h' (some (.ok a)) s' ∧ x.Gave h' ∧
      s'.journal = s₁.journal ++ [.dataCenterStatus "d" status] := by
  obtain ⟨observed, hobserved⟩ := content_observed
  let x : Surroundings := ⟨SortedMap.insert {} ⟨"n", "c-d-rack1-0"⟩ .normal, fun _ => .ok ()⟩
  let status := { observed with lastErrorMessage := none, phase := .running }
  have hok : (reported ⟨"n", "d"⟩ (served ⟨"n", "d"⟩ content.dc contentStore) status).1 = .ok () :=
    MemoryStore.perform_replaceDataCenterStatus_ok
      ((dataCenters_served _ _).symm ▸ content_reads.dataCenter) rfl status
  -- Nothing is to be done, so the pass goes on to its status at once.
  have hsettle : Program.Ran (content.settle {} ⟨"n", "d"⟩ observed).run
      (served ⟨"n", "d"⟩ content.dc contentStore)
      [⟨.store (.replaceDataCenterStatus "n" "d" status), (.ok () : Except _ Unit)⟩]
      (some (.ok (next {} (.converged false))))
      (reported ⟨"n", "d"⟩ (served ⟨"n", "d"⟩ content.dc contentStore) status).2 := by
    unfold Survey.settle
    rw [content_decision]
    refine Program.Ran.perform (e := .store (.replaceDataCenterStatus "n" "d" status))
      (s := served ⟨"n", "d"⟩ content.dc contentStore) ⟨hok.symm, rfl⟩ ?_
    exact .done _ _
  have hran := Program.ran_of_follows (follows_run content_whole hobserved)
    (serving_history content_reads) hsettle
  have hx : x.Gave (content.history ⟨"n", "d"⟩ ++
      [⟨.store (.replaceDataCenterStatus "n" "d" status), (.ok () : Except _ Unit)⟩]) := by
    refine List.forall_mem_append.mpr ⟨?_, List.forall_mem_singleton.mpr trivial⟩
    exact Survey.forall_mem_history
      (Survey.forall_mem_reads trivial trivial fun _ _ => trivial) trivial
      (show content.statuses = x.cache.snapshot content.members by decide +kernel)
  have hq : History.Quiet (content.history ⟨"n", "d"⟩ ++
      [⟨.store (.replaceDataCenterStatus "n" "d" status), (.ok () : Except _ Unit)⟩]) :=
    List.forall_mem_append.mpr ⟨quiet_history _ _, List.forall_mem_singleton.mpr rfl⟩
  obtain ⟨⟨h', o, s', hran', hx'⟩, hall⟩ := quiet_repeats hran hx hq
  obtain ⟨rfl, -, -, ⟨hnone, -⟩ | ⟨made, st, hmade, hs'⟩⟩ := hall h' o s' hran' hx'
  · rw [content_reads.dataCenter] at hnone
    cases hnone
  · refine ⟨x, _, _, s', _, h', _, made, st, hran, hx, hq, hmade, hran', hx', ?_⟩
    rw [hs']

end Pass

end RackOperator
