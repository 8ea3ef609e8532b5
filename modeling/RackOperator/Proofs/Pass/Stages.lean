import RackOperator.Proofs.Histories
import RackOperator.Proofs.Pass.Survey

/-!
# What a pass does, and when

A pass is a tree of effects; `Due config key h e` says that the effect `e` may come after
the history `h` in a pass over the DataCenter of `key`. There is one constructor for each
thing a pass does, and each gives the whole history in front of it. `holds_run`: whatever the
effects are answered, a pass does what is due and nothing else. What follows from a pass having
got somewhere is then read off the constructors.

Up to its decision a pass is opened by `holds_run_of` and `holds_converge_of` alone, for any
property `P` of its effects and what was done before them.

A StatefulSet is replaced directly behind the reads of a survey, and nothing that is due
later replaces one or asks a member to leave; so a pass does at most one such thing.
-/

namespace RackOperator

open Work

/-- The StatefulSet of a rack as a DataCenter without one begins it. -/
def DataCenter.initial (dc : DataCenter) (r : Rack) : StatefulSet :=
  dc.statefulSet r (Int32.ofInt
    ((Layout.initialDistribution dc.spec.replicas.toInt dc.racks.length).getD r.index 0))

namespace Pass

/-! ## Histories of a pass -/

/-- The DataCenter is read and its Service seen to. -/
def opening (key : ClusterKey) (dc : DataCenter) : History :=
  [⟨.store (.getDataCenter key.ns key.name), (.ok (some dc) : Except _ (Option DataCenter))⟩,
    ⟨.store (.ensureService key.ns dc.service), (.ok () : Except _ Unit)⟩]

/-- The StatefulSet of a rack is looked up. -/
def lookUp (key : ClusterKey) (naming : Naming) (p : Rack × Option StatefulSet) : Answered :=
  ⟨.store (.getStatefulSet key.ns (naming.statefulSetName p.1)),
    (.ok p.2 : Except _ (Option StatefulSet))⟩

/-- The StatefulSet of a rack that had none is created. -/
def creation (key : ClusterKey) (dc : DataCenter) (p : Rack × StatefulSet) : Answered :=
  ⟨.store (.createStatefulSet key.ns (dc.initial p.1)), (.ok p.2 : Except _ StatefulSet)⟩

namespace Survey

/-- What is read before the members are known. -/
def reads (v : Survey) (key : ClusterKey) : History :=
  opening key v.dc ++ v.found.map fun p => lookUp key v.dc.naming (p.1, some p.2)

/-- What comes before a decision. -/
def history (v : Survey) (key : ClusterKey) : History :=
  v.reads key ++ [⟨.register key v.members, ()⟩, ⟨.snapshot v.members, v.statuses⟩]

section Entries

variable {v : Survey} {key : ClusterKey} {P : Answered → Prop}

/-- What is so of the reads of the DataCenter, its Service and each StatefulSet is so of all. -/
theorem forall_mem_reads
    (hread : P ⟨.store (.getDataCenter key.ns key.name),
      (.ok (some v.dc) : Except _ (Option DataCenter))⟩)
    (hservice : P ⟨.store (.ensureService key.ns v.dc.service), (.ok () : Except _ Unit)⟩)
    (hfound : ∀ p ∈ v.found, P (lookUp key v.dc.naming (p.1, some p.2))) :
    ∀ a ∈ v.reads key, P a := by
  refine List.forall_mem_append.mpr ⟨?_, List.forall_mem_map.mpr hfound⟩
  exact List.forall_mem_cons.mpr ⟨hread, List.forall_mem_singleton.mpr hservice⟩

/-- If it is so of the registration and the statuses too, it is so of all that comes before a
decision. -/
theorem forall_mem_history (hreads : ∀ a ∈ v.reads key, P a)
    (hregister : P ⟨.register key v.members, ()⟩)
    (hsnapshot : P ⟨.snapshot v.members, v.statuses⟩) : ∀ a ∈ v.history key, P a := by
  refine List.forall_mem_append.mpr ⟨hreads, ?_⟩
  exact List.forall_mem_cons.mpr ⟨hregister, List.forall_mem_singleton.mpr hsnapshot⟩

end Entries

end Survey

/-- What was found of some racks can be told from the look-ups. -/
theorem found_eq {key : ClusterKey} {naming : Naming} {found found' : List (Rack × StatefulSet)}
    (hracks : found.map (·.1) = found'.map (·.1))
    (hlooked : found.map (fun p => lookUp key naming (p.1, some p.2)) =
      found'.map fun p => lookUp key naming (p.1, some p.2)) : found = found' := by
  induction found generalizing found' with
  | nil => exact (List.map_eq_nil_iff.mp hracks.symm).symm
  | cons p rest ih =>
    cases found' with
    | nil => cases hracks
    | cons p' rest' =>
      obtain ⟨hrack, hrest⟩ := List.cons.inj hracks
      obtain ⟨hlook, hmore⟩ := List.cons.inj hlooked
      obtain ⟨r, sts⟩ := p
      obtain ⟨r', sts'⟩ := p'
      cases hrack
      cases hlook
      rw [ih hrest hmore]

/-- A survey can be told from what a pass has done, so a history has one survey at most. -/
theorem Survey.eq_of_history {key : ClusterKey} {v v' : Survey} {h : History} (hv : v.Whole)
    (hv' : v'.Whole) (hp : v.history key <+: h) (hp' : v'.history key <+: h) : v = v' := by
  obtain ⟨dc, found, planned, statuses⟩ := v
  obtain ⟨dc', found', planned', statuses'⟩ := v'
  obtain ⟨rest, rfl⟩ := hp
  -- both have read the same DataCenter first, and so as many racks
  cases (List.cons_prefix_cons.mp hp').1
  have hracks : found'.map (·.1) = found.map (·.1) := hv'.racks.trans hv.racks.symm
  have hlength : (Survey.history ⟨dc, found', planned', statuses'⟩ key).length =
      (Survey.history ⟨dc, found, planned, statuses⟩ key).length := by
    have hl := congrArg List.length hracks
    rw [List.length_map, List.length_map] at hl
    unfold Survey.history Survey.reads
    simp only [List.length_append, List.length_map, List.length_cons, List.length_nil, hl]
  have heq := (List.prefix_of_prefix_length_le hp' (List.prefix_append _ rest)
    (Nat.le_of_eq hlength)).eq_of_length hlength
  obtain ⟨hreads, hbehind⟩ := List.append_inj' heq (by
    simp only [List.length_cons, List.length_nil])
  cases found_eq hracks (List.append_cancel_left hreads)
  have hplan : some planned = some planned' := hv.plan.symm.trans hv'.plan
  have hstatuses : statuses' = statuses :=
    eq_of_heq (Answered.mk.inj (List.cons.inj (List.cons.inj hbehind).2).1).2
  rw [Option.some.inj hplan, hstatuses]

/-- Racks looked up, apart by whether a StatefulSet was found. -/
def Census.of (looked : List (Rack × Option StatefulSet)) : Census where
  existing := looked.filterMap fun p => p.2.map fun sts => (p.1, sts)
  missing := (looked.filter fun p => p.2.isNone).map (·.1)

/-- The attempts to have a member leave so far: requests that failed, and pauses. -/
def Attempts (config : Config) (m : Member) (tries : History) : Prop :=
  ∀ a ∈ tries,
    (∃ err, a = ⟨.request m .decommission, (.error err : Except OperatorError Unit)⟩) ∨
      a.effect = .sleep config.decommissionRetry.delay

/-- A member is asked to leave, and asked again after each failure, a number of times more. -/
inductive Asking (config : Config) (m : Member) : Nat → History → Except OperatorError Unit → Prop
  | accepted (more : Nat) : Asking config m more [⟨.request m .decommission, .ok ()⟩] (.ok ())
  | spent (err : OperatorError) :
    Asking config m 0 [⟨.request m .decommission, .error err⟩] (.error err)
  | again (err : OperatorError) {more : Nat} {tries : History} {x : Except OperatorError Unit}
    (h : Asking config m more tries x) :
    Asking config m (more + 1) (⟨.request m .decommission, .error err⟩ ::
      ⟨.sleep config.decommissionRetry.delay, ()⟩ :: tries) x

/-- A member is asked to leave as often as the configuration allows, if its sidecar is got hold
of. -/
inductive Parting (config : Config) (m : Member) : History → Except OperatorError Unit → Prop
  | unreached (err : OperatorError) : Parting config m [⟨.connect m, .error err⟩] (.error err)
  | reached {tries : History} {x : Except OperatorError Unit}
    (h : Asking config m (max config.decommissionRetry.maxAttempts 1 - 1) tries x) :
    Parting config m (⟨.connect m, .ok ()⟩ :: tries) x

/-- What a pass may do after a history. -/
inductive Due (config : Config) (key : ClusterKey) : History → Effect → Prop
  | readDataCenter : Due config key [] (.store (.getDataCenter key.ns key.name))
  | ensureService (dc : DataCenter) :
    Due config key [⟨.store (.getDataCenter key.ns key.name),
      (.ok (some dc) : Except _ (Option DataCenter))⟩] (.store (.ensureService key.ns dc.service))
  | readStatefulSet (dc : DataCenter) (looked : List (Rack × Option StatefulSet)) (r : Rack)
    (rest : List Rack) (h : looked.map (·.1) ++ r :: rest = dc.racks) :
    Due config key (opening key dc ++ looked.map (lookUp key dc.naming))
      (.store (.getStatefulSet key.ns (dc.naming.statefulSetName r)))
  | createStatefulSet (dc : DataCenter) (looked : List (Rack × Option StatefulSet))
    (made : List (Rack × StatefulSet)) (r : Rack) (rest : List Rack)
    (hl : looked.map (·.1) = dc.racks)
    (hm : made.map (·.1) ++ r :: rest = (Census.of looked).missing) :
    Due config key
      (opening key dc ++ looked.map (lookUp key dc.naming) ++ made.map (creation key dc))
      (.store (.createStatefulSet key.ns (dc.initial r)))
  | register (v : Survey) (hv : v.Whole) : Due config key (v.reads key) (.register key v.members)
  | snapshot (v : Survey) (hv : v.Whole) :
    Due config key (v.reads key ++ [⟨.register key v.members, ()⟩]) (.snapshot v.members)
  | replaceStatefulSet (v : Survey) (hv : v.Whole) (sts : StatefulSet)
    (h : v.decision.written? v.observation = some sts) :
    Due config key (v.history key) (.store (.replaceStatefulSet key.ns sts))
  | connect (v : Survey) (hv : v.Whole) (r : Rack) (m : Member)
    (h : v.decision = .decommission r m) : Due config key (v.history key) (.connect m)
  | request (v : Survey) (hv : v.Whole) (r : Rack) (m : Member)
    (h : v.decision = .decommission r m) (tries : History) (ht : Attempts config m tries) :
    Due config key (v.history key ++ ⟨.connect m, (.ok () : Except _ Unit)⟩ :: tries)
      (.request m .decommission)
  | sleep (v : Survey) (hv : v.Whole) (r : Rack) (m : Member)
    (h : v.decision = .decommission r m) (tries : History) (ht : Attempts config m tries) :
    Due config key (v.history key ++ ⟨.connect m, (.ok () : Except _ Unit)⟩ :: tries)
      (.sleep config.decommissionRetry.delay)
  | createTask (v : Survey) (hv : v.Whole) (h : v.decision = .converged true) :
    Due config key (v.history key) (.store (.createTask key.ns v.dc.cleanupTask))
  | audit (v : Survey) (hv : v.Whole) (done : History) (entry : AuditEntry) :
    Due config key (v.history key ++ done) (.audit key entry)
  | replaceStatus (v : Survey) (hv : v.Whole) (done : History) (status : DataCenterStatus) :
    Due config key (v.history key ++ done)
      (.store (.replaceDataCenterStatus key.ns key.name status))

/-! ## Up to the survey -/

section Reads

variable {P : History → Effect → Prop} {config : Config} {key : ClusterKey}

/-- Every rack is looked up, in order. The induction is on the racks, with those looked up in front.
-/
theorem holds_census (key : ClusterKey) {naming : Naming} {Q : History → Census → Prop}
    (racks : List Rack) (h : History)
    (hP : ∀ (looked : List (Rack × Option StatefulSet)) r rest,
      looked.map (·.1) ++ r :: rest = racks →
      P (h ++ looked.map (lookUp key naming))
        (.store (.getStatefulSet key.ns (naming.statefulSetName r))))
    (hQ : ∀ looked : List (Rack × Option StatefulSet), looked.map (·.1) = racks →
      Q (h ++ looked.map (lookUp key naming)) (.of looked)) :
    (census key naming racks).Holds P Q h := by
  -- On the racks left to look up. What has been found so far goes into the history, so the claim
  -- about the whole census becomes one about the rest behind it.
  induction racks generalizing h Q with
  | nil =>
    have hc := hQ [] rfl
    rw [List.map_nil, List.append_nil] at hc
    exact (holds_pure _).mpr hc
  | cons r rest ih =>
    unfold census
    have hr := hP [] r rest rfl
    rw [List.map_nil, List.append_nil] at hr
    refine (holds_store_bind _ _).mpr ⟨hr, fun found => (holds_bind _ _).mpr ?_⟩
    refine ih _ (fun looked s more he => ?_) fun looked he => ?_
    · have hs := hP ((r, found) :: looked) s more (by simp [he])
      rwa [List.map_cons, List.append_cons] at hs
    · have hc := hQ ((r, found) :: looked) (by simp [he])
      rw [List.map_cons, List.append_cons] at hc
      cases found with
      | none => exact (holds_pure _).mpr hc
      | some sts => exact (holds_pure _).mpr hc

/-- The missing StatefulSets are created, in order, each behind the acknowledgement of the one
before. -/
theorem holds_createMissing {dc : DataCenter} {Q : History → Unit → Prop} (missing : List Rack)
    (h : History)
    (hP : ∀ (made : List (Rack × StatefulSet)) r rest, made.map (·.1) ++ r :: rest = missing →
      P (h ++ made.map (creation key dc)) (.store (.createStatefulSet key.ns (dc.initial r))))
    (hQ : ∀ made : List (Rack × StatefulSet), made.map (·.1) = missing →
      Q (h ++ made.map (creation key dc)) ()) :
    (createMissing key dc (Layout.initialDistribution dc.spec.replicas.toInt dc.racks.length)
      missing).Holds P Q h := by
  induction missing generalizing h Q with
  | nil =>
    have hc := hQ [] rfl
    rw [List.map_nil, List.append_nil] at hc
    exact (holds_pure _).mpr hc
  | cons r rest ih =>
    unfold createMissing
    have hr := hP [] r rest rfl
    rw [List.map_nil, List.append_nil] at hr
    refine (holds_store_bind _ _).mpr ⟨hr, fun sts => ?_⟩
    refine ih _ (fun made s more he => ?_) fun made he => ?_
    · have hs := hP ((r, sts) :: made) s more (by simp [he])
      rwa [List.map_cons, List.append_cons] at hs
    · have hc := hQ ((r, sts) :: made) (by simp [he])
      rwa [List.map_cons, List.append_cons] at hc

/-- If nothing is missing every rack was found. -/
theorem Census.missing_nil {looked : List (Rack × Option StatefulSet)}
    (h : (Census.of looked).missing = []) :
    looked = (Census.of looked).existing.map fun p => (p.1, some p.2) := by
  have hall : ∀ p ∈ looked, p.2.isNone = false := by
    intro p hp
    have hf := List.filter_eq_nil_iff.mp (List.map_eq_nil_iff.mp h) p hp
    exact Bool.not_eq_true _ ▸ hf
  clear h
  induction looked with
  | nil => rfl
  | cons p rest ih =>
    obtain ⟨r, found⟩ := p
    cases found with
    | none => exact absurd (hall _ List.mem_cons_self) (by simp)
    | some sts =>
      have hrest := ih fun p hp => hall p (List.mem_cons_of_mem _ hp)
      exact congrArg ((r, some sts) :: ·) hrest

/-- A survey is taken, and its decision applied and reported. The plan and the status may not fit,
in which case the pass crashes and there is nothing more to show. -/
theorem holds_converge_of {dc : DataCenter} {found : List (Rack × StatefulSet)}
    (hfound : found.map (·.1) = dc.racks)
    (hregister : ∀ v : Survey, v.Whole → P (v.reads key) (.register key v.members))
    (hsnapshot : ∀ v : Survey, v.Whole →
      P (v.reads key ++ [⟨.register key v.members, ()⟩]) (.snapshot v.members))
    (happly : ∀ v : Survey, v.Whole → ∀ observed,
      (v.dc.status.getD {}).observed? v.observation v.dc.metadata.generation = some observed →
        (apply config key v.dc v.observation observed v.decision).Holds P
          (fun h told => P h (.store (.replaceDataCenterStatus key.ns key.name
            { told with phase := v.decision.phase v.dc.previousPhase }))) (v.history key)) :
    (converge config key dc found).Holds P (fun _ _ => True)
      (opening key dc ++ found.map fun p => lookUp key dc.naming (p.1, some p.2)) := by
  refine (holds_bind _ _).mpr ((holds_orCrash _).mpr fun planned hplan => ?_)
  -- the survey's members are known before the statuses are
  have hv : ∀ statuses, (Survey.mk dc found planned statuses).Whole := fun _ => ⟨hfound, hplan⟩
  refine (holds_bind _ _).mpr ((holds_register _ _).mpr ⟨hregister _ (hv ⟨{}⟩), fun u => ?_⟩)
  refine (holds_bind _ _).mpr ((holds_snapshot _).mpr ⟨hsnapshot _ (hv ⟨{}⟩), fun statuses => ?_⟩)
  refine (holds_bind _ _).mpr ((holds_orCrash _).mpr fun observed ho => (holds_bind _ _).mpr ?_)
  rw [List.append_assoc]
  refine Work.Holds.mono (fun _ _ h => h) (fun h told hwrite => ?_)
    (happly _ (hv statuses) observed ho)
  exact (holds_store_bind _ _).mpr ⟨hwrite, fun u => (holds_pure _).mpr trivial⟩

/-- A pass sees to the Service and looks the racks up; it creates what is missing, or converges
where nothing is. -/
theorem holds_run_of (hread : P [] (.store (.getDataCenter key.ns key.name)))
    (hservice : ∀ dc, P [⟨.store (.getDataCenter key.ns key.name),
      (.ok (some dc) : Except _ (Option DataCenter))⟩] (.store (.ensureService key.ns dc.service)))
    (hlook : ∀ dc (looked : List (Rack × Option StatefulSet)) r rest,
      looked.map (·.1) ++ r :: rest = dc.racks →
        P (opening key dc ++ looked.map (lookUp key dc.naming))
          (.store (.getStatefulSet key.ns (dc.naming.statefulSetName r))))
    (hcreate : ∀ dc (looked : List (Rack × Option StatefulSet)) (made : List (Rack × StatefulSet))
      r rest, looked.map (·.1) = dc.racks →
        made.map (·.1) ++ r :: rest = (Census.of looked).missing →
          P (opening key dc ++ looked.map (lookUp key dc.naming) ++ made.map (creation key dc))
            (.store (.createStatefulSet key.ns (dc.initial r))))
    (hconverge : ∀ dc found, found.map (·.1) = dc.racks →
      (converge config key dc found).Holds P (fun _ _ => True)
        (opening key dc ++ found.map fun p => lookUp key dc.naming (p.1, some p.2))) :
    (run config key).Holds P (fun _ _ => True) [] := by
  refine (holds_store_bind _ _).mpr ⟨hread, fun found => ?_⟩
  cases found with
  | none => exact (holds_pure _).mpr trivial
  | some dc =>
    refine (holds_store_bind _ _).mpr ⟨hservice dc, fun u => (holds_bind _ _).mpr ?_⟩
    refine holds_census key dc.racks (opening key dc) (hlook dc) fun looked hl => ?_
    split
    -- With nothing missing, what was looked up is what was found.
    next hmissing =>
      have hfound := Census.missing_nil (List.isEmpty_iff.mp hmissing)
      generalize (Census.of looked).existing = found at hfound
      subst hfound
      rw [List.map_map] at hl ⊢
      exact hconverge dc found hl
    next =>
      refine (holds_bind _ _).mpr (holds_createMissing _ _
        (fun made r rest he => hcreate dc looked made r rest hl he) fun made _ => ?_)
      exact (holds_pure _).mpr trivial

end Reads

/-! ## Behind the survey -/

section Acts

variable {config : Config} {key : ClusterKey} {P : History → Effect → Prop} {h : History}

@[simp] theorem holds_groupOf (o : Observation) (r : Rack) {Q : History → RackGroup → Prop} :
    (groupOf key o r).Holds P Q h ↔ ∀ g, o.group? r = some g → Q h g := by
  unfold groupOf
  cases o.group? r with
  | none => exact ⟨fun _ g hg => absurd hg (by simp), fun _ => holds_throw _⟩
  | some g => exact (holds_pure g).trans (by simp)

/-- Asking and pausing in turn, a number of times more. Between two requests there is one pause. -/
theorem holds_attempts {m : Member} {Q : History → Except OperatorError Unit → Prop}
    (hP : ∀ tries, Attempts config m tries → P (h ++ tries) (.request m .decommission) ∧
      P (h ++ tries) (.sleep config.decommissionRetry.delay))
    (more : Nat) (hQ : ∀ tries x, Asking config m more tries x → Q (h ++ tries) x) :
    Program.Holds P Q h (RetryPolicy.attempts (Work.sleep config.decommissionRetry.delay)
      (Program.effect (.request m .decommission)) more) := by
  have hfirst : P h (.request m .decommission) := by
    have hask := (hP [] fun a ha => absurd ha List.not_mem_nil).1
    rwa [List.append_nil] at hask
  -- On the attempts left. A failed one and the pause behind it are attempts in front of the rest.
  induction more generalizing h with
  | zero =>
    refine ⟨hfirst, fun r => ?_⟩
    cases r with
    | ok u => exact hQ [_] (.ok u) (.accepted 0)
    | error e => exact hQ [_] (.error e) (.spent e)
  | succ more ih =>
    refine (Program.holds_bind _ _ _).mpr ⟨hfirst, fun r => ?_⟩
    cases r with
    | ok u => exact hQ [_] (.ok u) (.accepted _)
    | error e =>
      let failed : Answered := ⟨.request m .decommission, (.error e : Except OperatorError Unit)⟩
      have hfailed : Attempts config m [failed] := List.forall_mem_singleton.mpr (.inl ⟨e, rfl⟩)
      refine (Program.holds_bind _ _ _).mpr ⟨(hP _ hfailed).2, fun u => ?_⟩
      have hagain : ∀ tries, Attempts config m tries → Attempts config m
          (failed :: ⟨.sleep config.decommissionRetry.delay, u⟩ :: tries) := fun tries ht =>
        List.forall_mem_cons.mpr ⟨.inl ⟨e, rfl⟩, List.forall_mem_cons.mpr ⟨.inr rfl, ht⟩⟩
      rw [List.append_assoc]
      refine ih (fun tries ht => ?_) (fun tries x ha => ?_) ?_
      · rw [List.append_assoc]
        exact hP _ (hagain tries ht)
      · rw [List.append_assoc]
        exact hQ _ x (.again e ha)
      · exact (hP _ (hagain [] fun a ha => absurd ha List.not_mem_nil)).1

/-- A member is asked to leave once its sidecar has been got hold of. -/
theorem holds_decommission {m : Member} {Q : History → Except OperatorError Unit → Prop}
    (hc : P h (.connect m))
    (hP : ∀ tries, Attempts config m tries →
      P (h ++ ⟨.connect m, (.ok () : Except _ Unit)⟩ :: tries) (.request m .decommission) ∧
      P (h ++ ⟨.connect m, (.ok () : Except _ Unit)⟩ :: tries)
        (.sleep config.decommissionRetry.delay))
    (hQ : ∀ tries x, Parting config m tries x → Q (h ++ tries) x) :
    (decommission config m).Holds P Q h := by
  refine (Program.holds_bind _ _ _).mpr ⟨hc, fun r => ?_⟩
  cases r with
  | error e => exact hQ [_] (.error e) (.unreached e)
  | ok u =>
    refine holds_attempts (fun tries ht => ?_) _ fun tries x ha => ?_
    · rw [← List.append_cons]
      exact hP tries ht
    · rw [← List.append_cons]
      exact hQ _ x (.reached ha)

variable {v : Survey}

theorem holds_scale (hv : v.Whole) {r : Rack} {n : Int}
    (hd : ∀ g, v.observation.group? r = some g →
      v.decision.written? v.observation = some (g.desired.setReplicas (Int32.ofInt n))) :
    (scale key v.observation r n).Holds (Due config key)
      (fun h _ => ∃ done, h = v.history key ++ done) (v.history key) := by
  refine (holds_bind _ _).mpr ((holds_groupOf _ _).mpr fun g hg => ?_)
  refine (holds_store_bind _ _).mpr ⟨.replaceStatefulSet v hv _ (hd g hg), fun sts => ?_⟩
  exact (holds_audit _ _).mpr ⟨.audit v hv _ _, fun u => ⟨_, List.append_assoc ..⟩⟩

/-- Whatever was decided, what is done is due, and it comes behind the history of the survey. The
cases are the decisions, each with the effects it may bring. -/
theorem holds_apply (hv : v.Whole) (status : DataCenterStatus) :
    (apply config key v.dc v.observation status v.decision).Holds (Due config key)
      (fun h _ => ∃ done, h = v.history key ++ done) (v.history key) := by
  have hnone : ∃ done, v.history key = v.history key ++ done := ⟨[], by simp⟩
  have hlast : ∀ {done : History} {a : Answered},
      ∃ rest, v.history key ++ done ++ [a] = v.history key ++ rest :=
    ⟨_, List.append_assoc ..⟩
  have haudit : ∀ entry, Due config key (v.history key) (.audit key entry) := by
    intro entry
    have hdue : Due config key (v.history key ++ []) (.audit key entry) := .audit v hv [] entry
    rwa [List.append_nil] at hdue
  -- By the decision; each does its effects in the order of the code and ends behind the survey's
  -- history.
  cases hd : v.decision with
  | inconsistent reason =>
    refine (holds_bind _ _).mpr ((holds_audit _ _).mpr ⟨haudit _, fun u => ?_⟩)
    exact (holds_pure _).mpr ⟨_, rfl⟩
  | waitForRacks racks => exact (holds_pure _).mpr hnone
  | waitForMembers members => exact (holds_pure _).mpr hnone
  | updateRack r =>
    refine (holds_bind _ _).mpr ((holds_groupOf _ _).mpr fun g hg => ?_)
    have hw : v.decision.written? v.observation = some g.desired := by
      rw [hd, Decision.written?, hg]
      rfl
    refine (holds_store_bind _ _).mpr ⟨.replaceStatefulSet v hv _ hw, fun sts => ?_⟩
    refine (holds_bind _ _).mpr ((holds_audit _ _).mpr ⟨.audit v hv _ _, fun u => ?_⟩)
    exact (holds_pure _).mpr hlast
  | scaleUp r n =>
    refine (holds_bind _ _).mpr (Work.Holds.mono (fun _ _ h => h) (fun h u hq => ?_)
      (holds_scale hv fun g hg => by rw [hd, Decision.written?, hg]; rfl))
    exact (holds_pure _).mpr hq
  | decommission r m =>
    refine (holds_bind _ _).mpr ((holds_ofProgram _).mpr ?_)
    refine holds_decommission (.connect v hv r m hd)
      (fun tries ht => ⟨.request v hv r m hd tries ht, .sleep v hv r m hd tries ht⟩)
      fun done x _ => ?_
    cases x with
    | ok u =>
      refine (holds_bind _ _).mpr ((holds_audit _ _).mpr ⟨.audit v hv done _, fun u => ?_⟩)
      exact (holds_pure _).mpr hlast
    | error e =>
      refine (holds_bind _ _).mpr ((holds_audit _ _).mpr ⟨.audit v hv done _, fun u => ?_⟩)
      exact (holds_pure _).mpr hlast
  | scaleDown r n m =>
    refine (holds_bind _ _).mpr (Work.Holds.mono (fun _ _ h => h) (fun h u hq => ?_)
      (holds_scale hv fun g hg => by rw [hd, Decision.written?, hg]; rfl))
    exact (holds_pure _).mpr hq
  | waitForDecommission r m s => exact (holds_pure _).mpr hnone
  | converged cleanup =>
    cases cleanup with
    | false => exact (holds_pure _).mpr hnone
    | true =>
      refine (holds_store_bind _ _).mpr ⟨Due.createTask v hv hd, fun task => ?_⟩
      refine (holds_bind _ _).mpr ((holds_audit _ _).mpr ⟨.audit v hv _ _, fun u => ?_⟩)
      exact (holds_pure _).mpr hlast

/-- A pass does what is due, however it is answered and wherever it is cut short. -/
theorem holds_run (config : Config) (key : ClusterKey) :
    (run config key).Holds (Due config key) (fun _ _ => True) [] := by
  refine holds_run_of .readDataCenter .ensureService .readStatefulSet .createStatefulSet
    fun dc found hfound => holds_converge_of hfound .register .snapshot fun v hv observed _ => ?_
  refine Work.Holds.mono (fun _ _ h => h) (fun h told hdone => ?_) (holds_apply hv observed)
  obtain ⟨done, rfl⟩ := hdone
  exact .replaceStatus v hv done _

end Acts

end Pass

end RackOperator
