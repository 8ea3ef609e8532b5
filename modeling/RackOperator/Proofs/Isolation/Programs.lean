import RackOperator.Proofs.Isolation.Versions
import RackOperator.Proofs.Pass.Decommission
import RackOperator.Proofs.Task.Stages

/-!
# Programs of one namespace

Two runs of a program go different ways only where they are answered differently.
`Effect.Alike ns e r r'` says that two answers to the effect `e` differ in nothing but resource
versions, and that a DataCenter that is read is of the namespace. `Program.Tied ns R p p'` says
that two programs do the same effects as long as they are answered alike, that each of these is
about objects, members and registrations of the namespace (`Effect.In`), and that their results
are related by `R`.

Pod names repeat across namespaces; what ties a pass and an advance to one is that every member
they name comes out of the naming of a DataCenter read there, and carries its namespace
(`Pass.tied_run`, `Advance.tied_run`). Each combinator of `Work` has its own lemma, so the
proofs read a `do` block from top to bottom.
-/

namespace RackOperator

/-- Two values that a store call may answer differ in versions only; a DataCenter is of the
namespace. -/
def StoreCall.Alike (ns : String) : (call : StoreCall) → call.Value → call.Value → Prop
  | getStatefulSet .., (a : Option StatefulSet), b =>
    a.map StatefulSet.unversioned = Option.map StatefulSet.unversioned b
  | createStatefulSet .., (a : StatefulSet), b => a.unversioned = StatefulSet.unversioned b
  | replaceStatefulSet .., (a : StatefulSet), b => a.unversioned = StatefulSet.unversioned b
  | getDataCenter .., (a : Option DataCenter), b => a = b ∧ ∀ dc ∈ a, dc.naming.ns = ns
  | getTask .., (a : Option CassandraTask), b =>
    a.map CassandraTask.unversioned = Option.map CassandraTask.unversioned b
  | createTask .., (a : CassandraTask), b => a.unversioned = CassandraTask.unversioned b
  | _, a, b => a = b

/-- Answers that differ in versions alone may be taken in either order. -/
theorem StoreCall.Alike.symm {ns : String} {call : StoreCall} {a b : call.Value}
    (h : call.Alike ns a b) : call.Alike ns b a := by
  cases call with
  | getDataCenter ns' name =>
    obtain ⟨rfl, hns⟩ := h
    exact ⟨rfl, hns⟩
  | _ => exact Eq.symm h

/-- Two results are related: values by `R`, and errors are the same. -/
inductive EndsAlike {α β : Type} (R : α → β → Prop) :
    Except OperatorError α → Except OperatorError β → Prop
  | ok {a : α} {b : β} (h : R a b) : EndsAlike R (.ok a) (.ok b)
  | error (e : OperatorError) : EndsAlike R (.error e) (.error e)

/-- Where values have to be equal for being alike, results that end alike are equal. -/
theorem EndsAlike.eq {α : Type} {x x' : Except OperatorError α} (h : EndsAlike Eq x x') :
    x = x' := by
  cases h with
  | ok h => rw [h]
  | error e => rfl

namespace Effect

/-- An effect is about objects, members and registrations of a namespace. -/
def In (ns : String) : Effect → Prop
  | store call => call.ns = ns
  | connect m => m.ns = ns
  | request m _ => m.ns = ns
  | requestAll ms _ => ∀ m ∈ ms, m.ns = ns
  | snapshot ms => ∀ m ∈ ms, m.ns = ns
  | register key ms => key.ns = ns ∧ ∀ m ∈ ms, m.ns = ns
  | unregister key => key.ns = ns
  | audit about _ => about.ns = ns
  | sleep _ => True
  | now => True

/-- Two answers to an effect differ in versions only. -/
def Alike (ns : String) : (e : Effect) → e.Reply → e.Reply → Prop
  | store call, r, r' => EndsAlike (call.Alike ns) r r'
  | _, r, r' => r = r'

theorem Alike.symm {ns : String} {e : Effect} {r r' : e.Reply} (h : e.Alike ns r r') :
    e.Alike ns r' r := by
  cases e with
  | store call =>
    cases h with
    | ok h => exact .ok h.symm
    | error e => exact .error e
  | _ => exact Eq.symm h

end Effect

namespace Program

variable {α β γ δ : Type} {ns : String} {R : α → β → Prop}

/-- Two programs do the same in a namespace, as long as they are answered alike. -/
inductive Tied (ns : String) (R : α → β → Prop) : Program α → Program β → Prop
  | done {a : α} {b : β} (h : R a b) : Tied ns R (.done a) (.done b)
  | crash : Tied ns R .crash .crash
  | perform {e : Effect} {next : e.Reply → Program α} {next' : e.Reply → Program β}
    (he : e.In ns) (hn : ∀ r r', e.Alike ns r r' → Tied ns R (next r) (next' r')) :
    Tied ns R (.perform e next) (.perform e next')

/-- Programs that are tied stay so when each goes on: what follows has to be tied only for values
that the first parts can end with together. -/
theorem Tied.bind {S : γ → δ → Prop} {p : Program α} {p' : Program β} {f : α → Program γ}
    {f' : β → Program δ} (hp : Tied ns R p p') (hf : ∀ a b, R a b → Tied ns S (f a) (f' b)) :
    Tied ns S (p.bind f) (p'.bind f') := by
  induction hp with
  | done h => exact hf _ _ h
  | crash => exact .crash
  | perform he _ ih => exact .perform he fun r r' hr => ih r r' hr

/-- Less may be asked of the two results in the end than was shown of them. -/
theorem Tied.mono {S : α → β → Prop} {p : Program α} {p' : Program β} (hp : Tied ns R p p')
    (hR : ∀ a b, R a b → S a b) : Tied ns S p p' := by
  induction hp with
  | done h => exact .done (hR _ _ h)
  | crash => exact .crash
  | perform he _ ih => exact .perform he fun r r' hr => ih r r' hr

/-- An effect with one answer only, as far as versions go: both programs perform it and go on with
the same reply. -/
theorem tied_effect_bind {e : Effect} (he : e.In ns)
    (hp : ∀ r r', e.Alike ns r r' → r = r') {f : e.Reply → Program α} {f' : e.Reply → Program β}
    (hf : ∀ r, Tied ns R (f r) (f' r)) :
    Tied ns R ((effect e).bind f) ((effect e).bind f') :=
  .perform he fun r r' hr => hp r r' hr ▸ hf r

end Program

namespace Work

open Program

variable {α β γ δ : Type} {ns : String} {R : α → β → Prop} {S : γ → δ → Prop}

/-- Two pieces of work do the same in a namespace, as long as they are answered alike. -/
def Tied (ns : String) (R : α → β → Prop) (w : Work α) (w' : Work β) : Prop :=
  Program.Tied ns (EndsAlike R) w.run w'.run

/-- Units of work are tied part by part. Where the first part fails it fails in both, with the same
error, and nothing follows. -/
theorem tied_bind {w : Work α} {w' : Work β} {f : α → Work γ} {f' : β → Work δ}
    (hw : Tied ns R w w') (hf : ∀ a b, R a b → Tied ns S (f a) (f' b)) :
    Tied ns S (w >>= f) (w' >>= f') := by
  refine Program.Tied.bind hw fun x y hxy => ?_
  cases hxy with
  | ok h => exact hf _ _ h
  | error e => exact .done (.error e)

theorem tied_pure {a : α} {b : β} (h : R a b) : Tied ns R (pure a) (pure b) := .done (.ok h)

theorem tied_throw (e : OperatorError) : Tied ns R (throw e : Work α) (throw e : Work β) :=
  .done (.error e)

/-- A store call within the namespace is answered alike in both runs, up to the versions of what is
returned. What follows must therefore not depend on these. -/
theorem tied_store_bind (call : StoreCall) (hc : call.ns = ns) {f : call.Value → Work α}
    {f' : call.Value → Work β}
    (hf : ∀ v v', call.Alike ns v v' → Tied ns R (f v) (f' v')) :
    Tied ns R (store call >>= f) (store call >>= f') :=
  tied_bind (.perform hc fun _ _ hr => .done hr) hf

theorem tied_ofProgram_bind {p : Program γ} {p' : Program δ} (hp : Program.Tied ns S p p')
    {f : γ → Work α} {f' : δ → Work β} (hf : ∀ a b, S a b → Tied ns R (f a) (f' b)) :
    Tied ns R (ofProgram p >>= f) (ofProgram p' >>= f') :=
  tied_bind (hp.bind fun _ _ h => .done (.ok h)) hf

/-- The statuses copied of members of the namespace are the same in both runs. -/
theorem tied_snapshot_bind {ms : List Member} (hms : ∀ m ∈ ms, m.ns = ns)
    {f : StatusSnapshot → Work α} {f' : StatusSnapshot → Work β}
    (hf : ∀ s, Tied ns R (f s) (f' s)) : Tied ns R (snapshot ms >>= f) (snapshot ms >>= f') :=
  tied_effect_bind (e := .snapshot ms) hms (fun _ _ h => h) hf

/-- Members of the namespace are registered for polling under a key of the namespace. -/
theorem tied_register_bind {key : ClusterKey} (hk : key.ns = ns) {ms : List Member}
    (hms : ∀ m ∈ ms, m.ns = ns) {f : Unit → Work α} {f' : Unit → Work β}
    (hf : Tied ns R (f ()) (f' ())) : Tied ns R (register key ms >>= f) (register key ms >>= f') :=
  tied_effect_bind (e := .register key ms) ⟨hk, hms⟩ (fun _ _ h => h) fun _ => hf

/-- An entry of the trail is written about an object of the namespace. -/
theorem tied_audit_bind {about : NamespacedName} (hk : about.ns = ns) {entry : AuditEntry}
    {f : Unit → Work α} {f' : Unit → Work β} (hf : Tied ns R (f ()) (f' ())) :
    Tied ns R (audit about entry >>= f) (audit about entry >>= f') :=
  tied_effect_bind (e := .audit about entry) hk (fun _ _ h => h) fun _ => hf

theorem tied_timestamp_bind {f : String → Work α} {f' : String → Work β}
    (hf : ∀ t, Tied ns R (f t) (f' t)) : Tied ns R (timestamp >>= f) (timestamp >>= f') :=
  tied_effect_bind (e := .now) trivial (fun _ _ h => h) fun t => hf (Text.Rfc3339.precise t)

/-- Both runs crash, or neither does, as they hold the same value. -/
theorem tied_orCrash_bind (o : Option γ) {f : γ → Work α} {f' : γ → Work β}
    (hf : ∀ a, Tied ns R (f a) (f' a)) : Tied ns R (orCrash o >>= f) (orCrash o >>= f') := by
  cases o with
  | none => exact .crash
  | some a => exact hf a

end Work

open Work

/-! ## A pass -/

namespace Pass

variable {config : Config} {key : ClusterKey} {dc : DataCenter}

/-- Two accounts of the racks differ in versions only. -/
structure Census.Alike (c c' : Census) : Prop where
  missing : c.missing = c'.missing
  existing : unversioned c.existing = unversioned c'.existing

/-- The racks found in the namespace are the same up to versions, be they read or found missing. -/
theorem tied_census (key : ClusterKey) (naming : Naming) (racks : List Rack) :
    Tied key.ns Census.Alike (census key naming racks) (census key naming racks) := by
  induction racks with
  | nil => exact tied_pure ⟨rfl, rfl⟩
  | cons r rest ih =>
    refine tied_store_bind (.getStatefulSet key.ns _) rfl fun found found' hfound =>
      tied_bind ih fun c c' hc => ?_
    obtain ⟨rfl, rfl⟩ | ⟨sts, sts', rfl, rfl, hsts⟩ := found_cases hfound
    · exact tied_pure ⟨congrArg (r :: ·) hc.missing, hc.existing⟩
    · exact tied_pure ⟨hc.missing, congrArg₂ (fun s l => (r, s) :: l) hsts hc.existing⟩

/-- The racks that are missing are created alike, and so are the services and entries that go with
it. -/
theorem tied_createMissing (counts : List Int) (missing : List Rack) :
    Tied key.ns Eq (createMissing key dc counts missing) (createMissing key dc counts missing) := by
  induction missing with
  | nil => exact tied_pure rfl
  | cons r rest ih => exact tied_store_bind (.createStatefulSet key.ns _) rfl fun _ _ _ => ih

/-- The attempts to have a member leave are made alike, however many are left. -/
theorem tied_attempts {m : Member} (hm : m.ns = key.ns) (pause more : Nat) :
    let asking := Program.effect (.request m .decommission)
    Program.Tied key.ns Eq (RetryPolicy.attempts (Work.sleep pause) asking more)
      (RetryPolicy.attempts (Work.sleep pause) asking more) := by
  induction more with
  | zero => exact .perform hm fun r r' hr => .done hr
  | succ more ih =>
    refine Program.tied_effect_bind (e := .request m .decommission) hm (fun _ _ h => h) fun r => ?_
    cases r with
    | ok u => exact .done rfl
    | error e =>
      exact Program.tied_effect_bind (e := .sleep pause) trivial (fun _ _ h => h) fun _ => ih

/-- A member of the namespace is asked to leave alike in both runs. -/
theorem tied_decommission {m : Member} (hm : m.ns = key.ns) :
    Program.Tied key.ns Eq (decommission config m) (decommission config m) := by
  refine Program.tied_effect_bind (e := .connect m) hm (fun _ _ h => h) fun r => ?_
  cases r with
  | error e => exact .done rfl
  | ok u => exact tied_attempts hm _ _

theorem tied_groupOf_bind {α : Type} (o : Observation) (r : Rack) {f : RackGroup → Work α}
    (hf : ∀ g, Tied key.ns Eq (f g) (f g)) :
    Tied key.ns Eq (groupOf key o r >>= f) (groupOf key o r >>= f) := by
  unfold groupOf
  cases o.group? r with
  | none => exact tied_throw _
  | some g => exact hf g

/-- A rack is scaled by a StatefulSet that is built from the spec, so the versions read do not enter
it. -/
theorem tied_scale_bind {α : Type} (o : Observation) (r : Rack) (n : Int) {f : Unit → Work α}
    (hf : Tied key.ns Eq (f ()) (f ())) :
    Tied key.ns Eq (scale key o r n >>= f) (scale key o r n >>= f) := by
  refine tied_bind (R := Eq) (tied_groupOf_bind o r fun g => ?_) fun _ _ _ => hf
  refine tied_store_bind (.replaceStatefulSet key.ns _) rfl fun _ _ _ => ?_
  exact .perform (e := .audit key _) rfl fun _ _ h => .done (.ok h)

/-- A decision is applied within the namespace if that is where the member is that it sends off. The
other decisions name racks only, and the key says where these are. -/
theorem tied_apply (o : Observation) (status : DataCenterStatus) {d : Decision}
    (hd : ∀ r m, d = .decommission r m → m.ns = key.ns) :
    Tied key.ns Eq (apply config key dc o status d) (apply config key dc o status d) := by
  cases d with
  | inconsistent reason => exact tied_audit_bind rfl (tied_pure rfl)
  | waitForRacks racks => exact tied_pure rfl
  | waitForMembers members => exact tied_pure rfl
  | updateRack r =>
    refine tied_groupOf_bind o r fun g =>
      tied_store_bind (.replaceStatefulSet key.ns _) rfl fun _ _ _ => ?_
    exact tied_audit_bind rfl (tied_pure rfl)
  | scaleUp r n => exact tied_scale_bind o r n (tied_pure rfl)
  | decommission r m =>
    refine tied_ofProgram_bind (tied_decommission (hd r m rfl)) fun x y hxy => ?_
    subst hxy
    cases x with
    | ok u => exact tied_audit_bind rfl (tied_pure rfl)
    | error e => exact tied_audit_bind rfl (tied_pure rfl)
  | scaleDown r n m => exact tied_scale_bind o r n (tied_pure rfl)
  | waitForDecommission r m s => exact tied_pure rfl
  | converged cleanup =>
    cases cleanup with
    | false => exact tied_pure rfl
    | true =>
      refine tied_store_bind (.createTask key.ns _) rfl
        fun (task : CassandraTask) (task' : CassandraTask) ht => ?_
      -- the task that was stored is named alike, whatever its version
      rw [CassandraTask.anyName_eq ht]
      exact tied_audit_bind rfl (tied_pure rfl)

/-- The rest of a pass over a DataCenter of the namespace, from the racks found to what the pass
comes to. -/
theorem tied_converge (hdc : dc.naming.ns = key.ns) (found : List (Rack × StatefulSet)) :
    Tied key.ns Eq (converge config key dc found) (converge config key dc found) := by
  refine tied_orCrash_bind _ fun planned => ?_
  -- what is registered, asked about and sent off are members of the survey
  have hms : ∀ m ∈ members dc.naming (groups dc found planned), m.ns = key.ns := fun m hm =>
    (Survey.ns_of_mem_members (v := ⟨dc, found, planned, ⟨{}⟩⟩) hm).trans hdc
  refine tied_register_bind rfl hms (tied_snapshot_bind hms fun statuses => ?_)
  refine tied_orCrash_bind _ fun status => ?_
  have hd : ∀ r m, (Survey.mk dc found planned statuses).decision = .decommission r m →
      m.ns = key.ns := fun r m h => (Survey.normal_of_decommission h).1.trans hdc
  refine tied_bind (tied_apply _ status hd) fun s s' hs => ?_
  subst hs
  exact tied_store_bind (.replaceDataCenterStatus key.ns _ _) rfl fun _ _ _ => tied_pure rfl

/-- A pass is tied to the namespace of its key. -/
theorem tied_run (config : Config) (key : ClusterKey) :
    Tied key.ns Eq (run config key) (run config key) := by
  refine tied_store_bind (.getDataCenter key.ns _) rfl fun found found' hfound => ?_
  obtain ⟨rfl, hns⟩ := hfound
  cases found with
  | none => exact tied_pure rfl
  | some dc =>
    refine tied_store_bind (.ensureService key.ns _) rfl fun _ _ _ => ?_
    refine tied_bind (tied_census key dc.naming _) fun c c' hc => ?_
    rw [hc.missing]
    split
    next =>
      rw [← converge_unversioned, hc.existing, converge_unversioned]
      exact tied_converge (hns dc rfl) c'.existing
    next => exact tied_bind (tied_createMissing _ _) fun _ _ _ => tied_pure rfl

end Pass

/-! ## An advance -/

namespace Advance

variable {run : Run} {dc : DataCenter}

theorem tied_persist_bind {α : Type} (key : NamespacedName) (s : TaskStatus) {f : Unit → Work α}
    (hf : Tied key.ns Eq (f ()) (f ())) :
    Tied key.ns Eq (persist key s >>= f) (persist key s >>= f) :=
  tied_store_bind (.replaceTaskStatus key.ns _ _) rfl fun _ _ _ => hf

/-- The members found are the same ones, and of the namespace of the naming, which is all a task
needs to know of the StatefulSets it reads. -/
theorem tied_members (ns : String) (naming : Naming) (racks : List Rack) :
    Tied ns (fun ms ms' => ms = ms' ∧ ∀ m ∈ ms, m.ns = naming.ns) (members ns naming racks)
      (members ns naming racks) := by
  induction racks with
  | nil => exact tied_pure ⟨rfl, nofun⟩
  | cons r rest ih =>
    refine tied_store_bind (.getStatefulSet ns _) rfl fun found found' hfound =>
      tied_bind ih fun ms ms' hms => ?_
    obtain ⟨rfl, hns⟩ := hms
    obtain ⟨rfl, rfl⟩ | ⟨sts, sts', rfl, rfl, hsts⟩ := found_cases hfound
    · exact tied_pure ⟨rfl, hns⟩
    · have hcount : sts.replicas = sts'.replicas := StatefulSet.replicas_eq hsts
      refine tied_pure ⟨by rw [hcount], List.forall_mem_append.mpr ⟨fun m hm => ?_, hns⟩⟩
      obtain ⟨o, -, rfl⟩ := Naming.mem_members.mp hm
      rfl

theorem tied_step {m : Member} (hm : m.ns = run.key.ns) :
    Program.Tied run.key.ns Eq (step run m) (step run m) := by
  refine Program.tied_effect_bind (e := .connect m) hm (fun _ _ h => h) fun reply => ?_
  cases reply with
  | error e => exact .done rfl
  | ok u =>
    refine Program.tied_effect_bind (e := .request m _) hm (fun _ _ h => h) fun r => ?_
    cases r with
    | error e => exact .done rfl
    | ok reply => exact .done rfl

/-- The members are called one at a time, each within the namespace, and the status stored after
each is the same in both runs. -/
theorem tied_walk (pacing : Nat) (failFast paused : Bool) (s : TaskStatus) (ms : List Member)
    (hms : ∀ m ∈ ms, m.ns = run.key.ns) :
    Tied run.key.ns Eq (walk run pacing failFast paused s ms)
      (walk run pacing failFast paused s ms) := by
  -- On the members left: `paused` and the status differ from one call to the next.
  induction ms generalizing paused s with
  | nil => exact tied_pure rfl
  | cons m rest ih =>
    rw [List.forall_mem_cons] at hms
    have hvisit : Tied run.key.ns Eq (visit run pacing failFast s m rest)
        (visit run pacing failFast s m rest) := by
      refine tied_persist_bind run.key _ ?_
      refine tied_ofProgram_bind (tied_step hms.1) fun outcome outcome' ho => ?_
      subst ho
      refine tied_persist_bind run.key _ ?_
      have hgo := fun s => ih true s hms.2
      cases outcome with
      | ok u => exact hgo _
      | error e =>
        unfold onward
        dsimp only
        split
        next => exact tied_pure rfl
        next => exact hgo _
    rw [walk_cons]
    split
    next =>
      exact Program.tied_effect_bind (e := .sleep pacing) trivial (fun _ _ h => h) fun _ => hvisit
    next => exact hvisit

theorem tied_sweep (s : TaskStatus) (ms : List Member) (hms : ∀ m ∈ ms, m.ns = run.key.ns) :
    Tied run.key.ns Eq (sweep run s ms) (sweep run s ms) := by
  cases ms with
  | nil => exact tied_pure rfl
  | cons m rest =>
    refine tied_persist_bind run.key _ ?_
    refine Program.tied_effect_bind (e := .requestAll (m :: rest) _) hms (fun _ _ h => h)
      fun replies => ?_
    exact tied_persist_bind run.key _ (tied_pure rfl)

theorem tied_start (ms : List Member) (statuses : StatusSnapshot) (s : TaskStatus) :
    Tied run.key.ns Eq (start run ms statuses s) (start run ms statuses s) := by
  unfold start
  split
  next =>
    refine tied_timestamp_bind fun t => tied_persist_bind run.key _ ?_
    exact tied_audit_bind rfl (tied_pure rfl)
  next => exact tied_pure rfl

theorem tied_finish (run : Run) (s : TaskStatus) :
    Tied run.key.ns Eq (finish run s) (finish run s) :=
  tied_persist_bind run.key _ (tied_audit_bind rfl (tied_pure rfl))

theorem tied_conclude (s : TaskStatus) :
    Tied run.key.ns Eq (conclude run s) (conclude run s) := by
  unfold conclude
  dsimp only
  split
  next => exact tied_timestamp_bind fun t => tied_finish run _
  next => exact tied_persist_bind run.key _ (tied_pure rfl)

/-- The walk of an advance over a DataCenter of the namespace, from the members it finds to the
status it ends with. -/
theorem tied_proceed (run : Run) (hdc : dc.naming.ns = run.key.ns) (s : TaskStatus) :
    Tied run.key.ns Eq (proceed run dc s) (proceed run dc s) := by
  refine tied_bind (tied_members run.key.ns dc.naming _) fun ms ms' hms => ?_
  obtain ⟨rfl, hns⟩ := hms
  rw [hdc] at hns
  refine tied_snapshot_bind hns fun statuses => ?_
  refine tied_bind (tied_start ms statuses s) fun s s' hs => ?_
  subst hs
  have hwait : ∀ m ∈ pending (failStale s ms) ms, m.ns = run.key.ns :=
    fun m hm => hns m (List.mem_filter.mp hm).1
  dsimp only
  cases run.kind.execution run.config with
  | sequential pacing failFast =>
    exact tied_bind (tied_walk pacing failFast false _ _ hwait) fun s s' hs => hs ▸ tied_conclude s
  | parallel => exact tied_bind (tied_sweep _ _ hwait) fun s s' hs => hs ▸ tied_conclude s

/-- An advance is tied to the namespace of its task. -/
theorem tied_run (config : Config) (key : NamespacedName) :
    Tied key.ns Eq (Advance.run config key) (Advance.run config key) := by
  refine tied_store_bind (.getTask key.ns _) rfl fun found found' hfound => ?_
  obtain ⟨rfl, rfl⟩ | ⟨t, t', rfl, rfl, ht⟩ := found_cases hfound
  · exact tied_pure rfl
  · dsimp only
    rw [CassandraTask.spec_eq ht, CassandraTask.status_eq ht]
    split
    next => exact tied_pure rfl
    next =>
      cases TaskKind.ofSpec t'.spec with
      | error reason => exact tied_throw _
      | ok kind =>
        refine tied_store_bind (.getDataCenter key.ns _) rfl fun dc dc' hdc => ?_
        obtain ⟨rfl, hns⟩ := hdc
        cases dc with
        | none =>
          dsimp only
          split
          next => exact tied_persist_bind key _ (tied_pure rfl)
          next => exact tied_pure rfl
        | some dc =>
          let run : Run := { config, key, kind, datacenter := t'.spec.datacenter }
          dsimp only
          split
          next => exact tied_timestamp_bind fun now => tied_finish run _
          next => exact tied_proceed run (hns dc rfl) _

end Advance

end RackOperator
