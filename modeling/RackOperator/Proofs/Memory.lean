import RackOperator.Proofs.Answers

/-!
# Programs run to their end over a store in memory

`Program.Ran p s h o s'` says that `p`, begun over the store `s`, did the effects of `h` and
ended with `o`, the store then being `s'`. The store answers as `MemoryStore.perform` does;
everything else, the sidecars among it, answers in any way. The result of a crash is `none`.
What `Program.run` does with `World.perform` is one such run (`ran_run`).

`Program.On Q h s p` says that however `p` runs over `s`, it ends as `Q` says, and a run ends as
this says (`Ran.on`). Its equations read a `do` block from top to bottom, as those of
`Program.Holds` do; but here a failure and a crash are ends too, and what a read of the store
answers is known.
-/

namespace RackOperator

/-- How an effect may be answered over a store in memory, and the store after it. -/
def MemoryStore.Serves (s : MemoryStore) : (e : Effect) → e.Reply → MemoryStore → Prop
  | .store call, r, s' => r = (s.perform call).1 ∧ s' = (s.perform call).2
  | _, _, s' => s' = s

namespace Program

variable {α β : Type}

/-- A run to the end: what was done, the result, and the store left. -/
inductive Ran : Program α → MemoryStore → History → Option α → MemoryStore → Prop
  | done (a : α) (s : MemoryStore) : Ran (.done a) s [] (some a) s
  | crash (s : MemoryStore) : Ran .crash s [] none s
  | perform {e : Effect} {next : e.Reply → Program α} {r : e.Reply} {s s₁ s' : MemoryStore}
    {h : History} {o : Option α} (hs : s.Serves e r s₁) (hr : Ran (next r) s₁ h o s') :
    Ran (.perform e next) s (⟨e, r⟩ :: h) o s'

/-- However the program runs over the store, it ends as `Q` says of what has been done, the store
and the result. -/
def On (Q : History → MemoryStore → Option α → Prop) : History → MemoryStore → Program α → Prop
  | h, s, done a => Q h s (some a)
  | h, s, crash => Q h s none
  | h, s, perform e next => ∀ r s', s.Serves e r s' → (next r).On Q (h ++ [⟨e, r⟩]) s'

variable {p : Program α} {s s' : MemoryStore} {h : History} {o : Option α}

/-- What is shown of a program by going through its effects holds of each of its runs. -/
theorem Ran.on {Q : History → MemoryStore → Option α → Prop} (hr : p.Ran s h o s') (h₀ : History)
    (hp : p.On Q h₀ s) : Q (h₀ ++ h) s' o := by
  induction hr generalizing h₀ with
  | done a s =>
    rw [List.append_nil]
    exact hp
  | crash s =>
    rw [List.append_nil]
    exact hp
  | perform hs _ ih =>
    rw [List.append_cons]
    exact ih _ (hp _ _ hs)

/-- What every effect leaves as it was, a run leaves as it was. -/
theorem Ran.keeps {I : MemoryStore → Prop}
    (hI : ∀ s call, I s → I (s.perform call).2) (hr : p.Ran s h o s') (hs : I s) : I s' := by
  induction hr with
  | done => exact hs
  | crash => exact hs
  | @perform e _ _ _ _ _ _ _ ha _ ih =>
    refine ih ?_
    cases e with
    | store call =>
      rw [ha.2]
      exact hI _ call hs
    | _ =>
      cases ha
      exact hs

theorem Ran.journal (hr : p.Ran s h o s') : s.journal <+: s'.journal :=
  hr.keeps (I := fun s₁ => s.journal <+: s₁.journal)
    (fun s₁ call hs => hs.trans (s₁.journal_perform call)) List.prefix_rfl

/-- A DataCenter keeps all but its status, whatever program is run. -/
theorem Ran.dataCenter (hr : p.Ran s h o s') {k : NamespacedName} {dc : DataCenter}
    (hdc : s.dataCenters.find? k = some dc) :
    ∃ status, s'.dataCenters.find? k = some { dc with status } := by
  refine hr.keeps (I := fun s₁ => ∃ status, s₁.dataCenters.find? k = some { dc with status })
    (fun s₁ call ⟨status, hs⟩ => ?_) ⟨dc.status, hdc⟩
  obtain ⟨status', hs'⟩ := s₁.find?_dataCenters_perform call hs
  exact ⟨status', hs'⟩

theorem on_bind (p : Program α) (f : α → Program β) {Q : History → MemoryStore → Option β → Prop}
    (h : History) (s : MemoryStore) :
    (p.bind f).On Q h s ↔
      p.On (fun h s o => o.elim (Q h s none) fun a => (f a).On Q h s) h s := by
  induction p generalizing h s with
  | done a => exact Iff.rfl
  | crash => exact Iff.rfl
  | perform e next ih =>
    exact forall_congr' fun r => forall_congr' fun s' => imp_congr_right fun _ => ih r _ _

/-- In a world in which no store call is made to fail, an effect is answered as over its store. That
no call is planned to fail stays so, which is what lets a whole program be run. -/
theorem serves_perform {w : World} (hw : w.storePlans = {}) (e : Effect) :
    w.store.Serves e (w.perform e).1 (w.perform e).2.store ∧ (w.perform e).2.storePlans = {} := by
  cases e with
  | store call =>
    -- With no plans nothing is refused, and the store answers for itself.
    have hrefuses : w.refuses call.name = (false, w) := by
      unfold World.refuses
      rw [hw]
      rfl
    have hask : w.askStore call =
        ((w.store.perform call).1, { w with store := (w.store.perform call).2 }) := by
      unfold World.askStore
      rw [hrefuses]
      rfl
    show w.store.Serves (.store call) (w.askStore call).1 (w.askStore call).2.store ∧
      (w.askStore call).2.storePlans = {}
    rw [hask]
    exact ⟨⟨rfl, rfl⟩, hw⟩
  | _ => exact ⟨rfl, hw⟩

/-- The store answers a history, one effect after the other. -/
def Serving : MemoryStore → History → MemoryStore → Prop
  | s, [], s' => s = s'
  | s, a :: h, s' => ∃ s₁, s.Serves a.effect a.reply s₁ ∧ Serving s₁ h s'

theorem Serving.append {s s' s'' : MemoryStore} {h h' : History} (hs : Serving s h s')
    (hs' : Serving s' h' s'') : Serving s (h ++ h') s'' := by
  induction h generalizing s with
  | nil =>
    cases hs
    exact hs'
  | cons a h ih =>
    obtain ⟨s₁, ha, hrest⟩ := hs
    exact ⟨s₁, ha, ih hrest⟩

/-- A run may begin with any path that the store answers, and end with any run of what is left then.
-/
theorem ran_of_follows {p p' : Program α} {s s₁ s' : MemoryStore} {h h' : History} {o : Option α}
    (hp : p.Follows h p') (hs : Serving s h s₁) (hr : p'.Ran s₁ h' o s') :
    p.Ran s (h ++ h') o s' := by
  induction h generalizing p s with
  | nil =>
    cases hp
    cases hs
    exact hr
  | cons a h ih =>
    obtain ⟨next, rfl, hn⟩ := hp
    obtain ⟨s₂, ha, hrest⟩ := hs
    exact .perform ha (ih hn hrest)

/-- Running a program in a world is a run over its store, and what each effect does to a world is
done by all of them. The relation is any that is closed under one effect in front. -/
theorem ran_run_rel {R : World → History → World → Prop} (hnil : ∀ w, R w [] w)
    (hcons : ∀ (w : World) (e : Effect) (h : History) (w' : World), R (w.perform e).2 h w' →
      R w (⟨e, (w.perform e).1⟩ :: h) w') (p : Program α) {w : World} (hw : w.storePlans = {}) :
    ∃ h, R w h (p.run (m := StateM World) World.perform w).2 ∧
      p.Ran w.store h (p.run (m := StateM World) World.perform w).1
        (p.run (m := StateM World) World.perform w).2.store := by
  induction p generalizing w with
  | done a => exact ⟨[], hnil w, .done a _⟩
  | crash => exact ⟨[], hnil w, .crash _⟩
  | perform e next ih =>
    obtain ⟨hs, hw'⟩ := serves_perform hw e
    obtain ⟨h, hall, hr⟩ := ih (w.perform e).1 hw'
    exact ⟨⟨e, (w.perform e).1⟩ :: h, hcons w e h _ hall, .perform hs hr⟩

/-- What holds of every answer of a world holds of all that were given in a run. -/
theorem ran_run_all {P : Answered → Prop} (hP : ∀ (w : World) (e : Effect), P ⟨e, (w.perform e).1⟩)
    (p : Program α) {w : World} (hw : w.storePlans = {}) :
    ∃ h, (∀ a ∈ h, P a) ∧ p.Ran w.store h (p.run (m := StateM World) World.perform w).1
      (p.run (m := StateM World) World.perform w).2.store :=
  ran_run_rel (R := fun _ h _ => ∀ a ∈ h, P a) (fun _ _ ha => absurd ha List.not_mem_nil)
    (fun w e _ _ hall => List.forall_mem_cons.mpr ⟨hP w e, hall⟩) p hw

/-- Running a program in a world is a run over its store, so what is shown of all runs holds in
worlds. -/
theorem ran_run (p : Program α) {w : World} (hw : w.storePlans = {}) :
    ∃ h, p.Ran w.store h (p.run (m := StateM World) World.perform w).1
      (p.run (m := StateM World) World.perform w).2.store := by
  obtain ⟨h, -, hr⟩ := ran_run_all (P := fun _ => True) (fun _ _ => trivial) p hw
  exact ⟨h, hr⟩

end Program

namespace Work

open Program

variable {α β : Type} {Q : History → MemoryStore → Option (Except OperatorError α) → Prop}
  {h : History} {s : MemoryStore}

/-- However the work runs over the store, it ends as `Q` says: with a value, an error or a crash. -/
def On (Q : History → MemoryStore → Option (Except OperatorError α) → Prop) (h : History)
    (s : MemoryStore) (w : Work α) : Prop := Program.On Q h s w.run

/-- What has to hold of work for what follows it to end as `Q` says. -/
def Next (f : α → Work β) (Q : History → MemoryStore → Option (Except OperatorError β) → Prop)
    (h : History) (s : MemoryStore) : Option (Except OperatorError α) → Prop
  | some (.ok a) => (f a).On Q h s
  | some (.error e) => Q h s (some (.error e))
  | none => Q h s none

theorem on_bind (w : Work α) (f : α → Work β)
    {Q : History → MemoryStore → Option (Except OperatorError β) → Prop} :
    On Q h s (w >>= f) ↔ w.On (Next f Q) h s := by
  refine (Program.on_bind w.run (ExceptT.bindCont f) h s).trans ?_
  suffices e : (fun h s (o : Option (Except OperatorError α)) =>
        o.elim (Q h s none) fun x => Program.On Q h s (ExceptT.bindCont f x)) = Next f Q by
    rw [e]
    exact Iff.rfl
  funext h s o
  cases o with
  | none => rfl
  | some x =>
    cases x with
    | ok a => rfl
    | error e => rfl

theorem on_pure (a : α) : On Q h s (pure a) ↔ Q h s (some (.ok a)) := Iff.rfl

theorem on_ofProgram_bind (p : Program α) (f : α → Work β)
    {Q : History → MemoryStore → Option (Except OperatorError β) → Prop} :
    On Q h s (ofProgram p >>= f) ↔
      p.On (fun h s o => o.elim (Q h s none) fun a => (f a).On Q h s) h s :=
  (on_bind _ _).trans (Program.on_bind p _ h s)

/-- A store call that fails ends the work, with the error of the call. -/
theorem on_store_bind (call : StoreCall) (f : call.Value → Work β)
    {Q : History → MemoryStore → Option (Except OperatorError β) → Prop} :
    On Q h s (store call >>= f) ↔
      Next f Q (h ++ [⟨.store call, (s.perform call).1⟩]) (s.perform call).2
        (some (s.perform call).1) := by
  refine (on_bind _ _).trans ⟨fun hn => hn _ _ ⟨rfl, rfl⟩, fun hn r s' hs => ?_⟩
  obtain ⟨rfl, rfl⟩ := hs
  exact hn

/-- A store call whose answer is known to be a success goes on with its value. -/
theorem on_store_ok (call : StoreCall) {v : call.Value} (hv : (s.perform call).1 = .ok v)
    (f : call.Value → Work β)
    {Q : History → MemoryStore → Option (Except OperatorError β) → Prop} :
    On Q h s (store call >>= f) ↔
      (f v).On Q (h ++ [⟨.store call, (.ok v : Except OperatorError call.Value)⟩])
        (s.perform call).2 := by
  rw [on_store_bind, hv]
  exact Iff.rfl

/-- What is asked of anything but the store leaves it as it was, and may be answered in any way. -/
theorem on_effect_bind {e : Effect} (he : ∀ call, e ≠ .store call) (f : e.Reply → Work β)
    {Q : History → MemoryStore → Option (Except OperatorError β) → Prop} :
    On Q h s (ofProgram (effect e) >>= f) ↔ ∀ r, (f r).On Q (h ++ [⟨e, r⟩]) s := by
  have hserves : ∀ r s', s.Serves e r s' ↔ s' = s := by
    intro r s'
    cases e with
    | store call => exact absurd rfl (he call)
    | _ => exact Iff.rfl
  refine (on_bind _ _).trans ⟨fun hn r => hn r s ((hserves r s).mpr rfl), fun hn r s' hs => ?_⟩
  rw [(hserves r s').mp hs]
  exact hn r

theorem on_register_bind (key : ClusterKey) (ms : List Member) (f : Unit → Work β)
    {Q : History → MemoryStore → Option (Except OperatorError β) → Prop} :
    On Q h s (register key ms >>= f) ↔ (f ()).On Q (h ++ [⟨.register key ms, ()⟩]) s :=
  (on_effect_bind (e := .register key ms) (by simp) f).trans ⟨fun hn => hn (), fun hn _ => hn⟩

theorem on_snapshot_bind (ms : List Member) (f : StatusSnapshot → Work β)
    {Q : History → MemoryStore → Option (Except OperatorError β) → Prop} :
    On Q h s (snapshot ms >>= f) ↔ ∀ st, (f st).On Q (h ++ [⟨.snapshot ms, st⟩]) s :=
  on_effect_bind (e := .snapshot ms) (by simp) f

theorem on_timestamp_bind (f : String → Work β)
    {Q : History → MemoryStore → Option (Except OperatorError β) → Prop} :
    On Q h s (timestamp >>= f) ↔
      ∀ t : Instant, (f (Text.Rfc3339.precise t)).On Q (h ++ [⟨.now, t⟩]) s :=
  on_effect_bind (e := .now) (by simp) fun t => f (Text.Rfc3339.precise t)

theorem on_audit_bind (about : NamespacedName) (entry : AuditEntry) (f : Unit → Work β)
    {Q : History → MemoryStore → Option (Except OperatorError β) → Prop} :
    On Q h s (audit about entry >>= f) ↔ (f ()).On Q (h ++ [⟨.audit about entry, ()⟩]) s :=
  (on_effect_bind (e := .audit about entry) (by simp) f).trans ⟨fun hn => hn (), fun hn _ => hn⟩

/-- Work that may crash has to be right with a value, and right to have crashed without one. -/
theorem on_orCrash_bind (o : Option α) (f : α → Work β)
    {Q : History → MemoryStore → Option (Except OperatorError β) → Prop} :
    On Q h s (orCrash o >>= f) ↔ (∀ a, o = some a → (f a).On Q h s) ∧ (o = none → Q h s none) := by
  cases o with
  | none => exact ⟨fun hn => ⟨fun a ha => (by cases ha), fun _ => hn⟩, fun hn => hn.2 rfl⟩
  | some a =>
    refine ⟨fun hn => ⟨fun b hb => ?_, fun hb => (by cases hb)⟩, fun hn => hn.1 a rfl⟩
    cases hb
    exact hn

end Work

end RackOperator
