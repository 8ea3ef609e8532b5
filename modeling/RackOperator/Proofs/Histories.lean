import RackOperator.Program

/-!
# What a program does, whatever it is answered

A `History` lists the effects done so far, each with its answer.
`Program.Holds P Q h p` says of a program `p` begun after the history `h`: along
every path, however its effects are answered, each effect satisfies `P` at the
history in front of it, and each result satisfies `Q` at the history it is
reached by. Nothing is assumed about who answers, so a fact of this kind covers a
store that refuses or loses a call, sidecars that answer anything, and a program
cut short between any two effects.

`Work.Holds` is the same for work that may fail: an error ends the work, so only
successes carry a postcondition. The equations below read a `do` block from top to
bottom; `Program.holds_bind` and `Work.holds_bind` are the two that recurse.

What was done about sidecars, and about the members polled, is read off a history
(`History.sidecars`, `History.registrations`).

`Program.Follows p h p'` is about one path: `p` can do the effects of `h`, and answered as
there it is left with `p'`. A run that is to be shown possible is put together from these.
-/

namespace RackOperator

/-- An effect and what it was answered. -/
structure Answered where
  effect : Effect
  reply : effect.Reply

/-- Effects with their answers, oldest first. -/
abbrev History := List Answered

/-- Whether an effect is about sidecars. -/
def Effect.isSidecar : Effect → Bool
  | .connect _ => true
  | .request .. => true
  | .requestAll .. => true
  | _ => false

/-- Whether an effect is about the members polled. -/
def Effect.isRegistration : Effect → Bool
  | .register .. => true
  | .unregister _ => true
  | _ => false

namespace History

/-- What was done about sidecars. -/
def sidecars (h : History) : List Effect := (h.map (·.effect)).filter (·.isSidecar)

/-- What was done about the members polled. -/
def registrations (h : History) : List Effect := (h.map (·.effect)).filter (·.isRegistration)

/-- The sidecars asked in a history that goes on are those asked before and those asked since, so a
bound on the calls of a program is the sum of the bounds of its parts. -/
theorem sidecars_append (h h' : History) : sidecars (h ++ h') = sidecars h ++ sidecars h' := by
  unfold sidecars
  rw [List.map_append, List.filter_append]

/-- An effect that is none of the sidecars' does not show among those asked: audit entries and
status writes may be dropped from the end of a history. -/
theorem sidecars_concat {h : History} {a : Answered} (ha : a.effect.isSidecar = false) :
    sidecars (h ++ [a]) = sidecars h := by
  have hone : sidecars [a] = [] := List.filter_cons_of_neg (by rw [ha]; exact Bool.false_ne_true)
  rw [sidecars_append, hone, List.append_nil]

/-- Nothing was done but ask the store. -/
def Stores (h : History) : Prop := ∀ a ∈ h, ∃ call, a.effect = .store call

theorem Stores.append {h h' : History} (hs : Stores h) (hs' : Stores h') : Stores (h ++ h') :=
  fun a ha => (List.mem_append.mp ha).elim (hs a) (hs' a)

/-- What no call of the store is does not show where only the store was asked. -/
theorem Stores.filter_eq_nil {h : History} (hs : Stores h) {kind : Effect → Bool}
    (hkind : ∀ call, kind (.store call) = false) : (h.map (·.effect)).filter kind = [] := by
  refine List.filter_eq_nil_iff.mpr fun e he => ?_
  obtain ⟨a, ha, rfl⟩ := List.mem_map.mp he
  obtain ⟨call, hc⟩ := hs a ha
  rw [hc, hkind]
  exact Bool.false_ne_true

theorem Stores.sidecars {h : History} (hs : Stores h) : History.sidecars h = [] :=
  hs.filter_eq_nil fun _ => rfl

/-- Where only the store is called no member is registered for polling either. -/
theorem Stores.registrations {h : History} (hs : Stores h) : History.registrations h = [] :=
  hs.filter_eq_nil fun _ => rfl

end History

namespace Program

variable {α β : Type} {P : History → Effect → Prop}

/-- Each effect satisfies `P` after the history in front of it, each result `Q`. -/
def Holds (P : History → Effect → Prop) (Q : History → α → Prop) (h : History) :
    Program α → Prop
  | done a => Q h a
  | crash => True
  | perform e next => P h e ∧ ∀ r, (next r).Holds P Q (h ++ [⟨e, r⟩])

theorem holds_bind (p : Program α) (f : α → Program β) {Q : History → β → Prop} (h : History) :
    (p.bind f).Holds P Q h ↔ p.Holds P (fun h a => (f a).Holds P Q h) h := by
  induction p generalizing h with
  | done a => exact Iff.rfl
  | crash => exact Iff.rfl
  | perform e next ih =>
    show (P h e ∧ ∀ r, ((next r).bind f).Holds P Q _) ↔ _
    exact and_congr_right fun _ => forall_congr' fun r => ih r _

theorem Holds.mono {P' : History → Effect → Prop} {Q Q' : History → α → Prop}
    (hP : ∀ h e, P h e → P' h e) (hQ : ∀ h a, Q h a → Q' h a) {p : Program α} {h : History}
    (hp : p.Holds P Q h) : p.Holds P' Q' h := by
  induction p generalizing h with
  | done a => exact hQ h a hp
  | crash => trivial
  | perform e next ih => exact ⟨hP h e hp.1, fun r => ih r (hp.2 r)⟩

/-- What is so after every history that goes on from one holds of every program begun there. -/
theorem holds_of_forall {Q : History → α → Prop} {h : History} (hP : ∀ h' e, P (h ++ h') e)
    (hQ : ∀ h' a, Q (h ++ h') a) (p : Program α) : p.Holds P Q h := by
  induction p generalizing h with
  | done a =>
    have ha := hQ [] a
    rwa [List.append_nil] at ha
  | crash => trivial
  | perform e next ih =>
    refine ⟨?_, fun r => ih r (fun h' e' => ?_) fun h' a => ?_⟩
    · have he := hP [] e
      rwa [List.append_nil] at he
    · rw [List.append_assoc]
      exact hP _ e'
    · rw [List.append_assoc]
      exact hQ _ a

/-- What a program does comes behind what was done before it. -/
theorem Holds.behind {Q : History → α → Prop} {p : Program α} {h : History}
    (hp : p.Holds P Q h) :
    p.Holds (fun h' e => h <+: h' ∧ P h' e) (fun h' a => h <+: h' ∧ Q h' a) h := by
  induction p generalizing h with
  | done a => exact ⟨List.prefix_rfl, hp⟩
  | crash => trivial
  | perform e next ih =>
    refine ⟨⟨List.prefix_rfl, hp.1⟩, fun r => (ih r (hp.2 r)).mono ?_ ?_⟩
    · exact fun h' e he => ⟨(List.prefix_append _ _).trans he.1, he.2⟩
    · exact fun h' a ha => ⟨(List.prefix_append _ _).trans ha.1, ha.2⟩

/-! ## One path -/

/-- Doing what a history lists, answered as there, leaves the rest. -/
def Follows : Program α → History → Program α → Prop
  | p, [], p' => p = p'
  | p, a :: h, p' => ∃ next, p = .perform a.effect next ∧ (next a.reply).Follows h p'

/-- A program can do two histories one after the other if it can do the first and what is then left
of it the second. -/
theorem follows_append {p p' p'' : Program α} {h h' : History} (hp : p.Follows h p')
    (hp' : p'.Follows h' p'') : p.Follows (h ++ h') p'' := by
  induction h generalizing p with
  | nil =>
    cases hp
    exact hp'
  | cons a h ih =>
    obtain ⟨next, rfl, hn⟩ := hp
    exact ⟨next, rfl, ih hn⟩

/-- The first part of a program that goes on can do what it can do alone, and then the rest is due.
-/
theorem follows_bind {p p' : Program α} {h : History} (hp : p.Follows h p')
    (f : α → Program β) : (p.bind f).Follows h (p'.bind f) := by
  induction h generalizing p with
  | nil =>
    cases hp
    rfl
  | cons a h ih =>
    obtain ⟨next, rfl, hn⟩ := hp
    exact ⟨fun r => (next r).bind f, rfl, ih hn⟩

/-- What holds of a program holds of what it has done, each time after some of what was done, and of
what is left of it. -/
theorem Holds.follows {Q : History → α → Prop} {p p' : Program α} {h h' : History}
    (hp : p.Holds P Q h) (hf : p.Follows h' p') :
    p'.Holds P Q (h ++ h') ∧ ∀ a ∈ h', ∃ h₁, h₁ <+: h ++ h' ∧ P h₁ a.effect := by
  induction h' generalizing p h with
  | nil =>
    cases hf
    rw [List.append_nil]
    exact ⟨hp, fun a ha => absurd ha List.not_mem_nil⟩
  | cons a h' ih =>
    obtain ⟨next, rfl, hn⟩ := hf
    obtain ⟨hrest, hdone⟩ := ih (hp.2 a.reply) hn
    have hfirst : ∃ h₁, h₁ <+: h ++ a :: h' ∧ P h₁ a.effect :=
      ⟨h, List.prefix_append _ _, hp.1⟩
    rw [List.append_cons] at hfirst ⊢
    exact ⟨hrest, List.forall_mem_cons.mpr ⟨hfirst, hdone⟩⟩

end Program

namespace Work

open Program

variable {α β : Type} {P : History → Effect → Prop} {Q : History → α → Prop} {h : History}

/-- Each effect satisfies `P` after the history in front of it, each success `Q`. -/
def Holds (P : History → Effect → Prop) (Q : History → α → Prop) (h : History)
    (w : Work α) : Prop :=
  Program.Holds P (fun h x => ∀ a, x = .ok a → Q h a) h w.run

theorem Holds.mono {P' : History → Effect → Prop} {Q' : History → α → Prop}
    (hP : ∀ h e, P h e → P' h e) (hQ : ∀ h a, Q h a → Q' h a) {w : Work α}
    (hw : w.Holds P Q h) : w.Holds P' Q' h :=
  Program.Holds.mono hP (fun h _ hx a e => hQ h a (hx a e)) hw

theorem Holds.behind {w : Work α} (hw : w.Holds P Q h) :
    w.Holds (fun h' e => h <+: h' ∧ P h' e) Q h :=
  Program.Holds.mono (fun _ _ he => he) (fun _ _ ha => ha.2) (Program.Holds.behind hw)

theorem holds_bind (w : Work α) (f : α → Work β) {Q : History → β → Prop} :
    Holds P Q h (w >>= f) ↔ w.Holds P (fun h a => (f a).Holds P Q h) h := by
  refine (Program.holds_bind w.run (ExceptT.bindCont f) h).trans ?_
  suffices e : (fun h x => Program.Holds P (fun h y => ∀ b, y = .ok b → Q h b) h
        (ExceptT.bindCont f x))
      = fun h (x : Except OperatorError α) => ∀ a, x = .ok a → (f a).Holds P Q h by
    rw [e]; exact Iff.rfl
  funext h x
  cases x with
  | ok a => simp [ExceptT.bindCont, Holds, ExceptT.run]
  | error err => simp [ExceptT.bindCont, Program.Holds, pure]

/-- A value that is returned has to be right behind what has been done. -/
@[simp] theorem holds_pure (a : α) : Holds P Q h (pure a) ↔ Q h a := by
  show (∀ b, Except.ok a = .ok b → Q h b) ↔ _
  simp

/-- Work that gives up does nothing more, so nothing is to be shown of it. -/
@[simp] theorem holds_throw (err : OperatorError) : Holds P Q h (throw err) := by
  show ∀ b, Except.error err = .ok b → Q h b
  simp

/-- A program that cannot fail is judged as work by what it does. -/
theorem holds_ofProgram (p : Program α) : Holds P Q h (ofProgram p) ↔ p.Holds P Q h := by
  refine (Program.holds_bind p _ h).trans ?_
  show p.Holds P (fun h a => ∀ b, Except.ok a = .ok b → Q h b) h ↔ _
  simp

/-- A store call that succeeds goes on; one that fails ends the work, so the rest is only to be
shown behind an answer. -/
@[simp] theorem holds_store (call : StoreCall) {Q : History → call.Value → Prop} :
    Holds P Q h (store call) ↔
      P h (.store call) ∧ ∀ v, Q (h ++ [⟨.store call, .ok v⟩]) v := by
  refine and_congr_right fun _ => ⟨fun hq v => hq (.ok v) v rfl, fun hq r v e => ?_⟩
  subst e
  exact hq v

/-- A store call with what follows it written out, as it stands in the code of a pass: the rest is
only to be shown behind an answer. -/
theorem holds_store_bind (call : StoreCall) (f : call.Value → Work β) {Q : History → β → Prop} :
    Holds P Q h (store call >>= f) ↔
      P h (.store call) ∧ ∀ v, (f v).Holds P Q (h ++ [⟨.store call, .ok v⟩]) :=
  (holds_bind _ _).trans (holds_store call)

theorem holds_effect (e : Effect) {Q : History → e.Reply → Prop} :
    Holds P Q h (ofProgram (effect e)) ↔ P h e ∧ ∀ r, Q (h ++ [⟨e, r⟩]) r :=
  holds_ofProgram _

@[simp] theorem holds_snapshot (ms : List Member) {Q : History → StatusSnapshot → Prop} :
    Holds P Q h (snapshot ms) ↔ P h (.snapshot ms) ∧ ∀ s, Q (h ++ [⟨.snapshot ms, s⟩]) s :=
  holds_effect _

@[simp] theorem holds_register (key : ClusterKey) (ms : List Member)
    {Q : History → Unit → Prop} :
    Holds P Q h (register key ms) ↔
      P h (.register key ms) ∧ ∀ u, Q (h ++ [⟨.register key ms, u⟩]) u :=
  holds_effect _

@[simp] theorem holds_audit (about : NamespacedName) (entry : AuditEntry)
    {Q : History → Unit → Prop} :
    Holds P Q h (audit about entry) ↔
      P h (.audit about entry) ∧ ∀ u, Q (h ++ [⟨.audit about entry, u⟩]) u :=
  holds_effect _

@[simp] theorem holds_timestamp {Q : History → String → Prop} :
    Holds P Q h timestamp ↔
      P h .now ∧ ∀ t, Q (h ++ [⟨.now, t⟩]) (Text.Rfc3339.precise t) := by
  refine (holds_bind (ofProgram (effect .now)) _).trans ((holds_effect _).trans ?_)
  exact and_congr_right fun _ => forall_congr' fun t => holds_pure _

/-- Work that may end in a crash has to be right only where there is a value. -/
@[simp] theorem holds_orCrash (o : Option α) :
    Holds P Q h (orCrash o) ↔ ∀ a, o = some a → Q h a := by
  cases o with
  | none => exact ⟨fun _ a e => absurd e (by simp), fun _ => trivial⟩
  | some a => exact (holds_pure a).trans (by simp)

/-! ## One path -/

/-- Doing what a history lists, answered as there, succeeds with a value. -/
def Comes (w : Work α) (h : History) (a : α) : Prop := Program.Follows w.run h (.done (.ok a))

/-- Work that comes to a value by doing a history leaves the rest to be done with that value. -/
theorem Comes.bind {w : Work α} {a : α} (hw : w.Comes h a) (f : α → Work β) :
    Program.Follows (w >>= f).run h (f a).run :=
  follows_bind hw (ExceptT.bindCont f)

theorem comes_pure (a : α) : (pure a : Work α).Comes [] a := rfl

theorem comes_store (call : StoreCall) (v : call.Value) :
    (store call).Comes [⟨.store call, .ok v⟩] v :=
  ⟨_, rfl, rfl⟩

theorem comes_register (key : ClusterKey) (ms : List Member) :
    (register key ms).Comes [⟨.register key ms, ()⟩] () :=
  ⟨_, rfl, rfl⟩

theorem comes_snapshot (ms : List Member) (s : StatusSnapshot) :
    (snapshot ms).Comes [⟨.snapshot ms, s⟩] s :=
  ⟨_, rfl, rfl⟩

/-- Where there is a value nothing crashes, and nothing is done for it. -/
theorem comes_orCrash {o : Option α} {a : α} (ho : o = some a) : (orCrash o).Comes [] a := by
  rw [ho]
  rfl

end Work

end RackOperator
