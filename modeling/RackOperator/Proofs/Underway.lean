import RackOperator.Proofs.Answers

/-!
# Programs under way

An `Underway` program has done some effects, which its history lists, and has a rest to
do. `Underway.Acts` is one more effect, answered by the world in any way it can. What
`Program.Holds` says of a whole program it says of every program under way
(`Underway.Holds.acts`): this is how a fact about a program's tree becomes an invariant of
the runs it takes part in.

`ReadsHold` is the invariant on the other side. What a history has read of a StatefulSet
is what the store still has of it, unless the history has written it. It is stated up to a
view `π` of StatefulSets: the outside may change what `π` does not see.
-/

namespace RackOperator

/-- A program that has come some way. -/
structure Underway (α : Type) where
  history : History
  rest : Program α

namespace Underway

variable {α : Type}

/-- A program that has yet to begin. -/
def fresh (p : Program α) : Underway α := ⟨[], p⟩

/-- One effect is done. -/
inductive Acts : Underway α → World → Underway α → World → Prop
  | act {w w' : World} {h : History} {e : Effect} {next : e.Reply → Program α} {r : e.Reply}
    (ha : Answers w e r w') : Acts ⟨h, .perform e next⟩ w ⟨h ++ [⟨e, r⟩], next r⟩ w'

/-- What is left of the program does as `P` says, and ends as `Q` says. -/
def Holds (P : History → Effect → Prop) (Q : History → α → Prop) (u : Underway α) : Prop :=
  u.rest.Holds P Q u.history

/-- The effect a program does next, unless it has come to its end. -/
def next? (u : Underway α) : Option Effect :=
  match u.rest with
  | .perform e _ => some e
  | _ => none

theorem exists_perform {u : Underway α} {e : Effect} (h : u.next? = some e) :
    ∃ next, u = ⟨u.history, .perform e next⟩ := by
  obtain ⟨h', rest⟩ := u
  cases rest with
  | done a => cases h
  | crash => cases h
  | perform e' next =>
    cases h
    exact ⟨next, rfl⟩

/-- What is shown of a program under way holds of it one effect later. -/
theorem Holds.acts {P : History → Effect → Prop} {Q : History → α → Prop} {u u' : Underway α}
    {w w' : World} (hu : u.Holds P Q) (h : u.Acts w u' w') : u'.Holds P Q := by
  cases h with
  | act ha => exact hu.2 _

/-- The world and the program some effects later, if nothing else goes on. -/
def forward : Nat → World → Underway α → World × Underway α
  | n + 1, w, ⟨h, .perform e next⟩ =>
    forward n (w.perform e).2 ⟨h ++ [⟨e, (w.perform e).1⟩], next (w.perform e).1⟩
  | _, w, u => (w, u)

end Underway

section Many

variable {α : Type} {P : α → Prop} {l l₁ l₂ : List α} {a a' : α}

/-- What is so of all that are under way is so of the one that a step picks. -/
theorem forall_mem_at (h : ∀ b ∈ l, P b) (hl : l = l₁ ++ a :: l₂) : P a :=
  h a (hl ▸ List.mem_append_right _ List.mem_cons_self)

/-- It is so of the others once that one is gone. -/
theorem forall_mem_without (h : ∀ b ∈ l, P b) (hl : l = l₁ ++ a :: l₂) : ∀ b ∈ l₁ ++ l₂, P b := by
  rw [hl, List.forall_mem_append, List.forall_mem_cons] at h
  exact List.forall_mem_append.mpr ⟨h.1, h.2.2⟩

/-- It is so of all again if it is so of what that one has become. -/
theorem forall_mem_put (h : ∀ b ∈ l, P b) (hl : l = l₁ ++ a :: l₂) (ha : P a') :
    ∀ b ∈ l₁ ++ a' :: l₂, P b := by
  rw [hl, List.forall_mem_append, List.forall_mem_cons] at h
  exact List.forall_mem_append.mpr ⟨h.1, List.forall_mem_cons.mpr ⟨ha, h.2.2⟩⟩

end Many

/-- All of a StatefulSet but its status. -/
def StatefulSet.shape (s : StatefulSet) : StatefulSet := { s with status := none }

theorem StatefulSet.replicas_of_shape {s t : StatefulSet} (h : s.shape = t.shape) :
    s.replicas = t.replicas := by
  show s.shape.replicas = t.shape.replicas
  rw [h]

/-- The StatefulSet an effect writes. -/
def Effect.statefulSet? : Effect → Option (NamespacedName × StatefulSet)
  | .store call => call.statefulSet?
  | _ => none

/-- An effect that writes no StatefulSet leaves all of them as they were. -/
theorem Answers.statefulSets_eq {w w' : World} {e : Effect} {r : e.Reply}
    (h : Answers w e r w') (he : e.statefulSet? = none) :
    w'.store.statefulSets = w.store.statefulSets := by
  cases e with
  | store call =>
    rcases store_cases h with ⟨hs, -⟩ | ⟨hs, -⟩
    · rw [hs]
    · rw [hs, MemoryStore.statefulSets_perform _ he]
  | _ => rw [h.store_eq (by simp)]

/-- No effect touches a StatefulSet under another name than the one it writes. -/
theorem Answers.find?_of_ne {w w' : World} {e : Effect} {r : e.Reply} (h : Answers w e r w')
    {k : NamespacedName} (he : ∀ x ∈ e.statefulSet?, x.1 ≠ k) :
    w'.store.statefulSets.find? k = w.store.statefulSets.find? k := by
  cases e with
  | store call =>
    rcases store_cases h with ⟨hs, -⟩ | ⟨hs, -⟩
    · rw [hs]
    · rw [hs, MemoryStore.find?_perform_of_ne _ _ he]
  | _ => rw [h.store_eq (by simp)]

/-- A StatefulSet is looked up. -/
def Answered.found (k : NamespacedName) (found : Option StatefulSet) : Answered :=
  ⟨.store (.getStatefulSet k.ns k.name), (.ok found : Except _ (Option StatefulSet))⟩

/-- A history has written no StatefulSet of a name. -/
def History.Spares (h : History) (k : NamespacedName) : Prop :=
  ∀ a ∈ h, ∀ x ∈ a.effect.statefulSet?, x.1 ≠ k

/-- What was read of a StatefulSet, and not written since, is what is stored, as `π` sees it. -/
def ReadsHold {β : Type} (π : StatefulSet → β) (w : World) (h : History) : Prop :=
  ∀ k found, Answered.found k found ∈ h → h.Spares k →
    (w.store.statefulSets.find? k).map π = found.map π

theorem readsHold_nil {β : Type} (π : StatefulSet → β) (w : World) : ReadsHold π w [] :=
  fun _ _ h => absurd h List.not_mem_nil

/-- A read that is acknowledged answers what is stored, be it nothing. -/
theorem Answers.found_eq {w w' : World} {ns name : String} {r : Except OperatorError _}
    (h : Answers w (.store (.getStatefulSet ns name)) r w') {found : Option StatefulSet}
    (hr : r = .ok found) : w.store.statefulSets.find? ⟨ns, name⟩ = found := by
  subst hr
  rcases h.store_cases with ⟨-, err, he⟩ | ⟨-, he | ⟨err, he⟩⟩
  · cases he
  · exact (Except.ok.inj he).symm
  · cases he

/-- Reads go on to hold behind an effect of the one that has read, since what it writes it has not
yet read again. -/
theorem ReadsHold.acts {α β : Type} {π : StatefulSet → β} {u u' : Underway α} {w w' : World}
    (hi : ReadsHold π w u.history) (h : u.Acts w u' w') : ReadsHold π w' u'.history := by
  cases h with
  | @act _ _ h e next r ha =>
    intro k found hmem hspares
    have hold : w'.store.statefulSets.find? k = w.store.statefulSets.find? k :=
      ha.find?_of_ne (hspares ⟨e, r⟩ (List.mem_append_right _ List.mem_cons_self))
    rw [hold]
    rcases List.mem_append.mp hmem with hmem | hmem
    · exact hi k found hmem fun a ha => hspares a (List.mem_append_left _ ha)
    · -- the effect just done is the read itself
      cases List.mem_singleton.mp hmem
      rw [ha.found_eq rfl]

/-- They go on to hold when others change no more than what is not looked at. -/
theorem ReadsHold.of_view {β : Type} {π : StatefulSet → β} {w w' : World} {h : History}
    (hi : ReadsHold π w h)
    (hw : ∀ k, (w'.store.statefulSets.find? k).map π = (w.store.statefulSets.find? k).map π) :
    ReadsHold π w' h :=
  fun k found hmem hspares => (hw k).trans (hi k found hmem hspares)

end RackOperator
