import RackOperator.Proofs.Task.AtMostOnce
import RackOperator.Proofs.Task.Covers

/-!
# Both stores have the same status

A store in memory replaces the status of a task; an API server merges a patch into the value it
has. `Twin` is a world with a store in memory and, beside it, the value the API server has for
the status of one task. The task is reconciled over and over, each time as it is stored then;
what that does is answered in any way the world can, is left at any point, and whatever else
there is may be changed from outside meanwhile. A status write that takes effect does so in both
stores, and one that is refused in neither.

Both have the same status along every run (`stores_agree`). What carries this from one write to
the next (`Agrees`) is that any status a reconciliation knows to be stored covers the one that
is, and that a status it stores covers one that it knows.
-/

namespace RackOperator

open Relation (ReflTransGen)

namespace Advance

/-- A world, what the API server has as the status of one task, and the reconciliation of the task
that is under way. -/
structure Twin where
  world : World
  stored : Json
  turn : Option (Underway (Except OperatorError Action)) := none

/-- What an effect does to the value of the API server: a status write that took effect in the
store in memory is merged. -/
inductive Written (key : NamespacedName) (w w' : World) (stored : Json) : Effect → Json → Prop
  | merged (s : TaskStatus)
    (hw : w'.store = (w.store.perform (.replaceTaskStatus key.ns key.name s)).2) :
    Written key w w' stored (.store (.replaceTaskStatus key.ns key.name s)) (s.patched stored)
  | refused (s : TaskStatus) (hw : w'.store = w.store) :
    Written key w w' stored (.store (.replaceTaskStatus key.ns key.name s)) stored
  | other {e : Effect} (he : ∀ s, e ≠ .store (.replaceTaskStatus key.ns key.name s)) :
    Written key w w' stored e stored

/-- Neither store has had the status of the task written: it is as it was, or there is none. -/
def Unwritten (key : NamespacedName) (w : World) (stored : Json) (w' : World) (stored' : Json) :
    Prop :=
  ∀ t', w'.task? key = some t' →
    (t'.status = none ∧ stored' = .null) ∨
      ∃ t, w.task? key = some t ∧ t'.status = t.status ∧ stored' = stored

/-- What can happen next. -/
inductive Twin.Step (config : Config) (key : NamespacedName) : Twin → Twin → Prop
  /-- The task is reconciled, as it is stored. -/
  | reconcile (s : Twin) {t : CassandraTask} (hidle : s.turn = none)
    (ht : s.world.task? key = some t) (hns : t.metadata.ns = some key.ns)
    (hname : t.metadata.anyName = key.name) :
    Step config key s { s with turn := some (.fresh (Reconcile.wholeTask config t)) }
  /-- The reconciliation does one effect. -/
  | act (s : Twin) {h : History} {e : Effect} {next : e.Reply → Program _} {r : e.Reply}
    {w' : World} {stored' : Json} (ht : s.turn = some ⟨h, .perform e next⟩)
    (ha : Answers s.world e r w') (hw : Written key s.world w' s.stored e stored') :
    Step config key s ⟨w', stored', some ⟨h ++ [⟨e, r⟩], next r⟩⟩
  /-- The reconciliation ends, crashes or is cut short. -/
  | leave (s : Twin) : Step config key s { s with turn := none }
  /-- The outside changes anything but the status of the task, or takes that away. -/
  | edit (s : Twin) {w' : World} {stored' : Json}
    (h : Unwritten key s.world s.stored w' stored') :
    Step config key s { s with world := w', stored := stored' }

/-- Both stores have the same status, and all that is known to be stored covers it. -/
structure Agrees (key : NamespacedName) (s : Twin) : Prop where
  mirrors : ∀ t, s.world.task? key = some t → Mirrors s.stored t.status
  turn : ∀ u, s.turn = some u → ∃ copy,
    u.Holds (Covering key copy) (fun _ _ => True) ∧
      ∀ s₀, Knows key copy u.history s₀ →
        ∀ t, s.world.task? key = some t → s₀.Covers (t.status.getD {})

variable {config : Config} {key : NamespacedName} {s s' : Twin} {copy : CassandraTask}
  {h : History}

theorem covers_empty (s : TaskStatus) : s.Covers {} := ⟨nofun, nofun, nofun⟩

/-- What an effect makes known: the status read or stored, or else what was known before. -/
theorem knows_concat {a : Answered} {s₀ : TaskStatus} (hk : Knows key copy (h ++ [a]) s₀) :
    (∃ t, a = reading key (some t) ∧ s₀ = t.status.getD {}) ∨ a = storing key s₀ ∨
      a.effect.onTask = false ∧ Knows key copy h s₀ := by
  cases hk with
  | given hq =>
    rw [List.forall_mem_append, List.forall_mem_singleton] at hq
    exact .inr (.inr ⟨hq.2, .given hq.1⟩)
  | shown hs =>
    rcases shown_concat hs with hread | hstored | ⟨hq, hs⟩
    · exact .inl hread
    · exact .inr (.inl hstored)
    · exact .inr (.inr ⟨hq, .shown hs⟩)

/-- A status write leaves the two stores with the same status. A refused one leaves both as they
were, and one that is stored is merged in the one and put in place in the other. -/
theorem mirrors_written {w w' : World} {stored stored' : Json} {new : TaskStatus}
    (hm : ∀ t, w.task? key = some t → Mirrors stored t.status)
    (hc : ∀ t, w.task? key = some t → new.Covers (t.status.getD {}))
    (hw : Written key w w' stored (.store (.replaceTaskStatus key.ns key.name new)) stored') :
    ∀ t, w'.task? key = some t → Mirrors stored' t.status := by
  intro t ht
  unfold World.task? at ht
  -- `Written` is indexed by the effect, so the call is named before the cases are split.
  generalize he : Effect.store (.replaceTaskStatus key.ns key.name new) = e at hw
  cases hw with
  | merged s hstore =>
    cases he
    rw [hstore, MemoryStore.find?_replaceTaskStatus, if_pos rfl] at ht
    obtain ⟨t₀, ht₀, rfl⟩ := Option.map_eq_some_iff.mp ht
    exact (hm t₀ ht₀).patched (hc t₀ ht₀)
  | refused s hstore =>
    rw [hstore] at ht
    exact hm t ht
  | other hother => exact absurd he.symm (hother new)

theorem stored_eq {w w' : World} {stored stored' : Json} {e : Effect}
    (he : ∀ new, e ≠ .store (.replaceTaskStatus key.ns key.name new))
    (hw : Written key w w' stored e stored') : stored' = stored := by
  cases hw with
  | merged new => exact absurd rfl (he new)
  | refused new => exact absurd rfl (he new)
  | other => rfl

/-- What does nothing to the task leaves both stores as they are. -/
theorem unwritten_of_quiet {w w' : World} {stored stored' : Json} {e : Effect} {r : e.Reply}
    (ha : Answers w e r w') (hw : Written key w w' stored e stored')
    (hmake : ∀ ns task, e ≠ .store (.createTask ns task))
    (hdelete : e ≠ .store (.deleteTask key.ns key.name))
    (hwrite : ∀ new, e ≠ .store (.replaceTaskStatus key.ns key.name new)) :
    w'.task? key = w.task? key ∧ stored' = stored := by
  refine ⟨?_, stored_eq hwrite hw⟩
  rcases task?_cases ha key with hsame | ⟨⟨ns, task, he⟩, -⟩ | ⟨he, -⟩ | ⟨new, he, -⟩
  · exact hsame
  · exact absurd he (hmake ns task)
  · exact absurd he hdelete
  · exact absurd he (hwrite new)

/-- An effect of a reconciliation keeps the stores in agreement. What counts is a status write: it
must cover the status that is stored, which is why the reconciliation has to know the last one. -/
theorem agrees_act {e : Effect} {next : e.Reply → Program (Except OperatorError Action)}
    {r : e.Reply} {w' : World} {stored' : Json} (hi : Agrees key s)
    (ht : s.turn = some ⟨h, .perform e next⟩) (ha : Answers s.world e r w')
    (hw : Written key s.world w' s.stored e stored') :
    Agrees key ⟨w', stored', some ⟨h ++ [⟨e, r⟩], next r⟩⟩ := by
  obtain ⟨copy, ⟨hcovering, hrest⟩, hknows⟩ := hi.turn _ ht
  suffices hs : (∀ t, w'.task? key = some t → Mirrors stored' t.status) ∧
      ∀ s₀, Knows key copy (h ++ [⟨e, r⟩]) s₀ →
        ∀ t, w'.task? key = some t → s₀.Covers (t.status.getD {}) by
    refine ⟨hs.1, fun u hu => ?_⟩
    cases hu
    exact ⟨copy, hrest r, hs.2⟩
  cases hcovering with
  | read =>
    obtain ⟨hsame, rfl⟩ := unwritten_of_quiet ha hw (by simp) (by simp) (by simp)
    refine ⟨fun t ht => hi.mirrors t (hsame ▸ ht), fun s₀ hk t ht => ?_⟩
    rcases knows_concat hk with ⟨t₀, hread, rfl⟩ | hstored | ⟨hq, -⟩
    · -- what is read is what is stored
      cases hread
      cases (task?_of_reading ha rfl).symm.trans (hsame ▸ ht)
      exact .refl _
    · cases hstored
    · cases hq
  | delete =>
    refine ⟨fun t ht => ?_, fun s₀ hk t ht => ?_⟩
    · rw [stored_eq (by simp) hw]
      rcases task?_cases ha key with hsame | ⟨⟨_, _, he⟩, -⟩ | ⟨-, hgone⟩ | ⟨_, he, -⟩
      · exact hi.mirrors t (hsame ▸ ht)
      · cases he
      · cases hgone.symm.trans ht
      · cases he
    · rcases knows_concat hk with ⟨t₀, hread, -⟩ | hstored | ⟨hq, -⟩
      · cases hread
      · cases hstored
      · cases hq
  | @persist s₀ new hs hc =>
    refine ⟨mirrors_written hi.mirrors (fun t ht => hc.trans (hknows s₀ hs t ht)) hw,
      fun s₁ hk t ht => ?_⟩
    rcases knows_concat hk with ⟨t₀, hread, -⟩ | hstored | ⟨hq, -⟩
    · cases hread
    · -- what is acknowledged is what is stored
      cases hstored
      rcases persist_cases ha with ⟨-, err, herr⟩ | hnow
      · cases herr
      · rw [hnow t ht]
        exact .refl _
    · cases hq
  | act hq =>
    obtain ⟨hsame, rfl⟩ := unwritten_of_quiet ha hw (fun _ _ he => by rw [he] at hq; cases hq)
      (fun he => by rw [he] at hq; cases hq) (fun _ he => by rw [he] at hq; cases hq)
    refine ⟨fun t ht => hi.mirrors t (hsame ▸ ht), fun s₀ hk t ht => ?_⟩
    rcases knows_concat hk with ⟨t₀, hread, -⟩ | hstored | ⟨-, hk⟩
    · cases hread
      cases hq
    · cases hstored
      cases hq
    · exact hknows s₀ hk t (hsame ▸ ht)

theorem agrees_step (hi : Agrees key s) (hstep : Twin.Step config key s s') : Agrees key s' := by
  cases hstep with
  | @reconcile t hidle ht hns hname =>
    refine ⟨hi.mirrors, fun u hu => ?_⟩
    cases hu
    refine ⟨t, covering_task hns hname, fun s₀ hk t' ht' => ?_⟩
    cases hk with
    | given hq =>
      cases ht.symm.trans ht'
      exact .refl _
    | shown hs => exact absurd hs shown_nil
  | act ht ha hw => exact agrees_act hi ht ha hw
  | leave => exact ⟨hi.mirrors, nofun⟩
  -- An edit keeps the status or starts the task anew, without one.
  | edit hu =>
    refine ⟨fun t' ht' => ?_, fun u hturn => ?_⟩
    · rcases hu t' ht' with ⟨hnone, hnull⟩ | ⟨t, ht, hsame, hstored⟩
      · show Mirrors _ t'.status
        rw [hnone, hnull]
        exact mirrors_null
      · show Mirrors _ t'.status
        rw [hsame, hstored]
        exact hi.mirrors t ht
    · obtain ⟨copy, hholds, hknows⟩ := hi.turn u hturn
      refine ⟨copy, hholds, fun s₀ hk t' ht' => ?_⟩
      rcases hu t' ht' with ⟨hnone, -⟩ | ⟨t, ht, hsame, -⟩
      · rw [hnone]
        exact covers_empty s₀
      · rw [hsame]
        exact hknows s₀ hk t ht

/-- **The two stores agree on the status of a task.** Whatever status is stored at first, and
however the task is reconciled, each time as it is stored then: the value the API server has is
read as the status that the store in memory has; and a status that is about to be written will be
read back, from what merging its patch stores, as it was written. -/
theorem stores_agree {w : World} {stored : Json}
    (hstart : ∀ t, w.task? key = some t → Mirrors stored t.status)
    (hr : ReflTransGen (Twin.Step config key) ⟨w, stored, none⟩ s) :
    (∀ t, s.world.task? key = some t → Mirrors s.stored t.status) ∧
      ∀ h new next, s.turn =
          some ⟨h, .perform (.store (.replaceTaskStatus key.ns key.name new)) next⟩ →
        ∀ t, s.world.task? key = some t → TaskStatus.decode? (new.patched s.stored) = some new := by
  have hi : Agrees key s := by
    induction hr with
    | refl => exact ⟨hstart, nofun⟩
    | tail _ hstep ih => exact agrees_step ih hstep
  refine ⟨hi.mirrors, fun h new next hturn t ht => ?_⟩
  obtain ⟨copy, ⟨hcovering, -⟩, hknows⟩ := hi.turn _ hturn
  cases hcovering with
  | persist hs hc => exact (hi.mirrors t ht).decode?_patched (hc.trans (hknows _ hs t ht))
  | act hq => cases hq

/-- Something comes of every effect in both stores. -/
theorem exists_written (key : NamespacedName) {w w' : World} {e : Effect} {r : e.Reply}
    (ha : Answers w e r w') (stored : Json) : ∃ stored', Written key w w' stored e stored' := by
  by_cases he : ∃ new, e = .store (.replaceTaskStatus key.ns key.name new)
  · obtain ⟨new, rfl⟩ := he
    rcases ha.store_cases with ⟨hs, -⟩ | ⟨hs, -⟩
    · exact ⟨_, .refused new hs⟩
    · exact ⟨_, .merged new hs⟩
  · exact ⟨_, .other fun new hnew => he ⟨new, hnew⟩⟩

/-- A reconciliation does some effects while nothing else goes on. -/
theorem twin_forward (config : Config) (key : NamespacedName) (n : Nat)
    {u : Underway (Except OperatorError Action)} (hs : s.turn = some u) :
    ∃ stored', ReflTransGen (Twin.Step config key) s
      ⟨(u.forward n s.world).1, stored', some (u.forward n s.world).2⟩ := by
  have hstay : ∀ {s : Twin} {u}, s.turn = some u →
      ∃ stored', ReflTransGen (Twin.Step config key) s ⟨s.world, stored', some u⟩ := by
    intro s u hs
    refine ⟨s.stored, ?_⟩
    rw [← hs]
  induction n generalizing s u with
  | zero => exact hstay hs
  | succ n ih =>
    obtain ⟨h, rest⟩ := u
    cases rest with
    | done a => exact hstay hs
    | crash => exact hstay hs
    | perform e next =>
      have ha := Answers.answers_perform s.world e
      obtain ⟨stored₁, hw⟩ := exists_written key ha s.stored
      obtain ⟨stored', hrest⟩ := ih (s := ⟨_, stored₁, _⟩) rfl
      exact ⟨stored', .head (.act s hs ha hw) hrest⟩

/-- A task whose one member is still to be cleaned up. -/
def cleaning : CassandraTask :=
  { tidy with status := some {
      phase := .running
      pods := SortedMap.insert {} "c-d-rack1-0" .waiting
      startTime := some "2024-01-01T00:00:00Z" } }

/-- A world that stores it. -/
def cleaningWorld : World := { untidy with
  store := { untidy.store with tasks := SortedMap.insert {} tidyKey cleaning } }

/-- It is cleaned up, and both stores say so. -/
theorem both_store_success : ∃ stored s,
    (∀ t, cleaningWorld.task? tidyKey = some t → Mirrors stored t.status) ∧
      ReflTransGen (Twin.Step {} tidyKey) ⟨cleaningWorld, stored, none⟩ s ∧
      ((s.world.task? tidyKey).bind (·.status)).map (·.phase) = some .succeed ∧
      ∀ t, s.world.task? tidyKey = some t → Mirrors s.stored t.status := by
  let first : TaskStatus := cleaning.status.getD {}
  let all : Underway (Except OperatorError Action) := .fresh (Reconcile.wholeTask {} cleaning)
  have hstart : ∀ t, cleaningWorld.task? tidyKey = some t →
      Mirrors (first.patched .null) t.status := by
    intro t ht
    cases ht
    exact mirrors_null.patched (covers_empty first)
  have hdone : (((all.forward 30 cleaningWorld).1.task? tidyKey).bind (·.status)).map (·.phase) =
      some .succeed := by decide +kernel
  have hcall : Twin.Step {} tidyKey ⟨cleaningWorld, first.patched .null, none⟩
      ⟨cleaningWorld, first.patched .null, some all⟩ := .reconcile _ (t := cleaning) rfl rfl rfl rfl
  obtain ⟨stored, hrest⟩ := twin_forward {} tidyKey 30
    (s := ⟨cleaningWorld, first.patched .null, some all⟩) rfl
  have hr := ReflTransGen.head hcall hrest
  exact ⟨_, _, hstart, hr, hdone, (stores_agree hstart hr).1⟩

end Advance

end RackOperator
