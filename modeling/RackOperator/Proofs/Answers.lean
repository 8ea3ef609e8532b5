import RackOperator.Proofs.Histories
import RackOperator.Proofs.StoreFrame
import RackOperator.World

/-!
# How a world answers

`World.perform` answers every effect in one way. Around a running program more can
happen: a store call fails before it reaches the store, or takes effect and its
acknowledgement is lost, and a sidecar answers what it likes. `Answers w e r w'` holds
when the effect `e`, done in the world `w`, may be answered `r` and leave the world `w'`
behind; what `World.perform` does is one of the ways (`answers_perform`).

An answer changes the store only through `MemoryStore.perform`, and a call that is
acknowledged did take effect: `Answers.store_cases` is the only fact about the store that
later proofs use.
-/

namespace RackOperator

/-- How an effect may be answered, and the world after it. -/
inductive Answers : World → (e : Effect) → e.Reply → World → Prop
  /-- As the world in memory answers it. -/
  | performed (w : World) (e : Effect) : Answers w e (w.perform e).1 (w.perform e).2
  /-- A store call takes effect and is acknowledged. -/
  | acknowledged (w : World) (call : StoreCall) :
    Answers w (.store call) (w.store.perform call).1 { w with store := (w.store.perform call).2 }
  /-- A store call fails without effect. -/
  | refused (w : World) (call : StoreCall) (err : OperatorError) :
    Answers w (.store call) (.error err) w
  /-- A store call takes effect, and fails. -/
  | unacknowledged (w : World) (call : StoreCall) (err : OperatorError) :
    Answers w (.store call) (.error err) { w with store := (w.store.perform call).2 }
  /-- A sidecar can be got hold of, or cannot. -/
  | connected (w : World) (m : Member) (r : Except OperatorError Unit) :
    Answers w (.connect m) r w
  /-- A sidecar answers anything. -/
  | requested (w : World) (m : Member) (q : SidecarRequest) (r : Except OperatorError q.Reply)
    (sidecars : Sidecar.Script) : Answers w (.request m q) r { w with sidecars }
  /-- Several sidecars answer anything. -/
  | requestedAll (w : World) (ms : List Member) (q : SidecarRequest)
    (rs : List (Except OperatorError q.Reply)) (sidecars : Sidecar.Script) :
    Answers w (.requestAll ms q) rs { w with sidecars }

namespace Answers

variable {w w' : World}

/-- What a world does with an effect is one of the answers there may be. -/
theorem answers_perform (w : World) (e : Effect) :
    Answers w e (w.perform e).1 (w.perform e).2 := .performed w e

theorem store_refuses (w : World) (name : String) : (w.refuses name).2.store = w.store := by
  unfold World.refuses
  split
  next => rfl
  next plan _ =>
    split
    · rfl
    · split <;> rfl

/-- A store call in a world is refused and changes nothing, or is done over its store. -/
theorem perform_store (w : World) (call : StoreCall) :
    (w.perform (.store call)).2.store = w.store ∧
        (∃ err, (w.perform (.store call)).1 = .error err) ∨
      (w.perform (.store call)).2.store = (w.store.perform call).2 ∧
        (w.perform (.store call)).1 = (w.store.perform call).1 := by
  show (w.askStore call).2.store = w.store ∧ (∃ err, (w.askStore call).1 = .error err) ∨
    (w.askStore call).2.store = _ ∧ (w.askStore call).1 = _
  have hs := store_refuses w call.name
  unfold World.askStore
  generalize w.refuses call.name = p at hs ⊢
  obtain ⟨refused, w₁⟩ := p
  cases refused with
  | true => exact .inl ⟨hs, _, rfl⟩
  | false => rw [← hs]; exact .inr ⟨rfl, rfl⟩

/-- A store call is refused, or takes effect; acknowledged, it took effect. An answer may be lost,
so an error does not tell which of the two. -/
theorem store_cases {call : StoreCall} {r : Except OperatorError call.Value}
    (h : Answers w (.store call) r w') :
    w'.store = w.store ∧ (∃ err, r = .error err) ∨
      w'.store = (w.store.perform call).2 ∧
        (r = (w.store.perform call).1 ∨ ∃ err, r = .error err) := by
  cases h with
  | performed =>
    rcases perform_store w call with h | ⟨hs, hr⟩
    · exact .inl h
    · exact .inr ⟨hs, .inl hr⟩
  | acknowledged => exact .inr ⟨rfl, .inl rfl⟩
  | refused _ err => exact .inl ⟨rfl, err, rfl⟩
  | unacknowledged _ err => exact .inr ⟨rfl, .inr ⟨err, rfl⟩⟩

/-- What is asked of anything but the store leaves it as it was. -/
theorem store_eq {e : Effect} {r : e.Reply} (h : Answers w e r w')
    (he : ∀ call, e ≠ .store call) : w'.store = w.store := by
  cases h with
  | performed e => cases e <;> first | exact absurd rfl (he _) | rfl
  | acknowledged call => exact absurd rfl (he call)
  | refused call err => exact absurd rfl (he call)
  | unacknowledged call err => exact absurd rfl (he call)
  | connected m r => rfl
  | requested m q r s => rfl
  | requestedAll ms q rs s => rfl

/-- Asking the store changes the store and what is planned for it, and nothing else. The registry,
the cache and the sidecars are therefore the same behind any store call, whether it is refused or
not. -/
theorem askStore_eq (w : World) (call : StoreCall) :
    ∃ store storePlans, (w.askStore call).2 = { w with store, storePlans } := by
  have hr : ∃ storePlans, (w.refuses call.name).2 = { w with storePlans } := by
    unfold World.refuses
    split
    next => exact ⟨_, rfl⟩
    next plan _ =>
      split
      · exact ⟨_, rfl⟩
      · split
        · exact ⟨_, rfl⟩
        · exact ⟨_, rfl⟩
  unfold World.askStore
  generalize w.refuses call.name = p at hr ⊢
  obtain ⟨refused, w₁⟩ := p
  obtain ⟨storePlans, rfl⟩ := hr
  cases refused with
  | true => exact ⟨_, _, rfl⟩
  | false => exact ⟨_, _, rfl⟩

/-- No effect writes the cache. Only poll rounds do, which are no effects of a program. -/
theorem cache_eq {e : Effect} {r : e.Reply} (h : Answers w e r w') : w'.cache = w.cache := by
  cases h with
  | performed =>
    cases e with
    | store call =>
      obtain ⟨store, storePlans, he⟩ := askStore_eq w call
      show (w.askStore call).2.cache = w.cache
      rw [he]
    | _ => rfl
  | _ => rfl

/-- Who is polled is changed by registrations only. -/
theorem registry_eq {e : Effect} {r : e.Reply} (h : Answers w e r w')
    (he : e.isRegistration = false) : w'.registry = w.registry := by
  cases h with
  | performed =>
    cases e with
    | store call =>
      obtain ⟨store, storePlans, heq⟩ := askStore_eq w call
      show (w.askStore call).2.registry = w.registry
      rw [heq]
    | register key ms => cases he
    | unregister key => cases he
    | _ => rfl
  | _ => rfl

/-- A DataCenter that is stored behind an effect was stored before, the same but for its status. -/
theorem dataCenter_before {e : Effect} {r : e.Reply} (h : Answers w e r w') {k : NamespacedName}
    {dc : DataCenter} (hdc : w'.store.dataCenters.find? k = some dc) :
    ∃ dc₀, w.store.dataCenters.find? k = some dc₀ ∧ dc = { dc₀ with status := dc.status } := by
  cases e with
  | store call =>
    rcases h.store_cases with ⟨hs, -⟩ | ⟨hs, -⟩
    · rw [hs] at hdc
      exact ⟨dc, hdc, rfl⟩
    · rw [hs] at hdc
      exact MemoryStore.find?_of_dataCenters_perform hdc
  | _ =>
    rw [h.store_eq (by simp)] at hdc
    exact ⟨dc, hdc, rfl⟩

end Answers

end RackOperator
