import RackOperator.Proofs.Pass.Deeds
import RackOperator.Proofs.Task.AtMostOnce
import RackOperator.Proofs.Task.Deeds

/-!
# The trail of the controller

In a `Session` passes and advances are run one after the other over a store in memory, each to its
end, with whatever sidecars and status writes come to, and the outside changes the store between
them. What one of them has put on record is the trail of its deeds (`Episode.faithful`), so what all
of them have is the trail of all deeds, in order (`Session.trail_faithful`).

The trail is read off histories here. That of a world is the same: it grows by the events of what is
done in it (`Program.ran_run_trail`).
-/

namespace RackOperator

/-- An errand that was run to its end: the store it was begun on, and all it has done. -/
structure Episode where
  errand : Errand
  store : MemoryStore
  history : History

namespace Episode

/-- The events put on record. -/
def events (time : String) (x : Episode) : List AuditEvent := x.history.events time

/-- What was done that belongs on record. -/
def deeds (x : Episode) : List Deed := x.errand.deeds x.store x.history

end Episode

/-- Errands run one after the other over a store, each to its end. Between two of them the outside
may change the store in any way. -/
inductive Session (config : Config) : MemoryStore → List Episode → MemoryStore → Prop
  | nil (s : MemoryStore) : Session config s [] s
  | run {e : Errand} {s s₁ s' : MemoryStore} {h : History}
    {o : Option (Except OperatorError Action)} {xs : List Episode}
    (hr : Program.Ran (e.work config).run s h o s₁) (hs : Session config s₁ xs s') :
    Session config s (⟨e, s, h⟩ :: xs) s'
  | edit {s s₁ s' : MemoryStore} {xs : List Episode} (hs : Session config s₁ xs s') :
    Session config s xs s'

variable {config : Config} {s s' : MemoryStore} {h : History} {α : Type}

/-- However an errand goes, its trail is that of its deeds. -/
theorem Errand.faithful_of_ran {e : Errand} {o : Option (Except OperatorError Action)}
    (hr : Program.Ran (e.work config).run s h o s') : e.Faithful s h s' := by
  cases e with
  | pass key => exact (Pass.way_of_ran hr).faithful
  | advance key => exact Advance.faithful_of_ran hr

/-- **The audit trail is faithful.** The events put on record in a session are those of the deeds
read off the store calls that took effect and the sidecars' answers: one for each, in order, and no
other. -/
theorem Session.trail_faithful {xs : List Episode} (hs : Session config s xs s') (time : String) :
    xs.flatMap (Episode.events time) =
      xs.flatMap fun x => x.deeds.map (Deed.event time x.errand.about) := by
  induction hs with
  | nil => rfl
  | run hr _ ih =>
    rw [List.flatMap_cons, List.flatMap_cons, ih]
    exact congrArg (· ++ _) ((Errand.faithful_of_ran hr).trail time)
  | edit _ ih => exact ih

/-! ## The trail of a world -/

/-- To ask the store puts nothing on record. -/
theorem World.trail_askStore (w : World) (call : StoreCall) :
    (w.askStore call).2.trail = w.trail ∧ (w.askStore call).2.clock = w.clock := by
  have hrefuses : (w.refuses call.name).2.trail = w.trail ∧
      (w.refuses call.name).2.clock = w.clock := by
    unfold refuses
    split
    · exact ⟨rfl, rfl⟩
    · split
      · exact ⟨rfl, rfl⟩
      · split <;> exact ⟨rfl, rfl⟩
  unfold askStore
  dsimp only
  split <;> exact hrefuses

/-- An effect puts its event on record, if it has one, at the time of the world. -/
theorem World.trail_perform (w : World) (e : Effect) :
    (w.perform e).2.trail = w.trail ++ (e.event? (Text.Rfc3339.precise w.clock)).toList ∧
      (w.perform e).2.clock = w.clock := by
  cases e with
  | store call =>
    obtain ⟨ht, hc⟩ := w.trail_askStore call
    exact ⟨ht.trans (List.append_nil _).symm, hc⟩
  | audit about entry => exact ⟨rfl, rfl⟩
  | _ => exact ⟨(List.append_nil _).symm, rfl⟩

/-- The trail of a world grows by the events of what is done in it. -/
theorem Program.ran_run_trail (p : Program α) {w : World} (hw : w.storePlans = {}) :
    ∃ h : History, (p.run (m := StateM World) World.perform w).2.trail =
        w.trail ++ h.events (Text.Rfc3339.precise w.clock) ∧
      p.Ran w.store h (p.run (m := StateM World) World.perform w).1
        (p.run (m := StateM World) World.perform w).2.store := by
  refine ran_run_rel (R := fun w h w' =>
    w'.trail = w.trail ++ History.events (Text.Rfc3339.precise w.clock) h)
    (fun w => (List.append_nil _).symm) (fun w e h w' ht => ?_) p hw
  obtain ⟨htrail, hclock⟩ := w.trail_perform e
  rw [ht, htrail, hclock, List.append_assoc]
  refine congrArg (w.trail ++ ·) ?_
  unfold History.events
  rw [List.filterMap_cons]
  dsimp only
  cases e.event? (Text.Rfc3339.precise w.clock) <;> rfl

/-- A DataCenter of one node that is to have two, a task to clean it up, and one refusal of a
status write. -/
def growingTidied : World where
  store := { Advance.untidy.store with
    dataCenters := SortedMap.insert {} ⟨"n", "d"⟩
      { Advance.tidied with spec := { Advance.tidied.spec with replicas := 2 } }
    refusedStatusWrites := 1 }
  cache := SortedMap.insert {} ⟨"n", "c-d-rack1-0"⟩ .normal

/-- A pass grows the rack though its status is refused, and the task runs on both nodes. -/
theorem trail_growingTidied : ∃ xs s', Session {} growingTidied.store xs s' ∧
    (xs.flatMap fun x => x.deeds.map
        (Deed.event (Text.Rfc3339.precise growingTidied.clock) x.errand.about)).map
        (fun e => (e.eventType, e.resource)) =
      [(.rackScaledUp, "d"), (.taskStarted, "t"), (.taskFinished, "t")] := by
  let time := Text.Rfc3339.precise growingTidied.clock
  let w₁ := ((Pass.run {} ⟨"n", "d"⟩).run.run (m := StateM World) World.perform growingTidied).2
  obtain ⟨h₁, ht₁, hr₁⟩ := Program.ran_run_trail (Pass.run {} ⟨"n", "d"⟩).run
    (w := growingTidied) rfl
  obtain ⟨h₂, ht₂, hr₂⟩ := Program.ran_run_trail (Advance.run {} Advance.tidyKey).run
    (w := w₁) (by decide +kernel)
  have hs := Session.run (e := .pass ⟨"n", "d"⟩) hr₁
    (.run (e := .advance Advance.tidyKey) hr₂ (.nil _))
  refine ⟨_, _, hs, ?_⟩
  rw [← hs.trail_faithful]
  -- what the two have put on record is the trail of the world they were run in
  have hclock : w₁.clock = growingTidied.clock := by decide +kernel
  rw [hclock] at ht₂
  have htrail : h₁.events time ++ (h₂.events time ++ []) =
      ((Advance.run {} Advance.tidyKey).run.run (m := StateM World) World.perform w₁).2.trail := by
    rw [List.append_nil, ht₂]
    exact congrArg (· ++ _) ht₁.symm
  show (h₁.events time ++ (h₂.events time ++ [])).map _ = _
  rw [htrail]
  decide +kernel

end RackOperator
