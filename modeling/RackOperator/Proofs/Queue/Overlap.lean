import RackOperator.Proofs.Aims
import RackOperator.Proofs.Queue.Service
import RackOperator.Proofs.Task.AtMostOnce

/-!
# What runs beside a unit

Controllers put two kinds of units in line: a pass has the slot of its DataCenter, and an
advance that of the DataCenter its task names, in the copy that the controller was given.
When its turn comes the advance reads the task anew and works on the DataCenter named there.

`overlaps_only_astray` is what the one slot for each key comes to. A unit that is about any rack
or member keeps to the DataCenter of its slot, and no other unit of that DataCenter runs
meanwhile, unless one of the two is an advance that strays: the task, as it has read it, names
another DataCenter than the copy it was put in line with.

Nothing keeps an advance from straying. `strayed_beside_pass` is a run in which one is
about to call a member of a DataCenter while a pass over that DataCenter runs.
-/

namespace RackOperator

/-- The one task an advance reads is its own. -/
theorem Advance.eq_of_due {own key : NamespacedName} {h : History} {e : Effect}
    (hd : Due own h e) (he : e = .store (.getTask key.ns key.name)) : key = own := by
  cases hd with
  | read =>
    cases key
    cases he
    rfl
  | persist => cases he
  | act hno =>
    rw [he] at hno
    cases hno

namespace WorkQueue

open Relation (ReflTransGen)

/-- The units that controllers put in line. -/
inductive Offered (config : Config) : WorkUnit Action → Prop
  | pass (dc : DataCenter) {u : WorkUnit Action}
    (hu : Reconcile.dataCenter config dc = .done (.queued u)) : Offered config u
  | advance (copy : CassandraTask) {u : WorkUnit Action}
    (hu : Reconcile.task config copy = .done (.queued u)) : Offered config u

namespace Scene

/-- A unit that runs has read a task of a namespace. -/
def Took (s : Scene Action) (t : Ticket) (ns : String) (task : CassandraTask) : Prop :=
  ∃ b name, s.body t = some b ∧ Advance.reading ⟨ns, name⟩ (some task) ∈ b.history

/-- A unit is of a DataCenter if it has its slot, or has read a task that names it. -/
def Of (s : Scene Action) (k : ClusterKey) (t : Ticket) : Prop :=
  s.keyOf t = some k ∨ ∃ task, s.Took t k.ns task ∧ task.spec.datacenter = k.name

/-- An advance strays: the task it has read names another DataCenter than the copy it was put in
line with. -/
def Strays (s : Scene Action) (config : Config) (t : Ticket) : Prop :=
  ∃ u copy task, s.units[t]? = some u ∧ Reconcile.task config copy = .done (.queued u) ∧
    s.Took t u.key.ns task ∧ task.spec.datacenter ≠ copy.spec.datacenter

end Scene

variable {config : Config} {p : Nat} {s : Scene Action} {u : WorkUnit Action} {t : Ticket}
  {b : Underway (Except OperatorError Action)}

/-! ## The two kinds of units -/

theorem work_of_pass {dc : DataCenter} (hu : Reconcile.dataCenter config dc = .done (.queued u)) :
    u.work = (Pass.run config u.key).run := by
  unfold Reconcile.dataCenter at hu
  split at hu
  next => cases hu
  next =>
    split at hu
    next => cases hu
    next =>
      cases hu
      rfl

/-- What is queued for a task is an advance of it, in the slot of the DataCenter that the caller's
copy names. -/
theorem work_of_advance {copy : CassandraTask}
    (hu : Reconcile.task config copy = .done (.queued u)) :
    u.key.name = copy.spec.datacenter ∧
      u.work = (Advance.run config ⟨u.key.ns, copy.metadata.anyName⟩).run := by
  cases hns : copy.metadata.ns with
  | none =>
    unfold Reconcile.task at hu
    rw [hns] at hu
    cases hu
  | some ns =>
    have hcall := @Advance.holds_call config ⟨ns, copy.metadata.anyName⟩ copy hns rfl
    rw [hu] at hcall
    obtain ⟨hkey, hwork⟩ := hcall u rfl
    rw [hkey]
    exact ⟨rfl, hwork⟩

/-- A pass reads no task. -/
theorem not_reading_of_pass (hw : u.work = (Pass.run config u.key).run)
    (hf : u.work.Follows b.history b.rest) (key : NamespacedName) (task : CassandraTask) :
    Advance.reading key (some task) ∉ b.history := by
  intro hmem
  rw [hw] at hf
  obtain ⟨h₁, -, hd⟩ := (Program.Holds.follows (Pass.holds_run config u.key) hf).2 _ hmem
  cases hd

/-- An advance reads its own task only, so what it has found is told by that task. -/
theorem reading_of_advance {key own : NamespacedName} {task : CassandraTask}
    (hw : u.work = (Advance.run config own).run) (hf : u.work.Follows b.history b.rest)
    (hmem : Advance.reading key (some task) ∈ b.history) : key = own := by
  rw [hw] at hf
  obtain ⟨h₁, -, hd⟩ := (Program.Holds.follows (Advance.holds_run config own) hf).2 _ hmem
  exact Advance.eq_of_due hd rfl

/-- What a unit does next is about the DataCenter of its slot, unless it strays: an advance does if
its task names another one by the time it is read. -/
theorem aims_or_strays (hk : Kept p s) (hu : ∀ u ∈ s.units, Offered config u)
    (hb : s.body t = some b) {e : Effect} (he : b.next? = some e) :
    e.Apart ∨ ∃ k dc, b.history.Found k dc ∧ e.Within k.ns dc ∧
      (s.Strays config t ∨ s.keyOf t = some k) := by
  obtain ⟨u, hut, hf⟩ := hk.body t b hb
  obtain ⟨next, hnext⟩ := Underway.exists_perform he
  have hrest : b.rest = .perform e next := congrArg Underway.rest hnext
  have hkey := keyOf_of_units hut
  cases hu u (List.mem_of_getElem? hut) with
  | pass dc hoffer =>
    have hw := work_of_pass hoffer
    rw [hw] at hf
    have hd := (Program.Holds.follows (Pass.holds_run config u.key) hf).1
    rw [hrest] at hd
    rcases Pass.aims_of_due hd.1 with hapart | ⟨dc, hfound, hwithin⟩
    · exact .inl hapart
    · exact .inr ⟨u.key, dc, hfound, hwithin, .inr hkey⟩
  | advance copy hoffer =>
    obtain ⟨hname, hw⟩ := work_of_advance hoffer
    rw [hw] at hf
    have hd := (Program.Holds.follows (Advance.targets_run config _) hf).1
    rw [hrest] at hd
    rcases hd.1.1 with hapart | ⟨task, hread, hapart | ⟨dc, hfound, hwithin⟩⟩
    · exact .inl hapart
    · exact .inl hapart
    · refine .inr ⟨_, dc, hfound, hwithin, ?_⟩
      -- The slot is that of the copy; the task that was read may name another DataCenter by now.
      by_cases hsame : task.spec.datacenter = copy.spec.datacenter
      · rw [hsame, ← hname]
        exact .inr hkey
      · exact .inl ⟨u, copy, task, hut, hoffer, ⟨b, _, hb, hread⟩, hsame⟩

/-- A unit is of the DataCenter of its slot only, unless it strays. -/
theorem slot_or_strays (hk : Kept p s) (hu : ∀ u ∈ s.units, Offered config u) {k : ClusterKey}
    (hof : s.Of k t) : s.keyOf t = some k ∨ s.Strays config t := by
  rcases hof with hkey | ⟨task, ⟨b, name, hb, hread⟩, hname⟩
  · exact .inl hkey
  · obtain ⟨u, hut, hf⟩ := hk.body t b hb
    cases hu u (List.mem_of_getElem? hut) with
    | pass dc hoffer => exact absurd hread (not_reading_of_pass (work_of_pass hoffer) hf _ _)
    | advance copy hoffer =>
      obtain ⟨hcopy, hw⟩ := work_of_advance hoffer
      have hown := reading_of_advance hw hf hread
      have hns : k.ns = u.key.ns := (NamespacedName.mk.inj hown).1
      by_cases hsame : task.spec.datacenter = copy.spec.datacenter
      · refine .inl ((keyOf_of_units hut).trans (congrArg some ?_))
        show (⟨u.key.ns, u.key.name⟩ : ClusterKey) = ⟨k.ns, k.name⟩
        rw [hns, hcopy, ← hsame, hname]
      · exact .inr ⟨u, copy, task, hut, hoffer, ⟨b, _, hb, hns ▸ hread⟩, hsame⟩

/-- **One unit of a DataCenter at a time, but for advances that stray.** However submissions,
drainers, units and the outside interleave: what a unit does next is about the racks and members of
a DataCenter it has found, if about any. Unless the unit strays, this is the DataCenter of its
slot, and whatever else of that DataCenter runs is an advance that strays. -/
theorem overlaps_only_astray {w : World} (hr : Reaches (.new w p) s)
    (hu : ∀ u ∈ s.units, Offered config u) (hb : s.body t = some b) {e : Effect}
    (he : b.next? = some e) (hn : ¬e.Apart) :
    ∃ k dc, b.history.Found k dc ∧ e.Within k.ns dc ∧
      (s.Strays config t ∨ s.keyOf t = some k ∧
        ∀ t', (s.body t').isSome → s.Of k t' → t' = t ∨ s.Strays config t') := by
  have hk := kept_of_reaches hr
  obtain hapart | ⟨k, dc, hfound, hwithin, hstrays | hkey⟩ := aims_or_strays hk hu hb he
  · exact absurd hapart hn
  · exact ⟨k, dc, hfound, hwithin, .inl hstrays⟩
  · refine ⟨k, dc, hfound, hwithin, .inr ⟨hkey, fun t' ht' hof => ?_⟩⟩
    rcases slot_or_strays hk hu hof with hkey' | hstrays
    · exact .inl (alone hk ht' (by rw [hb]; rfl) (hkey'.trans hkey.symm))
    · exact .inr hstrays

/-! ## An advance that strays -/

/-- A unit that runs does some effects while nothing else goes on. -/
theorem reaches_forward {α : Type} (n : Nat) {s : Scene α} {t : Ticket}
    {b : Underway (Except OperatorError α)} (hb : s.body t = some b) :
    Reaches s { s with
      world := (b.forward n s.world).1
      body := Function.update s.body t (some (b.forward n s.world).2) } := by
  have hstay : ∀ {s : Scene α} {b}, s.body t = some b →
      Reaches s { s with body := Function.update s.body t (some b) } := by
    intro s b hb
    rw [← hb, Function.update_eq_self]
  -- On the number of effects, each done with the rest still to come.
  induction n generalizing s b with
  | zero => exact hstay hb
  | succ n ih =>
    obtain ⟨h, rest⟩ := b
    cases rest with
    | done a => exact hstay hb
    | crash => exact hstay hb
    | perform e next =>
      have ha := Answers.answers_perform s.world e
      have hrest := ih (s := { s with
        world := (s.world.perform e).2
        body := Function.update s.body t
          (some ⟨h ++ [⟨e, (s.world.perform e).1⟩], next (s.world.perform e).1⟩) })
        (Function.update_self _ _ _)
      rw [Function.update_idem] at hrest
      exact .head (.act s hb (.act ha)) hrest

/-- A task in a copy from before it was moved to another DataCenter. -/
def moved : CassandraTask :=
  { Advance.tidy with spec := { Advance.tidy.spec with datacenter := "e" } }

/-- The unit of a task that was moved. -/
def strayUnit : WorkUnit Action :=
  ⟨⟨"n", "e"⟩, "advance task t", (Advance.run {} Advance.tidyKey).run⟩

/-- The unit of a pass over the DataCenter that the task was moved to. -/
def passUnit : WorkUnit Action :=
  ⟨⟨"n", "d"⟩, "reconcile datacenter", (Pass.run {} ⟨"n", "d"⟩).run⟩

/-- The two run, and the advance has come as far as its first call. -/
def astray : Scene Action where
  world := ((Advance.fresh {} Advance.tidyKey).forward 8 Advance.untidy).1
  queue := (((((((State.new 2).submit ⟨"n", "e"⟩ 0).receive 0).request 0).start 0).submit
    ⟨"n", "d"⟩ 1).receive 1).request 1 |>.start 1
  units := [strayUnit, passUnit]
  started := [0, 1]
  body := Function.update
    (Function.update (Function.update (fun _ => none) 0 (some (.fresh strayUnit.work))) 1
      (some (.fresh passUnit.work))) 0
    (some ((Advance.fresh {} Advance.tidyKey).forward 8 Advance.untidy).2)

/-- The example is reached: the advance is queued by an old copy, and started after the task has
been changed. -/
theorem reaches_astray : Reaches (.new Advance.untidy 2) astray := by
  have h := Relation.ReflTransGen.single (Step.submit (.new Advance.untidy 2) strayUnit)
  have h := ((h.tail (.receive _ 0)).tail (.request _ 0)).tail
    (.start _ (d := ⟨0, ⟨"n", "e"⟩, [], .permitted 0⟩) rfl rfl rfl)
  have h := (((h.tail (.submit _ passUnit)).tail (.receive _ 1)).tail (.request _ 1)).tail
    (.start _ (d := ⟨1, ⟨"n", "d"⟩, [], .permitted 1⟩) rfl rfl rfl)
  exact h.trans (reaches_forward 8 (t := 0) rfl)

theorem offered_astray : ∀ u ∈ astray.units, Offered {} u :=
  List.forall_mem_cons.mpr ⟨.advance moved rfl,
    List.forall_mem_singleton.mpr (.pass Advance.tidied rfl)⟩

/-- The advance is about to call a member of the other DataCenter. -/
theorem next_astray : ∃ b e, astray.body 0 = some b ∧ b.next? = some e ∧ e.isSidecar = true ∧
    e.members = [Advance.tidied.naming.member (.new 0) 0] := by
  let b := ((Advance.fresh {} Advance.tidyKey).forward 8 Advance.untidy).2
  have hnext : b.next?.map (fun e => (e.isSidecar, e.members)) =
      some (true, [Advance.tidied.naming.member (.new 0) 0]) := by decide +kernel
  obtain ⟨e, he, hcalls⟩ := Option.map_eq_some_iff.mp hnext
  exact ⟨b, e, rfl, he, congrArg Prod.fst hcalls, congrArg Prod.snd hcalls⟩

/-- The advance has the slot of one DataCenter and is about to call a member of another, while a
pass over that one runs. -/
theorem strayed_beside_pass : ∃ (s : Scene Action) (b : _) (e : Effect),
    Reaches (.new Advance.untidy 2) s ∧ (∀ u ∈ s.units, Offered {} u) ∧
      Advance.untidy.store.dataCenters.find? ⟨"n", "d"⟩ = some Advance.tidied ∧
      s.units = [strayUnit, passUnit] ∧ s.keyOf 0 = some ⟨"n", "e"⟩ ∧
      s.body 0 = some b ∧ b.next? = some e ∧ e.isSidecar = true ∧
      e.members = [Advance.tidied.naming.member (.new 0) 0] ∧
      s.keyOf 1 = some ⟨"n", "d"⟩ ∧ (s.body 1).isSome := by
  obtain ⟨b, e, hb, he, hcall, hm⟩ := next_astray
  exact ⟨astray, b, e, reaches_astray, offered_astray, rfl, rfl, rfl, hb, he, hcall, hm, rfl, rfl⟩

/-- It strays, as what overlaps must. -/
theorem strayed_apart_from_slot : ∃ (s : Scene Action) (b : _) (e : Effect),
    Reaches (.new Advance.untidy 2) s ∧ (∀ u ∈ s.units, Offered {} u) ∧ s.body 0 = some b ∧
      b.next? = some e ∧ ¬e.Apart ∧
      ∃ k dc, b.history.Found k dc ∧ e.Within k.ns dc ∧
        (s.Strays {} 0 ∨ s.keyOf 0 = some k ∧
          ∀ t', (s.body t').isSome → s.Of k t' → t' = 0 ∨ s.Strays {} t') := by
  obtain ⟨b, e, hb, he, -, hm⟩ := next_astray
  have hn : ¬e.Apart := fun h => by
    have hnil := h.members
    rw [hm] at hnil
    cases hnil
  exact ⟨astray, b, e, reaches_astray, offered_astray, hb, he, hn,
    overlaps_only_astray reaches_astray offered_astray hb he hn⟩

end WorkQueue

end RackOperator
