import RackOperator.Proofs.Pass.Stages
import RackOperator.Proofs.Underway
import Mathlib.Logic.Relation

/-!
# Runs of passes

A `Scene` is a world and the pass under way in it, if there is one: passes run one at a
time. A `Move` begins a pass, does one effect of it, or leaves it at any point (at its end,
at a crash, or cut short). Between two moves the outside may change the world, also while a
pass is under way: anything in it but the StatefulSets themselves, of which it changes the
statuses only (`Edited`).

`Sound` is what holds along every run: the pass under way does what is due, and what it
has read of the StatefulSets still stands where it has not written. `replaces_read` and
`creates_new` draw from it what a write meets in the store: a replacement is of a
StatefulSet as read, a creation of one that does not exist. A `Turn` is a step of a run in
which the outside waits for passes to end; there not even statuses change under a pass.
-/

namespace RackOperator.Pass

open Relation (ReflTransGen)

/-- A pass that has come some way. -/
abbrev Course := Underway (Except OperatorError Action)

/-- The world, and the pass under way with the key it is for. -/
structure Scene where
  world : World
  pass : Option (ClusterKey × Course) := none

/-- The StatefulSets are as they were, but for their statuses. -/
def Edited (w w' : World) : Prop :=
  ∀ k, (w'.store.statefulSets.find? k).map StatefulSet.shape =
    (w.store.statefulSets.find? k).map StatefulSet.shape

/-- What the controller can do next. -/
inductive Move (config : Config) : Scene → Scene → Prop
  /-- A pass begins where none is under way. -/
  | begin (w : World) (key : ClusterKey) :
    Move config ⟨w, none⟩ ⟨w, some (key, .fresh (run config key))⟩
  /-- The pass does one effect. -/
  | act {w w' : World} {key : ClusterKey} {u u' : Course} (h : u.Acts w u' w') :
    Move config ⟨w, some (key, u)⟩ ⟨w', some (key, u')⟩
  /-- The pass ends, crashes or is cut short. -/
  | leave (w : World) (p : ClusterKey × Course) : Move config ⟨w, some p⟩ ⟨w, none⟩

/-- What can happen next. -/
inductive Step (config : Config) : Scene → Scene → Prop
  /-- The controller goes on. -/
  | move {s s' : Scene} (h : Move config s s') : Step config s s'
  /-- The outside changes the world. -/
  | edit {w w' : World} {pass : Option (ClusterKey × Course)} (h : Edited w w') :
    Step config ⟨w, pass⟩ ⟨w', pass⟩

/-- What can happen next while the outside changes the world between passes only. -/
inductive Turn (config : Config) : Scene → Scene → Prop
  /-- The controller goes on. -/
  | move {s s' : Scene} (h : Move config s s') : Turn config s s'
  /-- The outside changes the world. -/
  | edit {w w' : World} (h : Edited w w') : Turn config ⟨w, none⟩ ⟨w', none⟩

/-- Any number of moves, with nothing from outside between them. -/
abbrev Moves (config : Config) : Scene → Scene → Prop := ReflTransGen (Move config)

/-- Any number of steps. -/
abbrev Reaches (config : Config) : Scene → Scene → Prop := ReflTransGen (Step config)

/-- The StatefulSet stored under a name. -/
def Scene.stored (s : Scene) (k : NamespacedName) : Option StatefulSet :=
  s.world.store.statefulSets.find? k

variable {config : Config} {s s' : Scene} {β : Type} {π : StatefulSet → β}

theorem reaches_of_moves (h : Moves config s s') : Reaches config s s' :=
  ReflTransGen.mono (fun _ _ hm => Step.move hm) _ _ h

/-- They are turns as well, with nothing from outside in between. -/
theorem turns_of_moves (h : Moves config s s') : ReflTransGen (Turn config) s s' :=
  ReflTransGen.mono (fun _ _ hm => Turn.move hm) _ _ h

/-- The pass under way does what is due, and what it has read still stands as `π` sees it. -/
def Sound (config : Config) (π : StatefulSet → β) (s : Scene) : Prop :=
  ∀ key u, s.pass = some (key, u) →
    u.Holds (Due config key) (fun _ _ => True) ∧ ReadsHold π s.world u.history

theorem sound_none (w : World) : Sound config π ⟨w, none⟩ := fun _ _ h => absurd h (by simp)

/-- A move keeps the pass under way sound: it goes by the code, and what it has read of StatefulSets
is still what is stored. -/
theorem sound_move (h : Move config s s') (hi : Sound config π s) : Sound config π s' := by
  intro key u hu
  cases h with
  | begin w key =>
    cases hu
    refine ⟨?_, readsHold_nil π w⟩
    exact Program.Holds.mono (fun _ _ h => h) (fun _ _ _ => trivial) (holds_run config _)
  | act ha =>
    cases hu
    obtain ⟨hd, hr⟩ := hi _ _ rfl
    exact ⟨hd.acts ha, hr.acts ha⟩
  | leave w p => cases hu

/-- What comes from outside changes no more of a StatefulSet than its status, so what was read of
its shape still holds. -/
theorem sound_step (h : Step config s s') (hi : Sound config StatefulSet.shape s) :
    Sound config StatefulSet.shape s' := by
  cases h with
  | move hm => exact sound_move hm hi
  | edit he =>
    intro key u hu
    obtain ⟨hd, hr⟩ := hi key u hu
    exact ⟨hd, hr.of_view he⟩

/-- Between passes anything may come from outside, as there is no pass that has read anything. -/
theorem sound_turn (h : Turn config s s') (hi : Sound config π s) : Sound config π s' := by
  cases h with
  | move hm => exact sound_move hm hi
  | edit he => exact sound_none _

/-- So passes are sound in everything that is reached, with respect to what outside changes leave.
-/
theorem sound_of_reaches {w : World} (h : Reaches config ⟨w, none⟩ s) :
    Sound config StatefulSet.shape s := by
  induction h with
  | refl => exact sound_none w
  | tail _ hstep ih => exact sound_step hstep ih

/-- In runs where outside changes fall between passes they are sound with respect to anything read.
-/
theorem sound_of_turns {w : World} (h : ReflTransGen (Turn config) ⟨w, none⟩ s) :
    Sound config π s := by
  induction h with
  | refl => exact sound_none w
  | tail _ hturn ih => exact sound_turn hturn ih

/-! ## What a write meets -/

section Spares

variable {key : ClusterKey} {k : NamespacedName}

theorem spares_opening (dc : DataCenter) : History.Spares (opening key dc) k := by
  intro a ha x hx
  rcases List.mem_cons.mp ha with rfl | ha
  · cases hx
  · rw [List.mem_singleton.mp ha] at hx
    cases hx

theorem spares_lookUps (naming : Naming) (looked : List (Rack × Option StatefulSet)) :
    History.Spares (looked.map (lookUp key naming)) k := by
  intro a ha x hx
  obtain ⟨p, -, rfl⟩ := List.mem_map.mp ha
  cases hx

theorem spares_append {h h' : History} (hs : h.Spares k) (hs' : h'.Spares k) :
    History.Spares (h ++ h') k := by
  intro a ha
  rcases List.mem_append.mp ha with ha | ha
  · exact hs a ha
  · exact hs' a ha

/-- The history of a survey replaces no StatefulSet, and creates only those it found missing. -/
theorem spares_history (v : Survey) : History.Spares (v.history key) k := by
  have hnone : ∀ x ∈ (none : Option (NamespacedName × StatefulSet)), x.1 ≠ k := by
    intro x hx
    cases hx
  have hreads : ∀ a ∈ v.reads key, ∀ x ∈ a.effect.statefulSet?, x.1 ≠ k :=
    Survey.forall_mem_reads hnone hnone fun _ _ => hnone
  exact Survey.forall_mem_history hreads hnone hnone

/-- A StatefulSet in a survey was found by a look-up of its history. -/
theorem found_mem_history (v : Survey) {p : Rack × StatefulSet} (hp : p ∈ v.found) :
    Answered.found ⟨key.ns, v.dc.naming.statefulSetName p.1⟩ (some p.2) ∈ v.history key :=
  List.mem_append_left _ (List.mem_append_right _ (List.mem_map.mpr ⟨p, hp, rfl⟩))

end Spares

/-- A StatefulSet that a pass is about to replace is stored as the pass has read it, up to what
outside changes may touch. -/
theorem replaces_read {w : World} {key : ClusterKey} {v : Survey}
    (hr : ReadsHold π w (v.history key)) {p : Rack × StatefulSet} (hp : p ∈ v.found) :
    (w.store.statefulSets.find? ⟨key.ns, v.dc.naming.statefulSetName p.1⟩).map π =
      some (π p.2) :=
  hr _ _ (found_mem_history v hp) (spares_history v)

/-- A StatefulSet that a pass is about to create does not exist: it was found missing, and racks
have StatefulSets of names of their own. -/
theorem creates_new {w : World} {key : ClusterKey} {dc : DataCenter}
    {looked : List (Rack × Option StatefulSet)} {made : List (Rack × StatefulSet)} {r : Rack}
    {rest : List Rack} (hl : looked.map (·.1) = dc.racks)
    (hm : made.map (·.1) ++ r :: rest = (Census.of looked).missing)
    (hr : ReadsHold π w (opening key dc ++ looked.map (lookUp key dc.naming)
      ++ made.map (creation key dc))) :
    w.store.statefulSets.find? ⟨key.ns, dc.naming.statefulSetName r⟩ = none := by
  have hsub : (Census.of looked).missing.Sublist dc.racks := by
    rw [← hl]
    exact List.filter_sublist.map _
  have hmem : ∀ s ∈ made.map (·.1) ++ r :: rest, s ∈ dc.racks := by
    rw [hm]
    exact fun s hs => hsub.subset hs
  have hnd : (made.map (·.1) ++ r :: rest).Nodup := by
    rw [hm]
    exact hsub.nodup (Rack.nodup_all _)
  -- the rack was looked up, and nothing was found
  have hlooked : (r, none) ∈ looked := by
    have hmiss : r ∈ (Census.of looked).missing := by
      rw [← hm]
      exact List.mem_append_right _ List.mem_cons_self
    obtain ⟨⟨r', found⟩, hp, rfl⟩ := List.mem_map.mp hmiss
    obtain ⟨hp, hnone⟩ := List.mem_filter.mp hp
    cases found with
    | none => exact hp
    | some sts => cases hnone
  have hread : Answered.found ⟨key.ns, dc.naming.statefulSetName r⟩ none ∈
      opening key dc ++ looked.map (lookUp key dc.naming) ++ made.map (creation key dc) :=
    List.mem_append_left _ (List.mem_append_right _ (List.mem_map.mpr ⟨_, hlooked, rfl⟩))
  -- the racks made before it are others, and so are their names
  have hmade : History.Spares (made.map (creation key dc))
      ⟨key.ns, dc.naming.statefulSetName r⟩ := by
    intro a ha x hx he
    obtain ⟨p, hp, rfl⟩ := List.mem_map.mp ha
    cases hx
    have hpm : p.1 ∈ made.map (·.1) := List.mem_map.mpr ⟨p, hp, rfl⟩
    have hname : dc.naming.statefulSetName p.1 = dc.naming.statefulSetName r :=
      congrArg NamespacedName.name he
    have hpr : p.1 = r := Naming.statefulSetName_injOn
      (hmem _ (List.mem_append_left _ hpm))
      (hmem _ (List.mem_append_right _ List.mem_cons_self)) hname
    exact (List.nodup_append.mp hnd).2.2 _ hpm _ List.mem_cons_self hpr
  have hview := hr _ _ hread
    (spares_append (spares_append (spares_opening _) (spares_lookUps _ _)) hmade)
  exact Option.map_eq_none_iff.mp hview

/-- What a move can do to a StatefulSet that exists. -/
inductive Touches (π : StatefulSet → β) (s : Scene) (k : NamespacedName) :
    StatefulSet → StatefulSet → Prop
  /-- Nothing. -/
  | spares {old new : StatefulSet} (h : new = old) : Touches π s k old new
  /-- A pass replaces what it has read, all but the status. -/
  | replaces {key : ClusterKey} {v : Survey} {p : Rack × StatefulSet} {old sts new : StatefulSet}
    {next : (Effect.store (.replaceStatefulSet key.ns sts)).Reply → Program _}
    (hs : s.pass =
      some (key, ⟨v.history key, .perform (.store (.replaceStatefulSet key.ns sts)) next⟩))
    (hv : v.Whole)
    (hw : v.decision.written? v.observation = some sts)
    (hk : k = ⟨key.ns, v.dc.naming.statefulSetName p.1⟩)
    (hp : p ∈ v.found) (hread : π old = π p.2)
    (hcount : v.Allows p sts.replicas) (hnew : new.replicas = sts.replicas)
    (hstatus : new.status = old.status) : Touches π s k old new

/-- A move that changes a StatefulSet is a pass that replaces it, by its decision on the survey it
made. Every other move leaves it as it was. -/
theorem touches_of_move (hi : Sound config π s) (h : Move config s s') {k : NamespacedName}
    {old new : StatefulSet} (hold : s.stored k = some old) (hnew : s'.stored k = some new) :
    Touches π s k old new := by
  unfold Scene.stored at hold hnew
  cases h with
  | begin w key =>
    rw [hold] at hnew
    exact .spares (Option.some.inj hnew).symm
  | leave w p =>
    rw [hold] at hnew
    exact .spares (Option.some.inj hnew).symm
  | @act w w' key u u' ha =>
    obtain ⟨hd, hr⟩ := hi _ _ rfl
    cases ha with
    | @act _ _ h e next r ha =>
    have hdue : Due config key h e := hd.1
    have hother : w'.store.statefulSets.find? k = w.store.statefulSets.find? k →
        Touches π ⟨w, some (key, ⟨h, .perform e next⟩)⟩ k old new := by
      intro he
      rw [he, hold] at hnew
      exact .spares (Option.some.inj hnew).symm
    -- Two effects write StatefulSets. One creates, which would be under a name that is taken; the
    -- other replaces what the pass has read.
    cases hdue with
    | createStatefulSet dc looked made r rest hl hm =>
      refine hother (ha.find?_of_ne fun x hx he => ?_)
      cases hx
      subst he
      exact absurd (hold.symm.trans (creates_new hl hm hr)) (by simp)
    | replaceStatefulSet v hv sts hw =>
      obtain ⟨p, hp, hname, hcount⟩ := Survey.written_cases hv hw
      by_cases hk : ⟨key.ns, sts.metadata.anyName⟩ = k
      · rcases ha.store_cases with ⟨hs, -⟩ | ⟨hs, -⟩
        · exact hother (by rw [hs])
        · rw [hs, MemoryStore.find?_replaceStatefulSet, if_pos hk, hold] at hnew
          have hnew := Option.some.inj hnew
          have hk' : k = ⟨key.ns, v.dc.naming.statefulSetName p.1⟩ := by rw [← hk, hname]
          have hread := replaces_read hr hp
          rw [← hk', hold] at hread
          refine .replaces rfl hv hw hk' hp (Option.some.inj hread) hcount ?_ ?_
          · rw [← hnew, MemoryStore.replicas_keeping]
          · rw [← hnew]
            exact MemoryStore.status_keeping (by rw [hk]; exact hold)
      · refine hother (ha.find?_of_ne fun x hx => ?_)
        cases hx
        exact hk
    | _ => exact hother (by rw [ha.statefulSets_eq rfl])

/-- A move takes no StatefulSet away and leaves its status alone, so statuses change only from
outside. -/
theorem status_move (hi : Sound config π s) (h : Move config s s') {k : NamespacedName}
    {old : StatefulSet} (hold : s.stored k = some old) :
    ∃ new, s'.stored k = some new ∧ new.status = old.status := by
  -- Nothing a controller does deletes a StatefulSet.
  have hsome : (s'.stored k).isSome := by
    have holdSome : (s.stored k).isSome := by rw [hold]; rfl
    cases h with
    | begin w key => exact holdSome
    | leave w p => exact holdSome
    | act ha =>
      cases ha with
      | @act _ _ h e next r ha =>
      unfold Scene.stored at holdSome ⊢
      cases e with
      | store call =>
        rcases ha.store_cases with ⟨hs, -⟩ | ⟨hs, -⟩
        · rw [hs]; exact holdSome
        · rw [hs]; exact MemoryStore.isSome_find?_perform _ _ holdSome
      | _ => rw [ha.statefulSets_eq rfl]; exact holdSome
  obtain ⟨new, hnew⟩ := Option.isSome_iff_exists.mp hsome
  refine ⟨new, hnew, ?_⟩
  cases touches_of_move hi h hold hnew with
  | spares he => rw [he]
  | replaces _ _ _ _ _ _ _ _ hstatus => exact hstatus

end RackOperator.Pass
