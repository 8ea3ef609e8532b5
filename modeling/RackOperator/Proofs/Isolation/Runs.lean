import RackOperator.Proofs.Isolation.Stores

/-!
# Runs that agree in a namespace

What a run comes to is settled by the world it runs in and by what is decided outside of it:
whether a store call fails, what the sidecars answer, what the clock shows. An `Effect.Fate`
is such a decision, and `Program.under fates p w` the run of `p` in the world `w` under given
ones. What a world does by itself is a run under some of them (`exists_fates`).

Two worlds that agree in a namespace (`World.Alike`) may differ in everything else, and so in
DataCenters that have the names, and the pod names, of those of the namespace. Under the same
fates a pass or an advance of the namespace cannot tell them apart, and leaves alone what is
not its own (`isolated`).
-/

namespace RackOperator

open SortedMap (AgreeIn SameOut)

/-- How a store call fares: it is answered, refused, or takes effect and fails. -/
inductive StoreFate where
  | answered
  | refused (err : OperatorError)
  | lost (err : OperatorError)

/-- What is decided about an effect outside of the world. -/
def Effect.Fate : Effect → Type
  | store _ => StoreFate
  | connect _ => Except OperatorError Unit
  | request _ r => Except OperatorError r.Reply
  | requestAll _ r => List (Except OperatorError r.Reply)
  | now => Instant
  | _ => Unit

/-- What is decided about the effects of a run, each by its number. -/
abbrev Fates := ℕ → (e : Effect) → e.Fate

namespace World

/-- Answer an effect whose fate is decided. -/
def answer (w : World) : (e : Effect) → e.Fate → e.Reply × World
  | .store call, .answered =>
    ((w.store.perform call).1, { w with store := (w.store.perform call).2 })
  | .store _, .refused err => (.error err, w)
  | .store call, .lost err => (.error err, { w with store := (w.store.perform call).2 })
  | .connect _, r => (r, w)
  | .request _ _, r => (r, w)
  | .requestAll _ _, rs => (rs, w)
  | .now, t => (t, w)
  | .snapshot ms, _ => w.finish (.snapshot ms)
  | .register key ms, _ => w.finish (.register key ms)
  | .unregister key, _ => w.finish (.unregister key)
  | .sleep ms, _ => w.finish (.sleep ms)
  | .audit about entry, _ => w.finish (.audit about entry)

/-- Two worlds have the same objects, cached statuses and registrations. -/
structure Same (w w' : World) : Prop where
  store : w.store = w'.store
  cache : w.cache = w'.cache
  registry : w.registry = w'.registry

end World

/-- What a run has come to. -/
structure Outcome (α : Type) where
  history : History
  result : Option α
  world : World

/-- Run a program under given fates; a crash has no result. -/
def Program.under {α : Type} (fates : Fates) : Program α → World → Outcome α
  | done a, w => ⟨[], some a, w⟩
  | crash, w => ⟨[], none, w⟩
  | perform e next, w =>
    let a := w.answer e (fates 0 e)
    let o := (next a.1).under (fun n => fates (n + 1)) a.2
    { o with history := ⟨e, a.1⟩ :: o.history }

/-! ## Worlds that decide by themselves -/

namespace World

variable {u w : World}

theorem Same.trans {w' : World} (h : Same u w) (h' : Same w w') : Same u w' :=
  ⟨h.store.trans h'.store, h.cache.trans h'.cache, h.registry.trans h'.registry⟩

/-- An answer depends on nothing else in a world than store, cache, registry, plans and clock, and
worlds that share these share the answer. -/
theorem Same.answer (h : Same u w) (e : Effect) (f : e.Fate) :
    (u.answer e f).1 = (w.answer e f).1 ∧ Same (u.answer e f).2 (w.answer e f).2 := by
  -- Only the store, the cache and the registry are looked at by any answer.
  cases e with
  | store call =>
    have hstore := h.store
    cases f with
    | answered =>
      refine ⟨?_, { h with store := ?_ }⟩
      · show (u.store.perform call).1 = (w.store.perform call).1
        rw [hstore]
      · show (u.store.perform call).2 = (w.store.perform call).2
        rw [hstore]
    | refused err => exact ⟨rfl, h⟩
    | lost err =>
      refine ⟨rfl, { h with store := ?_ }⟩
      show (u.store.perform call).2 = (w.store.perform call).2
      rw [hstore]
  | snapshot ms => exact ⟨congrArg (StatusCache.snapshot · ms) h.cache, h⟩
  | register key ms =>
    exact ⟨rfl, { h with registry := congrArg (SortedMap.insert · key ms) h.registry }⟩
  | unregister key =>
    exact ⟨rfl, { h with registry := congrArg (SortedMap.erase · key) h.registry }⟩
  | audit about entry => exact ⟨rfl, { h with }⟩
  | connect m => exact ⟨rfl, h⟩
  | request m r => exact ⟨rfl, h⟩
  | requestAll ms r => exact ⟨rfl, h⟩
  | sleep ms => exact ⟨rfl, h⟩
  | now => exact ⟨rfl, h⟩

/-- However a world answers, that is one of the fates of an effect. So fates leave no behaviour out.
-/
theorem exists_fate {e : Effect} {r : e.Reply} (h : Answers u e r w) :
    ∃ f : e.Fate, (u.answer e f).1 = r ∧ Same (u.answer e f).2 w := by
  have hcache := h.cache_eq
  -- What the world answered is one of the fates; the clock and the sidecars answer by theirs.
  cases h with
  | performed =>
    cases e with
    | store call =>
      have hregistry : (u.perform (.store call)).2.registry = u.registry :=
        (Answers.performed u _).registry_eq rfl
      rcases Answers.perform_store u call with ⟨hs, err, hr⟩ | ⟨hs, hr⟩
      · exact ⟨.refused err, hr.symm, hs.symm, hcache.symm, hregistry.symm⟩
      · exact ⟨.answered, hr.symm, hs.symm, hcache.symm, hregistry.symm⟩
    | connect m => exact ⟨(u.perform (.connect m)).1, rfl, rfl, rfl, rfl⟩
    | request m q => exact ⟨(u.perform (.request m q)).1, rfl, rfl, rfl, rfl⟩
    | requestAll ms q => exact ⟨(u.perform (.requestAll ms q)).1, rfl, rfl, rfl, rfl⟩
    | now => exact ⟨u.clock, rfl, rfl, rfl, rfl⟩
    | _ => exact ⟨(), rfl, rfl, rfl, rfl⟩
  | acknowledged => exact ⟨.answered, rfl, rfl, rfl, rfl⟩
  | refused _ err => exact ⟨.refused err, rfl, rfl, rfl, rfl⟩
  | unacknowledged _ err => exact ⟨.lost err, rfl, rfl, rfl, rfl⟩
  | connected m r => exact ⟨r, rfl, rfl, rfl, rfl⟩
  | requested m q r => exact ⟨r, rfl, rfl, rfl, rfl⟩
  | requestedAll ms q rs => exact ⟨rs, rfl, rfl, rfl, rfl⟩

end World

/-- What a world does with a program is a run under some fates, the ones that its answers amount to.
-/
theorem Program.exists_fates {α : Type} (p : Program α) {u w : World} (h : World.Same u w) :
    ∃ fates, (p.under fates u).result = (p.run (m := StateM World) World.perform w).1 ∧
      World.Same (p.under fates u).world (p.run (m := StateM World) World.perform w).2 := by
  choose f hf using fun w e => World.exists_fate (.performed w e)
  induction p generalizing u w with
  | done a => exact ⟨fun _ => f w, rfl, h⟩
  | crash => exact ⟨fun _ => f w, rfl, h⟩
  | perform e next ih =>
    obtain ⟨hreply, hsame⟩ := h.answer e (f w e)
    obtain ⟨hreply', hsame'⟩ := hf w e
    obtain ⟨fates, hresult, hend⟩ := ih (w.perform e).1 (hsame.trans hsame')
    -- the first effect fares as in this world, the others as in the one behind it
    refine ⟨fun n => Nat.casesOn n (f w) fates, ?_, ?_⟩
    · show ((next (u.answer e (f w e)).1).under fates _).result = _
      rw [hreply.trans hreply']
      exact hresult
    · show World.Same ((next (u.answer e (f w e)).1).under fates _).world _
      rw [hreply.trans hreply']
      exact hend

/-! ## One effect -/

namespace World

/-- Two worlds agree on everything in a namespace. -/
structure Alike (ns : String) (w w' : World) : Prop where
  store : MemoryStore.Alike ns w.store w'.store
  cache : AgreeIn ns id w.cache w'.cache
  registry : AgreeIn ns id w.registry w'.registry

/-- A world has what another had in all namespaces but one. -/
structure Spares (ns : String) (w w' : World) : Prop where
  store : MemoryStore.Spares ns w.store w'.store
  cache : SameOut ns w.cache w'.cache
  registry : SameOut ns w.registry w'.registry

/-- One effect in two worlds: it is answered alike, leaves alike worlds and journals the same. -/
structure SameStep (ns : String) (e : Effect) (w w' : World) (x x' : e.Reply × World) : Prop where
  answer : e.Alike ns x.1 x'.1
  world : Alike ns x.2 x'.2
  journal : ∃ new, x.2.store.journal = w.store.journal ++ new ∧
    x'.2.store.journal = w'.store.journal ++ new

variable {ns : String} {w w' w'' : World}

theorem Spares.refl (w : World) : Spares ns w w := ⟨.refl _, .refl _, .refl _⟩

theorem Spares.trans (h : Spares ns w w') (h' : Spares ns w' w'') : Spares ns w w'' :=
  ⟨h.store.trans h'.store, h.cache.trans h'.cache, h.registry.trans h'.registry⟩

/-- The statuses of members of a namespace are read there, and are the same in caches that agree on
it. -/
theorem snapshot_eq {c c' : StatusCache} (h : AgreeIn ns id c c') {ms : List Member}
    (hms : ∀ m ∈ ms, m.ns = ns) : c.snapshot ms = c'.snapshot ms := by
  unfold StatusCache.snapshot
  refine congrArg StatusSnapshot.ofList (List.filterMap_congr fun m hm => ?_)
  have hkey : m.key = ⟨ns, m.name⟩ := by rw [← hms m hm]; rfl
  rw [hkey, h.find?_eq]

/-- An effect that leaves stores, caches and registries as they were leaves the worlds alike. -/
theorem Alike.unchanged (h : Alike ns w w') {e : Effect} {r r' : e.Reply}
    (hr : e.Alike ns r r') : SameStep ns e w w' (r, w) (r', w') :=
  ⟨hr, h, [], (List.append_nil _).symm, (List.append_nil _).symm⟩

/-- An effect within the namespace does the same in both worlds under the same fate: its answers are
alike, and so are the worlds after it. -/
theorem sameStep_answer (h : Alike ns w w') (hp : Pass.Placed w) {e : Effect} (he : e.In ns)
    (f : e.Fate) : SameStep ns e w w' (w.answer e f) (w'.answer e f) := by
  cases e with
  | store call =>
    have hcall := MemoryStore.sameStep_perform h.store he fun name dc => hp ⟨ns, name⟩ dc
    cases f with
    | answered => exact ⟨hcall.answer, { h with store := hcall.store }, hcall.journal⟩
    | refused err => exact h.unchanged (.error err)
    | lost err => exact ⟨.error err, { h with store := hcall.store }, hcall.journal⟩
  | snapshot ms => exact h.unchanged (snapshot_eq h.cache he)
  | register key ms =>
    exact ⟨rfl, { h with registry := h.registry.insert key rfl }, [], (List.append_nil _).symm,
      (List.append_nil _).symm⟩
  | unregister key =>
    exact ⟨rfl, { h with registry := h.registry.erase key }, [], (List.append_nil _).symm,
      (List.append_nil _).symm⟩
  | audit about entry =>
    exact ⟨rfl, { h with }, [], (List.append_nil _).symm, (List.append_nil _).symm⟩
  | connect m => exact h.unchanged rfl
  | request m r => exact h.unchanged rfl
  | requestAll ms r => exact h.unchanged rfl
  | sleep ms => exact h.unchanged rfl
  | now => exact h.unchanged rfl

/-- Whatever its fate, it touches nothing of another namespace. An effect that is lost on its way
back has been done all the same, and is no exception. -/
theorem spares_answer (w : World) {e : Effect} (he : e.In ns) (f : e.Fate) :
    Spares ns w (w.answer e f).2 := by
  have hrefl : Spares ns w w := .refl w
  cases e with
  | store call =>
    have hcall := MemoryStore.spares_perform w.store he
    cases f with
    | answered => exact { hrefl with store := hcall }
    | refused err => exact hrefl
    | lost err => exact { hrefl with store := hcall }
  | register key ms =>
    obtain ⟨rfl, -⟩ := he
    exact { hrefl with registry := .insert _ _ _ }
  | unregister key =>
    cases he
    exact { hrefl with registry := .erase _ _ }
  | audit about entry => exact { hrefl with }
  | _ => exact hrefl

theorem placed_answer (hp : Pass.Placed w) (e : Effect) (f : e.Fate) :
    Pass.Placed (w.answer e f).2 := by
  have hcall : ∀ call, Pass.Placed { w with store := (w.store.perform call).2 } := by
    intro call k dc hdc
    obtain ⟨dc₀, hdc₀, he⟩ := MemoryStore.find?_of_dataCenters_perform hdc
    rw [he]
    exact hp k dc₀ hdc₀
  cases e with
  | store call =>
    cases f with
    | answered => exact hcall call
    | refused err => exact hp
    | lost err => exact hcall call
  | _ => exact hp

end World

/-! ## A whole run -/

/-- Two effects that were done are the same one of the namespace, and were answered alike. -/
inductive Answered.Alike (ns : String) : Answered → Answered → Prop
  | mk {e : Effect} {r r' : e.Reply} (he : e.In ns) (hr : e.Alike ns r r') : Alike ns ⟨e, r⟩ ⟨e, r'⟩

/-- Two runs of a namespace that went the same way. -/
structure Outcome.Alike {α : Type} (ns : String) (w w' : World) (o o' : Outcome α) : Prop where
  history : List.Forall₂ (Answered.Alike ns) o.history o'.history
  result : o.result = o'.result
  journal : ∃ new, o.world.store.journal = w.store.journal ++ new ∧
    o'.world.store.journal = w'.store.journal ++ new
  world : World.Alike ns o.world o'.world
  spares : World.Spares ns w o.world
  spares' : World.Spares ns w' o'.world

/-- Tied programs go the same way in worlds that agree, under the same fates. The induction is on
the program, with the worlds alike at each effect. -/
theorem Program.Tied.under {α : Type} {ns : String} {p p' : Program α} (ht : Tied ns Eq p p')
    {w w' : World} (hw : World.Alike ns w w') (hp : Pass.Placed w) (fates : Fates) :
    Outcome.Alike ns w w' (p.under fates w) (p'.under fates w') := by
  -- On the programs in step. What comes behind an effect is a run under the fates that are left.
  induction ht generalizing w w' fates with
  | done h =>
    exact ⟨.nil, congrArg some h, ⟨[], (List.append_nil _).symm, (List.append_nil _).symm⟩, hw,
      .refl _, .refl _⟩
  | crash =>
    exact ⟨.nil, rfl, ⟨[], (List.append_nil _).symm, (List.append_nil _).symm⟩, hw, .refl _,
      .refl _⟩
  | @perform e next next' he _ ih =>
    have hs := World.sameStep_answer hw hp he (fates 0 e)
    have ho := ih _ _ hs.answer hs.world (World.placed_answer hp e _) fun n => fates (n + 1)
    obtain ⟨new, hj, hj'⟩ := hs.journal
    obtain ⟨more, hm, hm'⟩ := ho.journal
    exact {
      history := .cons ⟨he, hs.answer⟩ ho.history
      result := ho.result
      journal := by
        refine ⟨new ++ more, ?_, ?_⟩
        · rw [← List.append_assoc, ← hj]
          exact hm
        · rw [← List.append_assoc, ← hj']
          exact hm'
      world := ho.world
      spares := (World.spares_answer w he _).trans ho.spares
      spares' := (World.spares_answer w' he _).trans ho.spares' }

namespace History

variable {ns : String} {h h' : History}

/-- Histories that are alike have the same effects, in the same order. -/
theorem effects_eq (hh : List.Forall₂ (Answered.Alike ns) h h') :
    h.map (·.effect) = h'.map (·.effect) := by
  induction hh with
  | nil => rfl
  | cons ha _ ih =>
    cases ha
    exact congrArg (_ :: ·) ih

theorem within (hh : List.Forall₂ (Answered.Alike ns) h h') : ∀ a ∈ h, a.effect.In ns := by
  induction hh with
  | nil => exact fun a ha => absurd ha List.not_mem_nil
  | cons ha _ ih =>
    cases ha with
    | mk he hr => exact List.forall_mem_cons.mpr ⟨he, ih⟩

/-- Two histories that are alike split alike, so a part of one can be looked for in the other. -/
theorem split_alike {l l₂ : History} (hh : List.Forall₂ (Answered.Alike ns) (l ++ l₂) h') :
    ∃ l' l₂', h' = l' ++ l₂' ∧ List.Forall₂ (Answered.Alike ns) l l' ∧
      List.Forall₂ (Answered.Alike ns) l₂ l₂' := by
  refine ⟨h'.take l.length, h'.drop l.length, (List.take_append_drop _ _).symm, ?_, ?_⟩
  · have ht := List.forall₂_take l.length hh
    rwa [List.take_left] at ht
  · have hd := List.forall₂_drop l.length hh
    rwa [List.drop_left] at hd

/-- What can be answered in one way only was answered so in both. -/
theorem eq_of_alike (hh : List.Forall₂ (Answered.Alike ns) h h')
    (hp : ∀ a ∈ h, ∀ r, a.effect.Alike ns a.reply r → a.reply = r) : h' = h := by
  induction hh with
  | nil => rfl
  | cons ha _ ih =>
    rw [List.forall_mem_cons] at hp
    rw [ih hp.2]
    cases ha with
    | @mk e r r' _ hr =>
      have hreply : r = r' := hp.1 r' hr
      rw [hreply]

end History

/-! ## The decision of a pass -/

namespace Pass

/-- A pass with this history has come to a decision. -/
def Decides (key : ClusterKey) (h : History) (d : Decision) : Prop :=
  ∃ v : Survey, v.Whole ∧ v.history key <+: h ∧ v.decision = d

variable {key : ClusterKey} {ns : String} {v : Survey} {h h' : History}

/-- Versions of the StatefulSets that were found do not matter to a survey: with the others found it
is as whole as before, has the same members and comes to the same decision. -/
theorem Survey.of_unversioned_eq {found : List (Rack × StatefulSet)}
    (hf : unversioned v.found = unversioned found) (hv : v.Whole) :
    ({ v with found } : Survey).Whole ∧ ({ v with found } : Survey).members = v.members ∧
      ({ v with found } : Survey).decision = v.decision := by
  have hcounts : ({ v with found } : Survey).counts = v.counts := by
    unfold Survey.counts
    rw [← counts_unversioned, ← hf, counts_unversioned]
  have hracks : ∀ l : List (Rack × StatefulSet), (unversioned l).map (·.1) = l.map (·.1) := by
    intro l
    unfold unversioned
    rw [List.map_map]
    rfl
  -- The decision is read off views, which are the same once the versions are left out.
  have hdecision : ∀ found : List (Rack × StatefulSet), ({ v with found } : Survey).decision =
      ({ v with found := unversioned found } : Survey).decision := by
    intro found
    unfold Survey.decision Survey.observation Survey.groups
    dsimp only
    rw [groups_unversioned, Observation.ofGroups_unversioned, Decision.decide_unversioned]
    rfl
  refine ⟨⟨?_, ?_⟩, ?_, ?_⟩
  · show found.map (·.1) = v.dc.racks
    rw [← hracks, ← hf, hracks]
    exact hv.racks
  · show Layout.planned? (SortedMap.ofList _) _ = _
    rw [hcounts]
    exact hv.plan
  · rw [Survey.members_eq, Survey.members_eq, hcounts]
  · rw [hdecision found, ← hf]
    exact (hdecision v.found).symm

/-- What is found of the racks in one of two histories is found in the other, up to versions, since
the answers to the look-ups are alike one by one. -/
theorem exists_found {naming : Naming} {found : List (Rack × StatefulSet)}
    (hh : List.Forall₂ (Answered.Alike ns)
      (found.map fun p => lookUp key naming (p.1, some p.2)) h) :
    ∃ found', h = found'.map (fun p => lookUp key naming (p.1, some p.2)) ∧
      unversioned found = unversioned found' := by
  -- The look-ups are paired one by one, and a StatefulSet found is found in both runs.
  induction found generalizing h with
  | nil =>
    cases hh
    exact ⟨[], rfl, rfl⟩
  | cons p rest ih =>
    obtain ⟨a, h, ha, hrest, rfl⟩ := List.forall₂_cons_left_iff.mp hh
    obtain ⟨found', rfl, hf⟩ := ih hrest
    cases ha with
    | mk _ hr =>
      cases hr with
      | @ok _ b hr =>
        change Option.map StatefulSet.unversioned (some p.2) =
          Option.map StatefulSet.unversioned b at hr
        obtain ⟨sts, rfl, hs⟩ := Option.map_eq_some_iff.mp hr.symm
        exact ⟨(p.1, sts) :: found', rfl,
          congrArg₂ (fun (s : StatefulSet) l => (p.1, s) :: l) hs.symm hf⟩

/-- What comes before a decision in one of two histories comes before it in the other, and the
survey made of it comes to the same decision. -/
theorem exists_survey (hv : v.Whole) (hh : List.Forall₂ (Answered.Alike ns) (v.history key) h) :
    ∃ v' : Survey, v'.Whole ∧ v'.history key = h ∧ v'.decision = v.decision := by
  obtain ⟨reads, behind, rfl, hreads, hbehind⟩ := History.split_alike hh
  obtain ⟨opened, looked, rfl, hopened, hlooked⟩ := History.split_alike hreads
  obtain ⟨found, rfl, hf⟩ := exists_found hlooked
  obtain ⟨hwhole, hmembers, hdecision⟩ := Survey.of_unversioned_eq hf hv
  have ho : opened = opening key v.dc := by
    refine History.eq_of_alike hopened (List.forall_mem_cons.mpr ⟨fun r hr => ?_,
      List.forall_mem_singleton.mpr fun r hr => ?_⟩)
    · cases hr with
      | ok hr => exact congrArg Except.ok hr.1
    · cases hr with
      | ok hr => exact congrArg Except.ok hr
  have hb : behind = [⟨.register key v.members, ()⟩, ⟨.snapshot v.members, v.statuses⟩] :=
    History.eq_of_alike hbehind (List.forall_mem_cons.mpr ⟨fun r hr => hr,
      List.forall_mem_singleton.mpr fun r hr => hr⟩)
  refine ⟨{ v with found }, hwhole, ?_, hdecision⟩
  unfold Survey.history Survey.reads
  rw [ho, hb, hmembers]

/-- Histories that are alike come to the same decision, if they come to one. -/
theorem Decides.of_alike {d : Decision} (hd : Decides key h d)
    (hh : List.Forall₂ (Answered.Alike ns) h h') : Decides key h' d := by
  obtain ⟨v, hv, ⟨rest, rfl⟩, rfl⟩ := hd
  obtain ⟨l, l', rfl, hl, -⟩ := History.split_alike hh
  obtain ⟨v', hv', rfl, hd⟩ := exists_survey hv hl
  exact ⟨v', hv', List.prefix_append _ _, hd⟩

theorem decides_iff (hh : List.Forall₂ (Answered.Alike ns) h h') (d : Decision) :
    Decides key h d ↔ Decides key h' d := by
  have hback : List.Forall₂ (Answered.Alike ns) h' h :=
    List.Forall₂.flip (hh.imp fun a a' ha => by
      cases ha with
      | mk he hr => exact ⟨he, hr.symm⟩)
  exact ⟨fun hd => hd.of_alike hh, fun hd => hd.of_alike hback⟩

/-- A pass comes to one decision only, as a history opens with one survey at most. -/
theorem Decides.unique {d d' : Decision} (hd : Decides key h d) (hd' : Decides key h d') :
    d = d' := by
  obtain ⟨v, hv, hp, rfl⟩ := hd
  obtain ⟨v', hv', hp', rfl⟩ := hd'
  rw [Survey.eq_of_history hv hv' hp hp']

end Pass

/-! ## Isolation -/

/-- Two runs for an object that its namespace cannot tell apart, and that keep to it. -/
structure Isolated (key : NamespacedName) (w w' : World)
    (o o' : Outcome (Except OperatorError Action)) : Prop where
  /-- They do the same, and make the same sidecar calls in doing so. -/
  effects : o.history.map (·.effect) = o'.history.map (·.effect)
  /-- It is all about objects, members and registrations of the namespace. -/
  within : ∀ a ∈ o.history, a.effect.In key.ns
  /-- They come to the same decision, if to any. -/
  decision : ∀ d, Pass.Decides key o.history d ↔ Pass.Decides key o'.history d
  /-- They return the same. -/
  result : o.result = o'.result
  /-- They record the same mutations. -/
  mutations : ∃ new, o.world.store.journal = w.store.journal ++ new ∧
    o'.world.store.journal = w'.store.journal ++ new
  /-- The worlds they leave agree in the namespace as those before did. -/
  world : World.Alike key.ns o.world o'.world
  /-- All else is as it was. -/
  spares : World.Spares key.ns w o.world
  spares' : World.Spares key.ns w' o'.world

/-- **Namespace isolation.** In two worlds that agree on everything in a namespace, and under the
same fates, a pass over a DataCenter of the namespace, or an advance of a task of it, cannot be told
apart; and it leaves alone whatever is of another namespace. -/
theorem isolated (config : Config) (key : NamespacedName)
    {p : Program (Except OperatorError Action)}
    (hp : p = (Pass.run config key).run ∨ p = (Advance.run config key).run) {w w' : World}
    (hw : World.Alike key.ns w w') (hplaced : Pass.Placed w) (fates : Fates) :
    Isolated key w w' (p.under fates w) (p.under fates w') := by
  have ht : Program.Tied key.ns (EndsAlike Eq) p p := by
    rcases hp with rfl | rfl
    · exact Pass.tied_run config key
    · exact Advance.tied_run config key
  have ho := (ht.mono fun _ _ h => h.eq).under hw hplaced fates
  exact {
    effects := History.effects_eq ho.history
    within := History.within ho.history
    decision := Pass.decides_iff ho.history
    result := ho.result
    mutations := ho.journal
    world := ho.world
    spares := ho.spares
    spares' := ho.spares' }

/-! ## Two neighbours of one name -/

open Pass

/-- DataCenters are put in where they belong, so worlds made by seeding are well placed. -/
theorem Pass.placed_seedDataCenter {w : World} (hp : Placed w) (dc : DataCenter) :
    Placed { w with store := w.store.seedDataCenter dc } := by
  intro k dc' hdc
  have hfind : (w.store.dataCenters.insert dc.metadata.key dc).find? k = some dc' := hdc
  rw [SortedMap.find?_insert] at hfind
  split at hfind
  next hk =>
    cases hfind
    rw [← hk]
    rfl
  next => exact hp k dc' hfind

/-- No store call fails, and the sidecars and the clock are those of a world. -/
def World.unhindered (w : World) : Fates
  | _, .store _ => .answered
  | _, .connect m => (w.perform (.connect m)).1
  | _, .request m r => (w.perform (.request m r)).1
  | _, .requestAll ms r => (w.perform (.requestAll ms r)).1
  | _, .now => w.clock
  | _, .snapshot _ => ()
  | _, .register _ _ => ()
  | _, .unregister _ => ()
  | _, .sleep _ => ()
  | _, .audit _ _ => ()

/-- The small DataCenter is to lose its one member. -/
def alone : World := (smallWatch 0 1 (SortedMap.insert {} (podKey smallRack 0) .normal)).scene.world

/-- A DataCenter of another namespace that has the same names. -/
def neighbour : DataCenter where
  metadata := { name := some "d", ns := some "m", generation := some 7 }
  spec := { clusterName := "c", datacenterName := "d", replicas := 3, racks := 1 }

/-- Its member of the same name has left the ring. -/
def crowded : World :=
  let store := alone.store.seedDataCenter neighbour
  { store := { store with
      statefulSets := store.statefulSets.insert ⟨"m", "c-d-rack1"⟩
        (Fixture.readyStatefulSet neighbour (.new 0) 3)
      lastVersion := 41 }
    cache := alone.cache.insert ⟨"m", "c-d-rack1-0"⟩ .decommissioned
    registry := alone.registry.insert neighbour.key (neighbour.naming.members (.new 0) 3) }

theorem alike_crowded : World.Alike "n" alone crowded where
  store := {
    statefulSets := (AgreeIn.refl _).insert_right (by decide) _
    services := .refl _
    dataCenters := (AgreeIn.refl _).insert_right (by decide) _
    tasks := .refl _
    refused := rfl }
  cache := (AgreeIn.refl _).insert_right (by decide) _
  registry := (AgreeIn.refl _).insert_right (by decide) _

theorem placed_alone : Placed alone := placed_smallWatch _ _ _

theorem placed_crowded : Placed crowded := placed_seedDataCenter placed_alone neighbour

/-- The member is asked to leave in both worlds, whatever became of its namesake in the other
namespace, which is cached as DECOMMISSIONED. -/
theorem neighbours_isolated : ∃ (w w' : World) (m : Member) (fates : Fates),
    World.Alike "n" w w' ∧ Placed w ∧ Placed w' ∧
      w'.cache.find? ⟨"m", m.name⟩ = some .decommissioned ∧
      Isolated ⟨"n", "d"⟩ w w' ((Pass.run {} ⟨"n", "d"⟩).run.under fates w)
        ((Pass.run {} ⟨"n", "d"⟩).run.under fates w') ∧
      ((Pass.run {} ⟨"n", "d"⟩).run.under fates w).history.filterMap Answered.leaver? = [m] := by
  refine ⟨alone, crowded, smallMember, alone.unhindered, alike_crowded, placed_alone,
    placed_crowded, by decide +kernel, ?_, by decide +kernel⟩
  exact isolated {} ⟨"n", "d"⟩ (.inl rfl) alike_crowded placed_alone alone.unhindered

end RackOperator
