import RackOperator.Proofs.Pass.Polls

/-!
# Asking a member to leave again

A pass that shrinks a rack asks its last member to leave while that member is NORMAL. That
it was asked is not remembered anywhere: the only trace is the member's own status, once a
poll round has noted it. Until then, or when a round notes NORMAL again, the next pass asks
once more (`asked_again`).

`asked_again_while_normal` says that this is all. After a request that was granted, another
one is made only by a pass that began later, and that very pass copied the statuses when
NORMAL was cached (`Copies`), because no round had noted the member's status in between or
the last one to do so noted NORMAL. In particular a pass that copies the statuses once a
round has noted the member to be leaving does not ask it again. Within one pass nothing is
asked behind a request that was granted: attempts end with the first success (`Attempts`).
-/

namespace RackOperator

/-- The member an effect asks to leave. -/
def Effect.leaver? : Effect → Option Member
  | .request m .decommission => some m
  | _ => none

theorem Effect.eq_of_leaver? {e : Effect} {m : Member} (h : e.leaver? = some m) :
    e = .request m .decommission := by
  unfold Effect.leaver? at h
  split at h
  · cases h
    rfl
  · cases h

/-- The member that was asked to leave, with success. -/
def Answered.leaver? : Answered → Option Member
  | ⟨.request m .decommission, reply⟩ =>
    match (reply : Except OperatorError Unit) with
    | .ok _ => some m
    | .error _ => none
  | _ => none

/-- A member was asked to leave, with success. -/
def leave (m : Member) : Answered :=
  ⟨.request m .decommission, (.ok () : Except OperatorError Unit)⟩

/-- A member has agreed to leave just if that request was answered with success. -/
theorem Answered.eq_of_leaver? {a : Answered} {m : Member} (h : a.leaver? = some m) :
    a = leave m := by
  unfold Answered.leaver? at h
  split at h
  next m' reply =>
    cases reply with
    | ok u =>
      cases h
      rfl
    | error e => cases h
  next => cases h

namespace Pass

/-- The pass under way is about to ask a member to leave. -/
def Watch.Asks (x : Watch) (m : Member) : Prop :=
  ∃ key u, x.scene.pass = some (key, u) ∧ u.next? = some (.request m .decommission)

/-- The pass under way asks a member to leave, with success. -/
def Watch.Granted (x x' : Watch) (m : Member) : Prop :=
  x.Asks m ∧ ∃ key u u', x.scene.pass = some (key, u) ∧ x'.scene.pass = some (key, u') ∧
    u'.history = u.history ++ [leave m]

variable {config : Config} {key : ClusterKey} {m m' : Member}

/-- Who is to be decommissioned is a member that a survey found NORMAL. -/
theorem Survey.normal_of_decommission {v : Survey} {r : Rack} (h : v.decision = .decommission r m) :
    m.ns = v.dc.naming.ns ∧ v.statuses.statusOf m.name = .normal := by
  cases chosen_of_decommission h with
  | decommission hr hg hm ho hs =>
    refine ⟨?_, hs⟩
    unfold Observation.membersOf at hm
    cases hx : v.observation.find? r with
    | none =>
      rw [hx] at hm
      cases hm
    | some x =>
      rw [hx] at hm
      obtain ⟨p, -, rfl⟩ := mem_racks.mp (Observation.find?_eq_some hx).1
      obtain ⟨o, -, rfl⟩ := Naming.mem_members.mp hm
      rfl

/-- Nothing is asked of sidecars before a decision. -/
theorem not_sidecar_history (v : Survey) : ∀ a ∈ v.history key, a.effect.isSidecar = false :=
  Survey.forall_mem_history (Survey.forall_mem_reads rfl rfl fun _ _ => rfl) rfl rfl

/-- Nothing has been granted in front of a request, since the attempts end at the first success. -/
theorem not_granted {v : Survey} {tries : History} (ht : Attempts config m tries) (m' : Member) :
    leave m' ∉ v.history key ++ ⟨.connect m, (.ok () : Except OperatorError Unit)⟩ :: tries := by
  intro hmem
  rcases List.mem_append.mp hmem with hmem | hmem
  · cases not_sidecar_history v _ hmem
  · rcases List.mem_cons.mp hmem with he | hmem
    · cases he
    · -- what was tried before has failed, or was a wait
      rcases ht _ hmem with ⟨err, he⟩ | he
      · cases he
      · cases he

/-- **Asking again.** After a member was asked to leave with success, it is asked again only by a
pass that began later and itself copied the statuses when NORMAL was cached for the member. At that
time no round had noted its status since, or the last one to do so noted NORMAL. -/
theorem asked_again_while_normal {s : ℕ → Watch} (hc : Chronicle config s) {i j : ℕ} (hij : i < j)
    (hkey : m'.key = m.key) (hok : (s i).Granted (s (i + 1)) m) (hagain : (s j).Asks m') :
    ∃ key ms b a, i < b ∧ Copies s key b a j ms ∧ m.key ∈ ms.map (·.key) ∧
      (s a).cache.find? m.key = some .normal ∧
      ((∀ c, i < c → c < a → ∀ status, ¬(s c).Notes (s (c + 1)) m.key status) ∨
        ∃ c, i < c ∧ c < a ∧ (s c).Notes (s (c + 1)) m.key .normal ∧
          ∀ d, c < d → d < a → ∀ status, ¬(s d).Notes (s (d + 1)) m.key status) := by
  obtain ⟨key, u, hpass, hnext⟩ := hagain
  obtain ⟨next, hu⟩ := Underway.exists_perform hnext
  rw [hu] at hpass
  -- a request is due only behind a survey that found the member NORMAL
  have hdue : Due config key u.history (.request m' .decommission) := (hc.sound j _ _ hpass).1.1
  generalize u.history = h at hdue hpass
  cases hdue with
  | request v hv r m' hd tries ht =>
    obtain ⟨hns, hnormal⟩ := Survey.normal_of_decommission hd
    obtain ⟨-, key₀, u₀, u₁, -, hu₁, hgranted⟩ := hok
    -- the pass that asks again is a later one: no request was granted to it
    obtain ⟨b, a, hib, hcopies, hlisted, hcached⟩ :=
      hc.cached_of_surveyed (Nat.succ_le_of_lt hij) hpass (fun u hu hpre => by
        cases hu₁.symm.trans hu
        refine not_granted ht m (hpre.subset ?_)
        rw [hgranted]
        exact List.mem_append_right _ List.mem_cons_self) hnormal nofun
    have hpod : (⟨key.ns, m'.name⟩ : MemberKey) = m.key := by
      rw [← hkey, ← hc.surveyed_placed hpass, ← hns]
      rfl
    rw [hpod] at hlisted hcached
    have hia : i + 1 ≤ a := Nat.le_trans (Nat.le_of_lt hib) hcopies.since
    exact ⟨key, v.members, b, a, Nat.lt_of_succ_lt hib, hcopies, hlisted, hcached,
      (hc.cached_cases hia hcached).imp And.right id⟩

/-! ## Two runs -/

/-- The last member of the small rack. -/
def smallMember : Member := (small 1 0 1).naming.member (.new 0) 0

/-- What a pass under way is about to do, and what it did last, about members that leave. Runs of
cues are looked at in this way. -/
theorem granted_of_history {x x' : Watch} (h : Beat config x x') {n : ℕ}
    (hx : x.scene.pass.map (fun p => p.2.history.length) = some n)
    (hx' : x'.scene.pass.map (fun p => (p.2.history.length,
      p.2.history.getLast?.bind Answered.leaver?)) = some (n + 1, some m)) : x.Granted x' m := by
  obtain ⟨⟨key, u'⟩, hpass', hu'⟩ := Option.map_eq_some_iff.mp hx'
  obtain ⟨⟨key₀, u⟩, hpass, hu⟩ := Option.map_eq_some_iff.mp hx
  simp only [Prod.mk.injEq] at hu'
  obtain ⟨hlen', hlast⟩ := hu'
  rcases h.pass_cases hpass' with hsame | hnew | ⟨h', e, next, r, hold, ha, rfl⟩
  · cases hpass.symm.trans hsame
    dsimp only at hu
    omega
  · rw [hnew] at hlen'
    cases hlen'
  · rw [List.getLast?_concat] at hlast
    have hleave := Answered.eq_of_leaver? hlast
    refine ⟨⟨key, _, hold, ?_⟩, key, _, _, hold, hpass', ?_⟩
    · exact congrArg (fun a => some a.effect) hleave
    · exact congrArg (fun a => h' ++ [a]) hleave

theorem asks_of_next {x : Watch}
    (h : x.scene.pass.bind (fun p => p.2.next?.bind Effect.leaver?) = some m) : x.Asks m := by
  obtain ⟨⟨key, u⟩, hpass, hu⟩ := Option.bind_eq_some_iff.mp h
  obtain ⟨e, he, hm⟩ := Option.bind_eq_some_iff.mp hu
  exact ⟨key, u, hpass, Effect.eq_of_leaver? hm ▸ he⟩

/-- Two passes, with no poll round between them. -/
def impatient : List Cue := passOf 9 ++ passOf 9

/-- **Asking too soon.** A member that was asked to leave with success may be asked again while it
is still there. -/
theorem asked_again : ¬∀ config s (i j o : ℕ) k m, Chronicle config s → i < j →
    m.key = podKey k o → (s i).Granted (s (i + 1)) m → (s j).Asks m →
      ∃ c, i < c ∧ c ≤ j ∧ (s c).count k ≤ o := by
  intro hall
  let x := smallWatch 0 1 (SortedMap.insert {} (podKey smallRack 0) .normal)
  let s : ℕ → Watch := played {} x impatient
  have hc : Chronicle {} s := chronicle_played {} rfl (placed_smallWatch _ _ _) impatient
  have hok : (s 7).Granted (s 8) smallMember :=
    granted_of_history (n := 6) (hc.beat 7) (by decide +kernel) (by decide +kernel)
  have hagain : (s 18).Asks smallMember := asks_of_next (by decide +kernel)
  have hthere : ∀ c < 19, (0 : ℕ) < (s c).count smallRack := by decide +kernel
  have hkey : smallMember.key = podKey smallRack 0 := by decide +kernel
  obtain ⟨c, -, hcj, hcount⟩ := hall {} s 7 18 0 smallRack smallMember hc (by omega) hkey hok hagain
  exact absurd (hthere c (by omega)) (by omega)

/-- Two passes, and between them a round to which the member says that it is NORMAL. -/
def unmoved : List Cue := passOf 9 ++ [.opens, .notes .normal, .ends] ++ passOf 9

/-- The second pass, which has begun after the first request and has copied that NORMAL, asks once
more. -/
theorem asked_again_after_round : ∃ config s i j m m', Chronicle config s ∧ i < j ∧
    m'.key = m.key ∧ (s i).Granted (s (i + 1)) m ∧ (s j).Asks m' ∧
      ∃ key ms b a, i < b ∧ Copies s key b a j ms ∧ m.key ∈ ms.map (·.key) ∧
        (s a).cache.find? m.key = some .normal := by
  let x := smallWatch 0 1 (SortedMap.insert {} (podKey smallRack 0) .normal)
  let s : ℕ → Watch := played {} x unmoved
  have hc : Chronicle {} s := chronicle_played {} rfl (placed_smallWatch _ _ _) unmoved
  have hok : (s 7).Granted (s 8) smallMember :=
    granted_of_history (n := 6) (hc.beat 7) (by decide +kernel) (by decide +kernel)
  have hagain : (s 21).Asks smallMember := asks_of_next (by decide +kernel)
  obtain ⟨key, ms, b, a, hib, hcopies, hlisted, hnormal, -⟩ :=
    asked_again_while_normal hc (by omega) rfl hok hagain
  exact ⟨{}, s, 7, 21, smallMember, smallMember, hc, by omega, rfl, hok, hagain,
    key, ms, b, a, hib, hcopies, hlisted, hnormal⟩

end Pass

end RackOperator
