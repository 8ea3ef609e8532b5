import RackOperator.Proofs.Pass.Polls

/-!
# Whether the status that shrinks a rack is fresh

Pod names come back: a rack that shrinks and grows again has a pod of the same name. A pass
takes the last pod away once the status cached under its name is DECOMMISSIONED, and a cache
entry outlives its pod: passes do not touch the cache, and a poll round drops what is not
registered only when it is opened. So a rack can be shrunk on the status of a pod that has
been gone for long (`shrunk_on_stale_status`).

`shrunk_on_fresh_status` says that nothing else is wrong. If, when the rack grows, there is
no such entry for the new pod and no round is about to make one (`Watch.Forgets`), then the
pod is taken away only after a round that was opened after the growth noted it to be
DECOMMISSIONED. One round opened between the two pods is enough for that
(`forgets_of_round`).

The proof follows the status back: from the survey of the pass that shrinks to the copy it
took (`Chronicle.copied`), from the copy to the round that noted it
(`Chronicle.cached_cases`), and from there to the time that round was opened
(`Chronicle.opened_of_listed`).
-/

namespace RackOperator.Pass

/-- A member is not cached as DECOMMISSIONED, and the round under way will note nothing of it. -/
structure Watch.Forgets (x : Watch) (member : MemberKey) : Prop where
  cached : x.cache.find? member ≠ some .decommissioned
  listed : ∀ l, x.round = some l → ∀ p ∈ l, p.2.key ≠ member

variable {config : Config} {x x' : Watch} {k : NamespacedName} {key : ClusterKey}
  {member : MemberKey} {o : ℕ}

/-! ## Counts that change -/

theorem count_of_edited {w w' : World} (h : Edited w w') (k : NamespacedName) :
    ((w'.store.statefulSets.find? k).map (·.replicas)).getD 0 =
      ((w.store.statefulSets.find? k).map (·.replicas)).getD 0 := by
  have hview : ∀ found : Option StatefulSet,
      found.map (·.replicas) = (found.map StatefulSet.shape).map (·.replicas) := by
    intro found
    cases found with
    | none => rfl
    | some sts => rfl
  rw [hview (w'.store.statefulSets.find? k), h k, ← hview]

/-- A count changes only when a pass writes a StatefulSet; the poller is idle meanwhile. -/
theorem Beat.count_cases (h : Beat config x x') (k : NamespacedName) :
    x'.count k = x.count k ∨
      (∃ key u, x'.scene.pass = some (key, u) ∧ ∃ a ∈ u.history, a.effect.statefulSet? ≠ none) ∧
        x'.cache = x.cache ∧ x'.round = x.round := by
  cases h with
  | move hm =>
    cases hm with
    | begin w key => exact .inl rfl
    | leave w p => exact .inl rfl
    | @act w w' key u u' hact =>
      cases hact with
      | @act _ _ h e next r ha =>
        -- An effect on no StatefulSet leaves every count; the others are in the pass's history.
        by_cases he : e.statefulSet? = none
        · refine .inl ?_
          show ((w'.store.statefulSets.find? k).map _).getD 0 = _
          rw [ha.statefulSets_eq he]
          rfl
        · exact .inr ⟨⟨key, _, rfl, _, List.mem_append_right _ List.mem_cons_self, he⟩,
            ha.cache_eq, rfl⟩
  | edit he => exact .inl (count_of_edited he k)
  | opens w pass => exact .inl rfl
  | notes w pass key m rest status => exact .inl rfl
  | ends s rest => exact .inl rfl

/-- A pass that lowers a count has read the pod it takes away to be DECOMMISSIONED. The reading is
in the snapshot of its own survey, so it is as old as that and no older. -/
theorem lowered_cases (hi : Sound config StatefulSet.shape x.scene) (h : Beat config x x')
    (hbefore : o < x.count k) (hafter : x'.count k ≤ o) : ∃ key v rest,
      x.scene.pass = some (key, ⟨Survey.history v key, rest⟩) ∧ k.ns = key.ns ∧
        v.statuses.statusOf (podKey k o).name = .decommissioned := by
  -- the StatefulSet is there before and after
  obtain ⟨old, hold⟩ : ∃ old, x.scene.stored k = some old := by
    cases hs : x.scene.stored k with
    | some old => exact ⟨old, rfl⟩
    | none =>
      unfold Watch.count at hbefore
      rw [hs] at hbefore
      exact absurd hbefore (by simp)
  have hcount : x.count k = old.replicas := by
    unfold Watch.count
    rw [hold]
    rfl
  have hedit : Edited x.scene.world x'.scene.world → x'.count k = x.count k :=
    fun he => count_of_edited he k
  cases h with
  | @move s s' round hm =>
    obtain ⟨new, hnew, -⟩ := status_move hi hm hold
    have hcount' : (⟨s', round⟩ : Watch).count k = new.replicas := by
      unfold Watch.count
      rw [hnew]
      rfl
    rw [hcount] at hbefore
    rw [hcount'] at hafter
    -- of the writes a pass may do only the last one lowers a count
    cases touches_of_move hi hm hold hnew with
    | spares he =>
      rw [he] at hafter
      omega
    | @replaces key v p _ sts _ next hpass hv hw hk hp hread hallows hn hstatus =>
      have hrep : old.replicas = p.2.replicas := StatefulSet.replicas_of_shape hread
      rcases hallows with hr | hr | ⟨hr, -, hleft⟩
      · omega
      · omega
      · rw [show p.2.replicas - 1 = (o : ℤ) by omega] at hleft
        refine ⟨key, v, _, hpass, ?_, ?_⟩
        · rw [hk]
        · rw [hk]
          exact hleft
  | edit he => exact absurd (hedit he) (by omega)
  | opens => exact absurd (hedit (edited_of_store rfl)) (by omega)
  | notes => exact absurd (hedit (edited_of_store rfl)) (by omega)
  | ends => exact absurd (hedit (edited_of_store rfl)) (by omega)

/-! ## From the pass back to the round -/

/-- **Shrinking on a fresh status.** Where the pod that a rack is grown by is not cached as
DECOMMISSIONED, nor listed by a round under way, the rack is shrunk by it only after a round
opened since the growth has noted that it is DECOMMISSIONED. -/
theorem shrunk_on_fresh_status {s : ℕ → Watch} (hc : Chronicle config s) {i j : ℕ} (hij : i < j)
    (hsmall : (s i).count k ≤ o) (hgrown : o < (s (i + 1)).count k)
    (hforgets : (s i).Forgets (podKey k o))
    (hbefore : o < (s j).count k) (hafter : (s (j + 1)).count k ≤ o) :
    ∃ a b, i < a ∧ a < b ∧ b < j ∧ (s a).Opens (s (a + 1)) ∧
      (∀ c, a < c → c ≤ b → (s c).round.isSome = true) ∧
        (s b).Notes (s (b + 1)) (podKey k o) .decommissioned := by
  obtain ⟨key, v, rest, hpass, hns, hpod⟩ := lowered_cases (hc.sound j) (hc.beat j) hbefore hafter
  rcases (hc.beat i).count_cases k with hsame | ⟨⟨key₀, u₀, hu₀, a₀, ha₀, hwrote⟩, hcache, hround⟩
  · omega
  -- the pass that shrinks has begun since the growth: it has written nothing yet
  rw [← List.append_nil (v.history key)] at hpass
  obtain ⟨b, a, hib, hcopies, -, hcached⟩ := hc.cached_of_surveyed (Nat.succ_le_of_lt hij) hpass
    (fun u hu hpre => by
      cases hu₀.symm.trans hu
      rw [List.append_nil] at hpre
      obtain ⟨x, hx⟩ := Option.ne_none_iff_exists'.mp hwrote
      exact spares_history v a₀ (hpre.subset ha₀) x hx rfl) hpod nofun
  rw [← hns] at hcached
  have haj := hcopies.before
  have hia : i + 1 ≤ a := Nat.le_trans (Nat.le_of_lt hib) hcopies.since
  rcases hc.cached_cases hia hcached with ⟨hfirst, -⟩ | ⟨b, hib, hba, hnotes, -⟩
  · -- the entry would be older than the pod
    rw [hcache] at hfirst
    exact absurd hfirst hforgets.cached
  · have hlisted := hnotes
    obtain ⟨ck, m, l, hl, -, hm, -⟩ := hlisted
    have hno : ∀ l, (s (i + 1)).round = some l → (ck, m) ∉ l := by
      intro l hl hmem
      rw [hround] at hl
      exact hforgets.listed l hl _ hmem hm
    obtain ⟨a', hia', hab', hopens, hstays⟩ := hc.opened_of_listed hib hno hl List.mem_cons_self
    exact ⟨a', b, by omega, hab', by omega, hopens, hstays, hnotes⟩

/-! ## When a pod is forgotten -/

/-- A round that is opened has all to note that are registered, and keeps no others cached. -/
theorem Beat.opened (h : Beat config x x') (ho : x.Opens x') :
    x'.round = some x.scene.world.registry.pairs ∧
      x'.cache = x.cache.retain x.scene.world.registry.memberKeys := by
  obtain ⟨hnone, hsome⟩ := ho
  cases h with
  | move hm =>
    rw [show _ = _ from hnone] at hsome
    cases hsome
  | edit =>
    rw [show _ = _ from hnone] at hsome
    cases hsome
  | opens w pass => exact ⟨rfl, rfl⟩
  | notes => cases hnone
  | ends => cases hsome

/-- A round that is opened while a pod is not registered forgets it. -/
theorem Beat.forgets_opened (h : Beat config x x') (ho : x.Opens x')
    (hreg : ∀ p ∈ x.scene.world.registry.pairs, p.2.key ≠ member) : x'.Forgets member := by
  obtain ⟨hround, hcache⟩ := h.opened ho
  have hnone : x'.cache.find? member = none := by
    rw [hcache]
    refine (SortedMap.find?_filterKeys _ _ _).trans (if_neg fun hkept => ?_)
    obtain ⟨p, hp, he⟩ := List.mem_map.mp (List.contains_iff_mem.mp hkept)
    exact hreg p hp he
  refine ⟨?_, fun l hl => ?_⟩
  · rw [hnone]
    exact nofun
  · cases hround.symm.trans hl
    exact hreg

/-- A pod that is forgotten stays so while it is not registered. -/
theorem Beat.forgets (h : Beat config x x') (hf : x.Forgets member)
    (hreg : ∀ p ∈ x.scene.world.registry.pairs, p.2.key ≠ member) : x'.Forgets member := by
  refine ⟨?_, fun l hl => ?_⟩
  · rcases h.cache_cases member with he | ⟨-, he⟩ | ⟨st, hn, -⟩
    · rw [he]
      exact hf.cached
    · rw [he]
      exact nofun
    · -- only a round that lists a member notes its status
      obtain ⟨ck, m, l, hl, -, hm, -⟩ := hn
      exact absurd hm (hf.listed _ hl _ List.mem_cons_self)
  · rcases h.round_cases hl with ho | ⟨l₀, hl₀, hsub⟩
    · exact (h.forgets_opened ho hreg).listed l hl
    · exact fun p hp => hf.listed l₀ hl₀ p (hsub hp)

/-- Once a round has been opened while a pod was not registered, the pod is forgotten, as long as
it is not registered. -/
theorem forgets_of_round {s : ℕ → Watch} (hc : Chronicle config s) {a i : ℕ} (hai : a < i)
    (ho : (s a).Opens (s (a + 1)))
    (hreg : ∀ c, a ≤ c → c < i → ∀ p ∈ (s c).scene.world.registry.pairs, p.2.key ≠ member) :
    (s i).Forgets member := by
  induction i, Nat.succ_le_of_lt hai using Nat.le_induction with
  | base => exact (hc.beat a).forgets_opened ho (hreg a le_rfl hai)
  | succ c hac ih =>
    have hf := ih hac fun c' h h' => hreg c' h (by omega)
    exact (hc.beat c).forgets hf (hreg c (by omega) (by omega))

/-! ## Two runs -/

/-- The last pod has been decommissioned and is taken away. Another one is wanted, and then
none. -/
def regrowing : List Cue :=
  passOf 8 ++ [.rollOut smallRack, .respec (small 2 1 1)] ++
    passOf 8 ++ [.rollOut smallRack, .respec (small 3 0 1)] ++ passOf 8

/-- **Shrinking on a stale status.** A rack may be shrunk by a pod it was grown by although no
round was opened since, on what was cached of an earlier pod of that name. -/
theorem shrunk_on_stale_status : ¬∀ config s k (o i j : ℕ), Chronicle config s → i < j →
    (s i).count k ≤ o → o < (s (i + 1)).count k → o < (s j).count k → (s (j + 1)).count k ≤ o →
      ∃ a b, i < a ∧ a < b ∧ b < j ∧ (s a).Opens (s (a + 1)) ∧
        (∀ c, a < c → c ≤ b → (s c).round.isSome = true) ∧
          (s b).Notes (s (b + 1)) (podKey k o) .decommissioned := by
  intro hall
  let x := smallWatch 0 1 (SortedMap.insert {} (podKey smallRack 0) .decommissioned)
  let s : ℕ → Watch := played {} x regrowing
  have hc : Chronicle {} s := chronicle_played {} rfl (placed_smallWatch _ _ _) regrowing
  have hcounts : ((s 18).count smallRack, (s 19).count smallRack, (s 30).count smallRack,
      (s 31).count smallRack) = (0, 1, 1, 0) := by
    decide +kernel
  simp only [Prod.mk.injEq] at hcounts
  obtain ⟨h₁, h₂, h₃, h₄⟩ := hcounts
  have hquiet : ∀ a < 31, (s a).round.isSome = false := by decide +kernel
  have hi : (s 18).count smallRack ≤ (0 : ℕ) := by omega
  have hi' : (0 : ℕ) < (s 19).count smallRack := by omega
  have hj : (0 : ℕ) < (s 30).count smallRack := by omega
  have hj' : (s 31).count smallRack ≤ (0 : ℕ) := by omega
  obtain ⟨a, b, -, hab, hbj, ⟨-, hopens⟩, -⟩ :=
    hall {} s smallRack 0 18 30 hc (by omega) hi hi' hj hj'
  -- In the whole run no round is ever opened.
  rw [hquiet (a + 1) (by omega)] at hopens
  cases hopens

/-- A pod is added, a round notes that it has been decommissioned, and it is taken away. -/
def leaving : List Cue :=
  passOf 8 ++ [.rollOut smallRack, .respec (small 2 0 1)] ++
    passOf 6 ++ [.opens, .notes .decommissioned, .ends] ++ passOf 8

/-- The pod is taken away on what that round has noted. The rack has been grown before, so the
status is one of the pod that is there and not of an earlier one of the name. -/
theorem shrunk_after_round : ∃ config s k, ∃ o i j : ℕ, Chronicle config s ∧ i < j ∧
    (s i).count k ≤ o ∧ o < (s (i + 1)).count k ∧ (s i).Forgets (podKey k o) ∧
      o < (s j).count k ∧ (s (j + 1)).count k ≤ o ∧
        ∃ a b, i < a ∧ a < b ∧ b < j ∧ (s a).Opens (s (a + 1)) ∧
          (∀ c, a < c → c ≤ b → (s c).round.isSome = true) ∧
            (s b).Notes (s (b + 1)) (podKey k o) .decommissioned := by
  let s : ℕ → Watch := played {} (smallWatch 1 0 {}) leaving
  have hc : Chronicle {} s := chronicle_played {} rfl (placed_smallWatch _ _ _) leaving
  -- The rack grows at the seventh beat and is shrunk at the thirtieth.
  have hcounts : ((s 6).count smallRack, (s 7).count smallRack, (s 29).count smallRack,
      (s 30).count smallRack) = (0, 1, 1, 0) := by
    decide +kernel
  simp only [Prod.mk.injEq] at hcounts
  obtain ⟨h₁, h₂, h₃, h₄⟩ := hcounts
  have hforgets : (s 6).Forgets (podKey smallRack 0) := by
    have hnone : (s 6).cache.find? (podKey smallRack 0) = none ∧ (s 6).round.isSome = false := by
      decide +kernel
    refine ⟨?_, fun l hl => ?_⟩
    · rw [hnone.1]
      exact nofun
    · rw [hl] at hnone
      cases hnone.2
  have hi : (s 6).count smallRack ≤ (0 : ℕ) := by omega
  have hi' : (0 : ℕ) < (s 7).count smallRack := by omega
  have hj : (0 : ℕ) < (s 29).count smallRack := by omega
  have hj' : (s 30).count smallRack ≤ (0 : ℕ) := by omega
  exact ⟨{}, s, smallRack, 0, 6, 29, hc, by omega, hi, hi', hforgets, hj, hj',
    shrunk_on_fresh_status hc (by omega) hi hi' hforgets hj hj'⟩

end RackOperator.Pass
