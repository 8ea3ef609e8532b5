import RackOperator.Proofs.Pass.Plans

/-!
# Planning from any layout

`Layout.planned?` is given the counts of racks as they are found, which need not be a layout
that planning itself would lead to. It moves no more than one of them, by one and toward the
total wanted (`Planned.of_planned?`): a rack that is grown has the fewest replicas of all
(`rackToGrow?_le`), and one that is shrunk has the most (`rackToShrink?_le`). So an uneven
layout becomes no more uneven (`Planned.gap_le`), and an even one stays within one replica.

Each plan made from the one before brings the total one closer (`Planned.distance`), until
it is the one wanted; `plans_settle` says so of all plans in a row.
-/

namespace RackOperator

namespace SortedMap

variable {κ α : Type} [LT κ] [DecidableEq κ] [DecidableLT κ]
  [Trans (α := κ) (β := κ) (γ := κ) (· < ·) (· < ·) (· < ·)] [Std.Irrefl (α := κ) (· < ·)]
  [Std.Trichotomous (α := κ) (· < ·)]

omit [Std.Trichotomous (α := κ) (· < ·)] in
/-- A pair put in place of that of its key stands where that one stood. The induction is on the list
of pairs. -/
theorem place_of_lookup {k : κ} {a : α} {l : List (κ × α)}
    (hl : l.Pairwise fun p q => p.1 < q.1) (h : lookup k l = some a) :
    ∃ before behind, l = before ++ (k, a) :: behind ∧
      ∀ b, place k b l = before ++ (k, b) :: behind := by
  have hirrefl : ¬ k < k := Std.Irrefl.irrefl (r := fun (x y : κ) => x < y) k
  induction l with
  | nil => cases h
  | cons p rest ih =>
    obtain ⟨hp, hrest⟩ := List.pairwise_cons.mp hl
    unfold lookup at h
    split at h
    next he =>
      refine ⟨[], rest, ?_, fun b => ?_⟩
      · rw [← he, ← Option.some.inj h]
        rfl
      · unfold place
        rw [he, if_neg hirrefl, if_neg hirrefl]
        rfl
    next =>
      obtain ⟨before, behind, he, hplace⟩ := ih hrest h
      have hlt : p.1 < k := hp (k, a) (mem_of_lookup h)
      refine ⟨p :: before, behind, by rw [he, List.cons_append], fun b => ?_⟩
      unfold place
      rw [if_neg fun hgt => hirrefl (Trans.trans hgt hlt), if_pos hlt, hplace, List.cons_append]

/-- A value given to a key that had one stands in the place of the old one, and all others stay. -/
theorem insert_of_find? {m : SortedMap κ α} {k : κ} {a : α} (h : m.find? k = some a) :
    ∃ before behind, m.entries = before ++ (k, a) :: behind ∧
      ∀ b, (m.insert k b).entries = before ++ (k, b) :: behind :=
  place_of_lookup m.increasing h

theorem keys_insert_of_find? {m : SortedMap κ α} {k : κ} {a : α} (h : m.find? k = some a) (b : α) :
    (m.insert k b).keys = m.keys := by
  obtain ⟨before, behind, he, hinsert⟩ := insert_of_find? h
  simp only [keys, he, hinsert, List.map_append, List.map_cons]

theorem sum_values_insert {m : SortedMap κ Int} {k : κ} {a : Int} (h : m.find? k = some a)
    (b : Int) : (m.insert k b).values.sum = m.values.sum + (b - a) := by
  obtain ⟨before, behind, he, hinsert⟩ := insert_of_find? h
  simp only [values, he, hinsert, List.map_append, List.map_cons, List.sum_append, List.sum_cons]
  omega

omit [DecidableEq κ] [Std.Irrefl (α := κ) (· < ·)] in
theorem mem_values_insert {m : SortedMap κ α} {k : κ} {a b : α} (h : a ∈ (m.insert k b).values) :
    a = b ∨ a ∈ m.values := by
  obtain ⟨p, hp, rfl⟩ := List.mem_map.mp h
  rcases mem_place hp with rfl | hp
  · exact .inl rfl
  · exact .inr (List.mem_map_of_mem hp)

end SortedMap

namespace Layout

/-! ## The rack that is picked -/

/-- No candidate has more replicas than the one that is shrunk. -/
theorem rackToShrink?_le {cs : List (Rack × Int)} {c : Rack × Int}
    (h : rackToShrink? cs = some c) : ∀ d ∈ cs, d.2 ≤ c.2 := by
  refine (foldl_choice_best (fun a b => b.2 ≤ a.2) (fun a => Int.le_refl a.2)
    (fun hab hbc => Int.le_trans hbc hab) (fun best c => ?_) h).2
  cases best with
  | none => exact ⟨c, rfl, fun b hb => (by cases hb), Int.le_refl _⟩
  | some b =>
    by_cases hlt : growsBefore c b = true
    · refine ⟨b, if_pos hlt, fun b' hb => ?_, le_of_growsBefore hlt⟩
      cases hb
      exact Int.le_refl _
    · refine ⟨c, if_neg hlt, fun b' hb => ?_, Int.le_refl _⟩
      cases hb
      exact le_of_not_growsBefore hlt

/-- A fold that leaves something at each candidate ends with something. -/
theorem foldl_choice_isSome {α : Type} {f : Option α → α → Option α}
    (hf : ∀ best c, (f best c).isSome) {cs : List α} (h : cs ≠ []) (best : Option α) :
    (cs.foldl f best).isSome := by
  rw [← List.dropLast_append_getLast h, List.foldl_append]
  exact hf _ _

theorem exists_rackToGrow? {cs : List (Rack × Int)} (h : cs ≠ []) :
    ∃ c, rackToGrow? cs = some c := by
  refine Option.isSome_iff_exists.mp (foldl_choice_isSome (fun best c => ?_) h none)
  cases best with
  | none => rfl
  | some b => dsimp only; split <;> rfl

theorem exists_rackToShrink? {cs : List (Rack × Int)} (h : cs ≠ []) :
    ∃ c, rackToShrink? cs = some c := by
  refine Option.isSome_iff_exists.mp (foldl_choice_isSome (fun best c => ?_) h none)
  cases best with
  | none => rfl
  | some b => dsimp only; split <;> rfl

namespace Counts

/-- The replicas of all racks. -/
def total (c : Counts) : Int := c.values.sum

/-- How far apart the largest and the smallest count are. -/
def gap (c : Counts) : Int := c.values.max?.getD 0 - c.values.min?.getD 0

/-- Counts that are not negative, and whose sum fits 32 bits. -/
structure Sound (c : Counts) : Prop where
  nonneg : ∀ n ∈ c.values, 0 ≤ n
  total_lt : c.total < 2 ^ 31

/-! ## The gap -/

/-- The gap is that between two counts, one the largest and one the smallest. -/
theorem gap_eq (c : Counts) : (c.values = [] ∧ c.gap = 0) ∨
    ∃ hi ∈ c.values, ∃ lo ∈ c.values, (∀ a ∈ c.values, lo ≤ a ∧ a ≤ hi) ∧ c.gap = hi - lo := by
  unfold gap
  cases hmax : c.values.max? with
  | none =>
    have hnil := List.max?_eq_none_iff.mp hmax
    rw [hnil]
    exact .inl ⟨rfl, rfl⟩
  | some hi =>
    obtain ⟨hhi, hle⟩ := List.max?_eq_some_iff.mp hmax
    obtain ⟨lo, hmin⟩ := Option.isSome_iff_exists.mp
      (List.isSome_min?_iff.mpr (List.ne_nil_of_mem hhi))
    obtain ⟨hlo, hge⟩ := List.min?_eq_some_iff.mp hmin
    rw [hmin]
    exact .inr ⟨hi, hhi, lo, hlo, fun a ha => ⟨hge a ha, hle a ha⟩, rfl⟩

/-- No two counts are further apart than the gap. -/
theorem sub_le_gap {c : Counts} {a b : Int} (ha : a ∈ c.values) (hb : b ∈ c.values) :
    a - b ≤ c.gap := by
  rcases gap_eq c with ⟨hnil, -⟩ | ⟨hi, -, lo, -, hall, hgap⟩
  · rw [hnil] at ha
    cases ha
  · have := hall a ha
    have := hall b hb
    omega

/-- The gap is no more than what no two counts are further apart than. -/
theorem gap_le {c : Counts} {bound : Int} (hpos : 0 ≤ bound)
    (h : ∀ a ∈ c.values, ∀ b ∈ c.values, a - b ≤ bound) : c.gap ≤ bound := by
  rcases gap_eq c with ⟨-, hgap⟩ | ⟨hi, hhi, lo, hlo, -, hgap⟩
  · rw [hgap]
    exact hpos
  · rw [hgap]
    exact h hi hhi lo hlo

/-- A count put in the place of another one does not widen the gap beyond what it had or one, if it
is within that of every count. -/
theorem gap_insert_le {c : Counts} {r : Rack} {m : Int}
    (h : ∀ a ∈ c.values, m - a ≤ max c.gap 1 ∧ a - m ≤ max c.gap 1) :
    gap (c.insert r m) ≤ max c.gap 1 := by
  refine gap_le (by omega) fun a ha b hb => ?_
  rcases SortedMap.mem_values_insert ha with hm | hold
  · rcases SortedMap.mem_values_insert hb with hm' | hold'
    · omega
    · exact hm ▸ (h b hold').1
  · rcases SortedMap.mem_values_insert hb with hm' | hold'
    · exact hm' ▸ (h a hold).2
    · exact Int.le_trans (sub_le_gap hold hold') (Int.le_max_left _ _)

theorem Sound.le_total {c : Counts} (hc : c.Sound) {n : Int} (hn : n ∈ c.values) : n ≤ c.total :=
  List.single_le_sum hc.nonneg n hn

/-- A total that is not zero has a count that is not, so there is a rack to shrink. -/
theorem exists_pos {c : Counts} (h : 0 < c.total) : (c.entries.filter fun p => 0 < p.2) ≠ [] := by
  intro hnil
  have hnone : ∀ n ∈ c.values, n ≤ 0 := List.forall_mem_map.mpr fun p hp => by
    simpa using List.filter_eq_nil_iff.mp hnil p hp
  have hzero : c.total ≤ c.values.length • 0 := List.sum_le_card_nsmul _ _ hnone
  rw [nsmul_zero] at hzero
  omega

theorem total_insert {c : Counts} {r : Rack} {n : Int} (h : c.find? r = some n) (m : Int) :
    total (c.insert r m) = c.total + (m - n) :=
  SortedMap.sum_values_insert h m

end Counts

/-! ## One plan -/

/-- What a plan on the way to a total makes of counts. -/
structure Planned (wanted : Int) (c planned : Counts) : Prop where
  /-- No rack is taken away or added. -/
  keys : planned.keys = c.keys
  /-- At most one count moves, by one and toward the total. -/
  moved : planned = c ∨ ∃ r n, c.find? r = some n ∧
    (c.total < wanted ∧ planned = c.insert r (n + 1) ∨
      wanted < c.total ∧ planned = c.insert r (n - 1))
  /-- No count is negative, or too large for 32 bits. -/
  fits : ∀ n ∈ planned.values, 0 ≤ n ∧ n < 2 ^ 31
  /-- Nothing moves where the total is reached, and where there is no rack to move. -/
  still : planned = c ↔ c.total = wanted ∨ c.keys = []
  /-- Counts within one of each other stay so, and others do not get further apart. -/
  gap : planned.gap ≤ max c.gap 1

namespace Planned

variable {wanted : Int} {c : Counts}

/-- Counts that are to stay as they are make a plan: the total is the one wanted, or there is no
rack. -/
theorem refl (hc : c.Sound) (h : c.total = wanted ∨ c.keys = []) : Planned wanted c c where
  keys := rfl
  moved := .inl rfl
  fits n hn := ⟨hc.nonneg n hn, Int.lt_of_le_of_lt (hc.le_total hn) hc.total_lt⟩
  still := ⟨fun _ => h, fun _ => rfl⟩
  gap := Int.le_max_left _ _

/-- One count moved toward the total, and not away from the others, makes a plan. What is to be
shown of the two directions is then only that the gap between counts does not widen beyond one. -/
theorem of_insert (hc : c.Sound) {r : Rack} {n m : Int} (hr : c.find? r = some n)
    (hm : c.total < wanted ∧ m = n + 1 ∨ wanted < c.total ∧ m = n - 1)
    (hfits : 0 ≤ m ∧ m < 2 ^ 31)
    (hgap : ∀ a ∈ c.values, m - a ≤ max c.gap 1 ∧ a - m ≤ max c.gap 1) :
    Planned wanted c (c.insert r m) where
  keys := SortedMap.keys_insert_of_find? hr m
  moved := .inr ⟨r, n, hr, hm.imp (fun ⟨hlt, he⟩ => ⟨hlt, he ▸ rfl⟩)
    fun ⟨hlt, he⟩ => ⟨hlt, he ▸ rfl⟩⟩
  fits a ha := (SortedMap.mem_values_insert ha).elim (fun he => he ▸ hfits)
    fun ha => (refl hc (.inl rfl)).fits a ha
  still := by
    constructor
    · intro he
      -- The rack's count has changed, so the plan has.
      have hfound := SortedMap.find?_insert c r r m
      rw [he, if_pos rfl, hr] at hfound
      have := Option.some.inj hfound
      omega
    · rintro (ht | hnil)
      · omega
      · have hmem := SortedMap.mem_keys.mpr ⟨n, hr⟩
        rw [hnil] at hmem
        cases hmem
  gap := Counts.gap_insert_le hgap

/-- Growing the smallest count makes a plan, which fits 32 bits as the total wanted does. -/
theorem of_grown (hc : c.Sound) (hup : c.total < wanted) (hw : wanted < 2 ^ 31) {r : Rack} {n : Int}
    (h : rackToGrow? c.entries = some (r, n)) : Planned wanted c (c.insert r (n + 1)) := by
  have hmem := rackToGrow?_mem h
  have hvalue : n ∈ c.values := List.mem_map_of_mem (f := (·.2)) hmem
  have hfewest : ∀ a ∈ c.values, n ≤ a := List.forall_mem_map.mpr (rackToGrow?_le h)
  have hnn := hc.nonneg n hvalue
  have hle := hc.le_total hvalue
  refine of_insert hc (SortedMap.lookup_eq_some c.increasing hmem) (.inl ⟨hup, rfl⟩)
    (by omega) fun a ha => ?_
  have := hfewest a ha
  have := Counts.sub_le_gap ha hvalue
  omega

/-- Shrinking the largest count, which is not zero, makes a plan. It is not zero because the total
is above a target that counts as none below zero. -/
theorem of_shrunk (hc : c.Sound) (hdown : wanted < c.total) {r : Rack} {n : Int}
    (h : rackToShrink? (c.entries.filter fun p => 0 < p.2) = some (r, n)) :
    Planned wanted c (c.insert r (n - 1)) := by
  obtain ⟨hmem, hpos⟩ := List.mem_filter.mp (rackToShrink?_mem h)
  have hpos : 0 < n := of_decide_eq_true hpos
  have hvalue : n ∈ c.values := List.mem_map_of_mem (f := (·.2)) hmem
  -- counts that were no candidates are zero
  have hmost : ∀ a ∈ c.values, a ≤ n := by
    refine List.forall_mem_map.mpr fun p hp => ?_
    by_cases hp0 : 0 < p.2
    · exact rackToShrink?_le h p (List.mem_filter.mpr ⟨hp, decide_eq_true hp0⟩)
    · omega
  have hle := hc.le_total hvalue
  have hlt := hc.total_lt
  refine of_insert hc (SortedMap.lookup_eq_some c.increasing hmem) (.inr ⟨hdown, rfl⟩)
    (by omega) fun a ha => ?_
  have := hmost a ha
  have := Counts.sub_le_gap hvalue ha
  omega

/-- Sound counts have a plan, toward any target of 32 bits. A negative target counts as none. -/
theorem of_planned? (hc : c.Sound) {target : Int} (ht : target < 2 ^ 31) :
    ∃ planned, planned? c target = some planned ∧ Planned (max target 0) c planned := by
  refine ⟨step c c.total target, ?_, ?_⟩
  · rw [planned?, sum?_eq_some hc.nonneg hc.total_lt]
    rfl
  · unfold step
    dsimp only
    by_cases hup : c.total < max target 0
    · rw [if_pos hup]
      by_cases hnil : c.entries = []
      · rw [hnil]
        exact refl hc (.inr (List.map_eq_nil_iff.mpr hnil))
      · obtain ⟨⟨r, n⟩, hpick⟩ := exists_rackToGrow? hnil
        rw [hpick]
        exact of_grown hc hup (by omega) hpick
    · rw [if_neg hup]
      by_cases hdown : max target 0 < c.total
      · have hpos : 0 < c.total := by omega
        rw [if_pos hdown]
        obtain ⟨⟨r, n⟩, hpick⟩ := exists_rackToShrink? (Counts.exists_pos hpos)
        rw [hpick]
        exact of_shrunk hc hdown hpick
      · rw [if_neg hdown]
        exact refl hc (.inl (by omega))

/-- A plan leaves sound counts, so the next plan can be made from them. -/
theorem sound {planned : Counts} (h : Planned wanted c planned) (hc : c.Sound)
    (hw : wanted < 2 ^ 31) : planned.Sound := by
  refine ⟨fun n hn => (h.fits n hn).1, ?_⟩
  have hlt := hc.total_lt
  rcases h.moved with rfl | ⟨r, n, hr, ⟨hup, rfl⟩ | ⟨hdown, rfl⟩⟩
  · exact hlt
  · rw [Counts.total_insert hr]
    omega
  · rw [Counts.total_insert hr]
    omega

/-- A plan for racks brings their total one closer to the one wanted. -/
theorem distance {planned : Counts} (h : Planned wanted c planned) (hkeys : c.keys ≠ []) :
    (planned.total - wanted).natAbs = (c.total - wanted).natAbs - 1 := by
  rcases h.moved with he | ⟨r, n, hr, ⟨hup, rfl⟩ | ⟨hdown, rfl⟩⟩
  · have ht := (h.still.mp he).resolve_right hkeys
    rw [he, ht, Int.sub_self]
    rfl
  · rw [Counts.total_insert hr]
    omega
  · rw [Counts.total_insert hr]
    omega

end Planned

/-! ## One plan after the other -/

/-- A number of plans in a row, each made from the counts of the one before. -/
def iterated? (existing : Counts) (target : Int) : Nat → Option Counts
  | 0 => some existing
  | k + 1 => (iterated? existing target k).bind (planned? · target)

/-- All plans in a row can be made, over the same racks, and bring the total closer by one each time
until it is reached. The induction is on their number. -/
theorem exists_iterated? {existing : Counts} (hs : existing.Sound) {target : Int}
    (ht : target < 2 ^ 31) (k : Nat) :
    ∃ c, iterated? existing target k = some c ∧ c.Sound ∧ c.keys = existing.keys ∧
      (existing.keys ≠ [] →
        (c.total - max target 0).natAbs = (existing.total - max target 0).natAbs - k) := by
  induction k with
  | zero => exact ⟨existing, rfl, hs, rfl, fun _ => rfl⟩
  | succ k ih =>
    obtain ⟨c, hc, hsound, hkeys, hdist⟩ := ih
    obtain ⟨planned, hplan, h⟩ := Planned.of_planned? hsound ht
    refine ⟨planned, ?_, h.sound hsound (by omega), h.keys.trans hkeys, fun hne => ?_⟩
    · rw [iterated?, hc]
      exact hplan
    · rw [h.distance (hkeys ▸ hne), hdist hne]
      omega

/-- **Planning from any layout.** From any counts that are not negative and whose sum fits 32
bits, with any target, all plans in a row can be made, the first one from the counts as they
are. Each keeps the racks, moves at most one count, by one and toward the total wanted, with no
count negative or too large for 32 bits; it changes nothing just if that total is reached or
there is no rack; and it does not widen the gap between the largest and the smallest count
beyond what it was or one. Where there is a rack, as many plans change something as the total
is away from the one wanted, they are the first ones, and behind them that total is reached. -/
theorem plans_settle (existing : Counts) (target : Int32)
    (hnn : ∀ n ∈ existing.values, 0 ≤ n) (hsum : existing.values.sum < 2 ^ 31) :
    let wanted := max target.toInt 0
    let away := (existing.total - wanted).natAbs
    ∀ k, ∃ c planned, iterated? existing target.toInt k = some c ∧
      planned? c target.toInt = some planned ∧ Planned wanted c planned ∧
      (existing.keys ≠ [] → (planned ≠ c ↔ k < away) ∧ (away ≤ k → c.total = wanted)) := by
  intro wanted away k
  have ht : target.toInt < 2 ^ 31 := target.toInt_lt
  obtain ⟨c, hc, hsound, hkeys, hdist⟩ := exists_iterated? ⟨hnn, hsum⟩ ht k
  obtain ⟨planned, hplan, h⟩ := Planned.of_planned? hsound ht
  refine ⟨c, planned, hc, hplan, h, fun hne => ?_⟩
  -- Each iterate comes one nearer, so after `k` of them `away - k` are left.
  have hleft : (c.total - wanted).natAbs = away - k := hdist hne
  have hstill : planned = c ↔ c.total = wanted :=
    h.still.trans (or_iff_left (hkeys ▸ hne))
  refine ⟨?_, fun hk => by omega⟩
  rw [Ne, hstill]
  omega

/-- Three racks at five, none and one replica, on the way to two. -/
theorem plans_settle_at_two :
    let existing : Counts := .ofList [(.new 0, 5), (.new 1, 0), (.new 2, 1)]
    (∀ n ∈ existing.values, 0 ≤ n) ∧ existing.values.sum < 2 ^ 31 ∧
      ∃ c, iterated? existing 2 4 = some c ∧ c.total = 2 := by
  have hnn : ∀ n ∈ (SortedMap.ofList [(Rack.new 0, (5 : Int)), (.new 1, 0), (.new 2, 1)]).values,
      0 ≤ n := by decide
  have hsum : (SortedMap.ofList
      [(Rack.new 0, (5 : Int)), (.new 1, 0), (.new 2, 1)]).values.sum < 2 ^ 31 := by decide
  obtain ⟨c, _, hc, -, -, hreached⟩ := plans_settle _ 2 hnn hsum 4
  exact ⟨hnn, hsum, c, hc, (hreached (by decide)).2 (by decide)⟩

end Layout

end RackOperator
