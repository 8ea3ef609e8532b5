import RackOperator.Proofs.Decisions
import RackOperator.Proofs.Maps
import RackOperator.Proofs.Names
import Mathlib.Algebra.BigOperators.Ring.Finset

/-!
# One layout for each total

A DataCenter begins with its replicas spread evenly, the remainder on the first racks
(`Layout.initialDistribution`), and is then grown and shrunk a replica at a time
(`Layout.step`). Both come to the same: the rack that is grown is the one that would have
had one more from the start, and so is the one that is shrunk. So one step from the
spread of a total leads to the spread of the next total (`step_spread`), and a layout tells
nothing of the steps that led to it.
-/

namespace RackOperator

namespace SortedMap

variable {κ α : Type} [LT κ] [DecidableEq κ] [DecidableLT κ]
  [Trans (α := κ) (β := κ) (γ := κ) (· < ·) (· < ·) (· < ·)] [Std.Irrefl (α := κ) (· < ·)]
  [Std.Trichotomous (α := κ) (· < ·)]

/-- Pairs in order are the entries of the map made of them, so the map need not be built up. -/
theorem ofList_eq_mk {pairs : List (κ × α)} (h : pairs.Pairwise fun a b => a.1 < b.1) :
    ofList pairs = ⟨pairs, h⟩ := by
  have hnd : (pairs.map (·.1)).Nodup := by
    rw [List.Nodup, List.pairwise_map]
    exact h.imp fun {a b} hlt he => by
      rw [he] at hlt
      exact Std.Irrefl.irrefl (r := fun (x y : κ) => x < y) b.1 hlt
  refine ext_find? fun k => ?_
  by_cases hk : k ∈ pairs.map (·.1)
  · obtain ⟨p, hp, rfl⟩ := List.mem_map.mp hk
    rw [find?_ofList hnd hp]
    exact (lookup_eq_some h hp).symm
  · rw [find?_ofList_of_notMem hk]
    cases hf : (⟨pairs, h⟩ : SortedMap κ α).find? k with
    | none => rfl
    | some a => exact absurd (List.mem_map.mpr ⟨_, mem_of_lookup hf, rfl⟩) hk

end SortedMap

namespace Layout

/-! ## Shares -/

/-- The replicas of the rack at a position when a total is spread over a number of racks. -/
def share (total racks i : Nat) : Nat :=
  if i < total % racks then total / racks + 1 else total / racks

/-- Each rack gets its share of the replicas, a negative number of which counts as none. -/
theorem initialDistribution_eq (replicas : Int) (racks : Nat) :
    initialDistribution replicas racks =
      (List.range racks).map fun i => (share replicas.toNat racks i : Int) := by
  refine List.map_congr_left fun i _ => ?_
  unfold share
  split <;> rfl

/-- One more replica goes to the first rack with no part of the remainder. This is the whole of the
layout's arithmetic: growing fills the racks in turn. -/
theorem share_succ (total : Nat) {racks i : Nat} (hi : i < racks) :
    share (total + 1) racks i = share total racks i + if i = total % racks then 1 else 0 := by
  have hpos : 0 < racks := by omega
  have hdiv := Nat.div_add_mod total racks
  have hlt := Nat.mod_lt total hpos
  by_cases hwrap : total % racks + 1 < racks
  · -- the remainder grows
    have hsucc : total + 1 = total % racks + 1 + racks * (total / racks) := by omega
    have hq : (total + 1) / racks = total / racks := by
      rw [hsucc, Nat.add_mul_div_left _ _ hpos, Nat.div_eq_of_lt hwrap, Nat.zero_add]
    have hr : (total + 1) % racks = total % racks + 1 := by
      rw [hsucc, Nat.add_mul_mod_self_left, Nat.mod_eq_of_lt hwrap]
    unfold share
    rw [hq, hr]
    split_ifs <;> omega
  · -- every rack has a part of the remainder, and none is left
    have hsucc : total + 1 = racks * (total / racks + 1) := by
      rw [Nat.mul_succ]
      omega
    have hq : (total + 1) / racks = total / racks + 1 := by
      rw [hsucc, Nat.mul_div_cancel_left _ hpos]
    have hr : (total + 1) % racks = 0 := by rw [hsucc, Nat.mul_mod_right]
    unfold share
    rw [hq, hr]
    split_ifs <;> omega

/-- With one more in each of the first few parts, the sum is that of equal parts and these few. -/
theorem sum_parts (q k n : Nat) :
    ((List.range n).map fun i => if i < k then q + 1 else q).sum = n * q + min n k := by
  induction n with
  | zero => simp
  | succ n ih =>
    rw [List.range_succ, List.map_append, List.sum_append, ih, List.map_singleton,
      List.sum_singleton, Nat.succ_mul]
    split <;> omega

/-- The shares add up to the total, so the layout loses no replica and makes none up. -/
theorem sum_share {total racks : Nat} (h : 0 < racks) :
    ((List.range racks).map (share total racks)).sum = total := by
  refine (sum_parts _ _ _).trans ?_
  rw [Nat.min_eq_right (Nat.le_of_lt (Nat.mod_lt total h))]
  exact Nat.div_add_mod total racks

theorem share_le (total : Nat) {racks i : Nat} (hi : i < racks) : share total racks i ≤ total := by
  have hdiv := Nat.div_add_mod total racks
  have hq : total / racks ≤ racks * (total / racks) := Nat.le_mul_of_pos_left _ (by omega)
  unfold share
  split <;> omega

/-! ## The rack that is picked -/

/-- A fold over candidates that takes one of them, whatever it has, and then keeps it, ends with
that one. -/
theorem foldl_settles {α : Type} {f : Option α → α → Option α} {cs : List α} {c : α} (hc : c ∈ cs)
    (hchoice : ∀ best a d, f best a = some d → best = some d ∨ d = a)
    (hnone : f none c = some c) (htake : ∀ d ∈ cs, f (some d) c = some c)
    (hkeep : ∀ d ∈ cs, f (some c) d = some c) : cs.foldl f none = some c := by
  -- what is best in front of it gives way, and nothing behind it takes its place
  obtain ⟨before, after, rfl⟩ := List.append_of_mem hc
  rw [List.foldl_append, List.foldl_cons]
  have htaken : f (before.foldl f none) c = some c := by
    cases hb : before.foldl f none with
    | none => exact hnone
    | some d => exact htake d (List.mem_append_left _ (foldl_choice_mem hchoice hb))
  rw [htaken]
  have hafter : ∀ d ∈ after, f (some c) d = some c := fun d hd =>
    hkeep d (List.mem_append_right _ (List.mem_cons_of_mem _ hd))
  clear hkeep htake htaken hc
  induction after with
  | nil => rfl
  | cons d rest ih =>
    rw [List.foldl_cons, hafter d List.mem_cons_self]
    exact ih fun e he => hafter e (List.mem_cons_of_mem _ he)

/-- The candidate that comes before all others is grown, wherever it stands among them. -/
theorem rackToGrow?_eq {cs : List (Rack × Int)} {c : Rack × Int} (hc : c ∈ cs)
    (hfirst : ∀ d ∈ cs, d = c ∨ growsBefore c d = true ∧ growsBefore d c = false) :
    rackToGrow? cs = some c := by
  refine foldl_settles hc rackToGrow?_choice rfl (fun d hd => ?_) fun d hd => ?_
  · rcases hfirst d hd with rfl | ⟨h, -⟩
    · exact ite_self _
    · exact if_pos h
  · rcases hfirst d hd with rfl | ⟨-, h⟩
    · exact ite_self _
    · exact if_neg (Bool.eq_false_iff.mp h)

/-- The candidate that comes behind all others is shrunk, wherever it stands among them. -/
theorem rackToShrink?_eq {cs : List (Rack × Int)} {c : Rack × Int} (hc : c ∈ cs)
    (hlast : ∀ d ∈ cs, d = c ∨ growsBefore d c = true ∧ growsBefore c d = false) :
    rackToShrink? cs = some c := by
  refine foldl_settles hc rackToShrink?_choice rfl (fun d hd => ?_) fun d hd => ?_
  · rcases hlast d hd with rfl | ⟨-, h⟩
    · exact ite_self _
    · exact if_neg (Bool.eq_false_iff.mp h)
  · rcases hlast d hd with rfl | ⟨h, -⟩
    · exact ite_self _
    · exact if_pos h

/-! ## Steps from a spread -/

/-- The racks with their shares of a total. -/
def shares (total racks : Nat) : List (Rack × Int) :=
  (Rack.all racks).map fun r => (r, (share total racks r.index : Int))

/-- The shares are paired with the racks in order of their index. -/
theorem mem_shares {total racks : Nat} {p : Rack × Int} :
    p ∈ shares total racks ↔ ∃ i < racks, p = (.new i, (share total racks i : Int)) := by
  unfold shares Rack.all
  rw [List.map_map]
  simp only [List.mem_map, List.mem_range, eq_comm]
  rfl

theorem pairwise_shares (total racks : Nat) :
    (shares total racks).Pairwise fun a b => a.1 < b.1 := by
  unfold shares
  exact List.pairwise_map.mpr (Rack.pairwise_all racks)

/-- A total spread over some racks. -/
def spread (total racks : Nat) : Counts := ⟨shares total racks, pairwise_shares total racks⟩

theorem find?_spread {total racks i : Nat} (hi : i < racks) :
    (spread total racks).find? (.new i) = some (share total racks i : Int) :=
  SortedMap.lookup_eq_some (pairwise_shares total racks) (mem_shares.mpr ⟨i, hi, rfl⟩)

theorem find?_spread_of_notMem {total racks : Nat} {r : Rack} (h : r ∉ Rack.all racks) :
    (spread total racks).find? r = none := by
  cases hf : (spread total racks).find? r with
  | none => rfl
  | some n =>
    obtain ⟨i, hi, he⟩ := mem_shares.mp (SortedMap.mem_of_lookup hf)
    exact absurd (Rack.mem_all.mpr ⟨i, hi, congrArg Prod.fst he⟩) h

/-- One replica more on the rack whose turn it is makes the spread of the next total. -/
theorem insert_spread {total racks : Nat} (h : 0 < racks) :
    (spread total racks).insert (.new (total % racks))
      (share total racks (total % racks) + 1 : Int) = spread (total + 1) racks := by
  refine SortedMap.ext_find? fun r => ?_
  rw [SortedMap.find?_insert]
  by_cases hr : r ∈ Rack.all racks
  · obtain ⟨i, hi, rfl⟩ := Rack.mem_all.mp hr
    rw [find?_spread hi, find?_spread hi, share_succ _ hi]
    by_cases he : total % racks = i
    · rw [if_pos (congrArg Rack.new he), if_pos he.symm, he]
      rfl
    · rw [if_neg fun h => he (congrArg Rack.index h), if_neg fun h => he h.symm]
      rfl
  · have hne : Rack.new (total % racks) ≠ r := fun he =>
      hr (Rack.mem_all.mpr ⟨_, Nat.mod_lt total h, he.symm⟩)
    rw [if_neg hne, find?_spread_of_notMem hr, find?_spread_of_notMem hr]

/-- The total after one step toward a target. -/
def toward (total : Nat) (target : Int) : Nat :=
  if (total : Int) < max target 0 then total + 1
  else if max target 0 < (total : Int) then total - 1
  else total

/-- A rack with fewer members grows before one with more, and of two with equally many the one with
the lower index. -/
theorem growsBefore_of {a b : Rack × Int} (h : a.2 < b.2 ∨ a.2 = b.2 ∧ a.1.index < b.1.index) :
    growsBefore a b = true ∧ growsBefore b a = false := by
  unfold growsBefore
  simp only [Bool.or_eq_true, Bool.and_eq_true, decide_eq_true_eq, beq_iff_eq,
    Bool.or_eq_false_iff, Bool.and_eq_false_iff, decide_eq_false_iff_not, beq_eq_false_iff_ne]
  omega

/-- The rack that is grown is the first with no part of the remainder, which is the one whose turn
it is. -/
theorem rackToGrow?_spread {total racks : Nat} (h : 0 < racks) :
    rackToGrow? (spread total racks).entries =
      some (.new (total % racks), (share total racks (total % racks) : Int)) := by
  have hlt := Nat.mod_lt total h
  refine rackToGrow?_eq (mem_shares.mpr ⟨_, hlt, rfl⟩) fun d hd => ?_
  obtain ⟨i, hi, rfl⟩ := mem_shares.mp hd
  by_cases he : i = total % racks
  · exact .inl (by rw [he])
  · refine .inr (growsBefore_of ?_)
    show (share total racks (total % racks) : Int) < share total racks i ∨
      (share total racks (total % racks) : Int) = share total racks i ∧ total % racks < i
    unfold share
    split_ifs <;> omega

/-- The rack that is shrunk is the last with a part of the remainder, or the last of all where there
is none, so shrinking undoes growing. -/
theorem rackToShrink?_spread {total racks : Nat} (h : 0 < racks) :
    rackToShrink? ((spread (total + 1) racks).entries.filter fun p => 0 < p.2) =
      some (.new (total % racks), (share (total + 1) racks (total % racks) : Int)) := by
  have hlt := Nat.mod_lt total h
  have hshare := share_succ total hlt
  rw [if_pos rfl] at hshare
  refine rackToShrink?_eq (List.mem_filter.mpr ⟨mem_shares.mpr ⟨_, hlt, rfl⟩, ?_⟩) fun d hd => ?_
  · rw [hshare]
    exact decide_eq_true (by omega)
  -- No other rack is larger, and one as large stands before it.
  · obtain ⟨i, hi, rfl⟩ := mem_shares.mp (List.mem_filter.mp hd).1
    by_cases he : i = total % racks
    · exact .inl (by rw [he])
    · refine .inr (growsBefore_of ?_)
      have hother := share_succ total hi
      rw [if_neg he] at hother
      show (share (total + 1) racks i : Int) < share (total + 1) racks (total % racks) ∨
        (share (total + 1) racks i : Int) = share (total + 1) racks (total % racks) ∧
          i < total % racks
      rw [hshare, hother]
      unfold share
      split_ifs <;> omega

/-- One replica less on the rack that had it last makes the spread of the total before. -/
theorem insert_spread_pred {total racks : Nat} (h : 0 < racks) :
    (spread (total + 1) racks).insert (.new (total % racks))
      ((share (total + 1) racks (total % racks) : Int) - 1) = spread total racks := by
  have hlt := Nat.mod_lt total h
  have hshare := share_succ total hlt
  rw [if_pos rfl] at hshare
  have hback : (share (total + 1) racks (total % racks) : Int) - 1 =
      share total racks (total % racks) := by omega
  -- the larger total is the smaller one with a replica more, which is overwritten
  rw [hback, ← insert_spread h, SortedMap.insert_insert]
  refine SortedMap.ext_find? fun r => ?_
  rw [SortedMap.find?_insert]
  split
  next he =>
    rw [← he]
    exact (find?_spread hlt).symm
  next => rfl

/-- One step from the spread of a total leads to the spread of the next, up or down. -/
theorem step_spread {racks : Nat} (h : 0 < racks) (total : Nat) (target : Int) :
    step (spread total racks) total target = spread (toward total target) racks := by
  unfold step toward
  dsimp only
  by_cases hup : (total : Int) < max target 0
  · rw [if_pos hup, if_pos hup, rackToGrow?_spread h]
    exact insert_spread h
  · rw [if_neg hup, if_neg hup]
    by_cases hdown : max target 0 < (total : Int)
    · rw [if_pos hdown, if_pos hdown]
      obtain ⟨n, rfl⟩ : ∃ n, total = n + 1 := ⟨total - 1, by omega⟩
      rw [rackToShrink?_spread h]
      exact insert_spread_pred h
    · rw [if_neg hdown, if_neg hdown]

theorem sumFrom?_eq {start total : Int} {is : List Int} (h : sumFrom? start is = some total) :
    total = start + is.sum := by
  induction is generalizing start with
  | nil =>
    rw [List.sum_nil, Int.add_zero]
    exact (Option.some.inj h).symm
  | cons i rest ih =>
    unfold sumFrom? at h
    split at h
    · rw [ih h, List.sum_cons, Int.add_assoc]
    · cases h

theorem sum_values_spread {total racks : Nat} (h : 0 < racks) :
    (spread total racks).values.sum = total := by
  have hvalues : (spread total racks).values =
      ((List.range racks).map (share total racks)).map fun n : Nat => (n : Int) := by
    unfold SortedMap.values spread shares Rack.all
    simp only [List.map_map]
    rfl
  rw [hvalues, ← Nat.cast_list_sum, sum_share h]

/-- What is planned from the spread of a total is the spread of the next one toward the target. -/
theorem planned?_spread {racks : Nat} (h : 0 < racks) {total : Nat} {target : Int}
    {planned : Counts} (hp : planned? (spread total racks) target = some planned) :
    planned = spread (toward total target) racks := by
  obtain ⟨t, ht, rfl⟩ := Option.map_eq_some_iff.mp hp
  have hsum := sumFrom?_eq ht
  rw [Int.zero_add, sum_values_spread h] at hsum
  rw [hsum]
  exact step_spread h total target

/-! ## Single racks on the way to a target -/

/-- The way from one 32-bit number to another leaves the range nowhere. -/
theorem toward_lt {total : Nat} {target : Int} (ht : total < 2 ^ 31) (hg : target < 2 ^ 31) :
    toward total target < 2 ^ 31 := by
  unfold toward
  split_ifs <;> omega

/-- A rack whose share grows on the way to a target is the one whose turn it is, and the total grows
by one. -/
theorem of_share_lt_toward {total racks i : Nat} {target : Int} (hi : i < racks)
    (h : share total racks i < share (toward total target) racks i) :
    toward total target = total + 1 ∧ i = total % racks := by
  unfold toward at h ⊢
  split at h
  · next hup =>
    rw [share_succ _ hi] at h
    refine ⟨if_pos hup, ?_⟩
    split at h
    next he => exact he
    next => omega
  · split at h
    · obtain ⟨n, rfl⟩ : ∃ n, total = n + 1 := ⟨total - 1, by omega⟩
      rw [Nat.add_sub_cancel, share_succ _ hi] at h
      omega
    · omega

/-- A rack whose share shrinks on the way to a target is the one that had the last replica, and the
total shrinks by one. -/
theorem of_toward_lt_share {total racks i : Nat} {target : Int} (hi : i < racks)
    (h : share (toward total target) racks i < share total racks i) :
    total = toward total target + 1 ∧ i = toward total target % racks := by
  -- Upward no share falls; downward just the last rack that was given one.
  unfold toward at h ⊢
  split at h
  · rw [share_succ _ hi] at h
    omega
  · next hup =>
    split at h
    · next hdown =>
      obtain ⟨n, rfl⟩ : ∃ n, total = n + 1 := ⟨total - 1, by omega⟩
      rw [Nat.add_sub_cancel, share_succ _ hi] at h
      rw [if_neg hup, if_pos hdown, Nat.add_sub_cancel]
      refine ⟨rfl, ?_⟩
      split at h
      next he => exact he
      next => omega
    · omega

end Layout

end RackOperator
