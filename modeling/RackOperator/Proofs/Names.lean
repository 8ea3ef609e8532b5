import RackOperator.Naming
import Mathlib.Data.List.Nodup

/-!
# Names are told apart

What a pass does to a rack it does under a name, so two racks must not share one, nor two
members. Numbers are written with digits only (`dash_not_mem_digits`), a number is read
back from its digits, and the dash in front of an ordinal is therefore the last one
(`last_dash_inj`), but for the sign of a negative one: a pod name says its rack, its ordinal
and what stands in front of the rack (`podName_new_inj`), whatever the cluster and the
datacenter are called. What stands in front is the stem, and the dash in the middle of that one
is not told from the others.

Racks are in order by their position, and members by rack and then ordinal
(`Member.Precedes`); racks listed in order list their members in order
(`Naming.pairwise_members`).
-/

namespace RackOperator

open Text

namespace Text.Decimal

theorem digits_injective {m n : Nat} (h : digits m = digits n) : m = n := by
  have hm := readOn_digits m
  rw [h, readOn_digits n] at hm
  exact (Option.some.inj hm).symm

theorem dash_ne_digit {n : Nat} (h : n < 10) : '-' ≠ digit n := by
  intro he
  have hd := value?_digit h
  rw [← he] at hd
  exact absurd hd (by simp [value?])

/-- No digit is a dash, so a dash in a name stands between its parts. -/
theorem dash_not_mem_digits (n : Nat) : '-' ∉ digits n := by
  induction n using Nat.strongRecOn with
  | ind n ih =>
    rw [digits]
    split
    next h => simpa using dash_ne_digit h
    next h =>
      have hlast := dash_ne_digit (Nat.mod_lt n (by omega : 0 < 10))
      simpa [ih (n / 10) (by omega)] using hlast

theorem natText_injective {m n : Nat} (h : natText m = natText n) : m = n :=
  digits_injective (String.ofList_injective h)

/-- A whole number is told by its text, sign included. Ordinals and generations are written this
way, and a negative count must not be taken for a positive one. -/
theorem signed_injective {i j : Int} (h : signed i = signed j) : i = j := by
  -- A sign stands only in front of a negative number, and no digit is a dash.
  cases i with
  | ofNat m =>
    cases j with
    | ofNat n => rw [digits_injective (show digits m = digits n from h)]
    | negSucc n =>
      have hm : '-' ∈ digits m := by
        rw [show digits m = '-' :: digits (n + 1) from h]
        exact List.mem_cons_self
      exact absurd hm (dash_not_mem_digits m)
  | negSucc m =>
    cases j with
    | ofNat n =>
      have hn : '-' ∈ digits n := by
        rw [show digits n = '-' :: digits (m + 1) from h.symm]
        exact List.mem_cons_self
      exact absurd hn (dash_not_mem_digits n)
    | negSucc n =>
      have hmn := digits_injective (List.cons.inj h).2
      rw [show m = n by omega]

theorem text_injective {i j : Int} (h : text i = text j) : i = j :=
  signed_injective (String.ofList_injective h)

end Text.Decimal

/-- The last dash cuts a text in one way only. Names of pods are taken apart here from the right, as
a stem may have dashes of its own. -/
theorem last_dash_inj {xs ys s t : List Char} (hs : '-' ∉ s) (ht : '-' ∉ t)
    (h : xs ++ '-' :: s = ys ++ '-' :: t) : xs = ys ∧ s = t := by
  -- Were one prefix longer, the other text's dash would stand in a tail that has none.
  rcases List.append_eq_append_iff.mp h with ⟨zs, hy, hz⟩ | ⟨zs, hx, hz⟩
  · cases zs with
    | nil => simp_all
    | cons z zs =>
      have hmem : '-' ∈ s := by
        rw [(List.cons.inj hz).2]
        simp
      exact absurd hmem hs
  · cases zs with
    | nil => simp_all
    | cons z zs =>
      have hmem : '-' ∈ t := by
        rw [(List.cons.inj hz).2]
        simp
      exact absurd hmem ht

namespace Rack

theorem new_name_inj {i j : Nat} (h : (new i).name = (new j).name) : i = j := by
  have hi := Decimal.natText_injective (String.append_right_inj "rack" |>.mp h)
  omega

/-- The racks of a DataCenter are those whose index is below their number. -/
theorem mem_all {n : Nat} {r : Rack} : r ∈ all n ↔ ∃ i < n, r = new i := by
  simp [all, eq_comm]

theorem nodup_all (n : Nat) : (all n).Nodup :=
  List.Nodup.map_on (fun _ _ _ _ h => congrArg Rack.index h) List.nodup_range

theorem new_lt {i j : Nat} (h : i < j) : new i < new j := .inl h

/-- They are listed in order, so the first of a list is the least. -/
theorem pairwise_all (n : Nat) : (all n).Pairwise (· < ·) :=
  List.pairwise_map.mpr (List.pairwise_lt_range.imp new_lt)

theorem not_lt_of_lt {r s : Rack} (h : r < s) : ¬s < r := by
  intro h'
  exact Std.Irrefl.irrefl (r := fun (x y : Rack) => x < y) r (Trans.trans h h')

theorem lt_of_not_lt {r s : Rack} (h : ¬s < r) (hne : r ≠ s) : r < s := by
  by_contra hn
  exact hne (SortedMap.eq_of_not_lt hn h)

theorem not_lt_trans {r s t : Rack} (h : ¬s < r) (h' : ¬t < s) : ¬t < r := by
  intro ht
  by_cases he : r = s
  · exact h' (he ▸ ht)
  · exact h' (Trans.trans ht (lt_of_not_lt h he))

instance : Std.Antisymm (α := Rack) (· < ·) := ⟨fun _ _ h h' => absurd h' (not_lt_of_lt h)⟩

end Rack

namespace Member

/-- Whether a member comes before another within their DataCenter: by rack, then ordinal. -/
def Precedes (a b : Member) : Prop := lexLt (a.rack, a.ordinal) (b.rack, b.ordinal)

instance : Std.Irrefl Precedes := ⟨fun a h => by
  rcases h with h | ⟨-, h⟩
  · exact Rack.not_lt_of_lt h h
  · exact Int.lt_irrefl _ h⟩

instance : Std.Antisymm Precedes := ⟨fun a b h h' => by
  rcases h with h | ⟨he, h⟩ <;> rcases h' with h' | ⟨he', h'⟩
  · exact absurd h' (Rack.not_lt_of_lt h)
  · exact absurd (he' ▸ h) (Rack.not_lt_of_lt (he' ▸ h))
  · exact absurd (he ▸ h') (Rack.not_lt_of_lt (he ▸ h'))
  · exact absurd h' (Int.lt_asymm h)⟩

end Member

namespace Naming

variable {n : Naming} {i j : Nat}

/-- Behind the stem of a DataCenter the name of a StatefulSet is that of its rack. -/
theorem statefulSetName_inj {r s : Rack} :
    n.statefulSetName r = n.statefulSetName s ↔ r.name = s.name := by
  unfold statefulSetName
  rw [String.append_right_inj]

/-- The StatefulSets of a DataCenter's racks have names of their own, so what is found under one is
of one rack. -/
theorem statefulSetName_injOn {c : Nat} {r s : Rack} (hr : r ∈ Rack.all c) (hs : s ∈ Rack.all c)
    (h : n.statefulSetName r = n.statefulSetName s) : r = s := by
  obtain ⟨i, -, rfl⟩ := Rack.mem_all.mp hr
  obtain ⟨j, -, rfl⟩ := Rack.mem_all.mp hs
  rw [Rack.new_name_inj (statefulSetName_inj.mp h)]

/-- The characters of a rack's name. -/
def rackChars (i : Nat) : List Char := "rack".toList ++ Decimal.digits (i + 1)

theorem dash_not_mem_rackChars (i : Nat) : '-' ∉ rackChars i := by
  intro hmem
  rcases List.mem_append.mp hmem with hrack | hdigits
  · revert hrack
    decide
  · exact Decimal.dash_not_mem_digits _ hdigits

theorem rackChars_ne_nil (i : Nat) : rackChars i ≠ [] := by
  simp [rackChars]

theorem rackChars_injective (h : rackChars i = rackChars j) : i = j := by
  have hij := Decimal.digits_injective (List.append_cancel_left h)
  omega

/-- The name of a StatefulSet is a stem, a dash and the name of the rack, the last of which has no
dash. -/
theorem toList_statefulSetName (n : Naming) (i : Nat) :
    (n.statefulSetName (.new i)).toList = n.stem.toList ++ '-' :: rackChars i := by
  simp [statefulSetName, Rack.new, rackChars, Decimal.natText]

/-- The name of a pod is that of its StatefulSet, a dash and its ordinal. -/
theorem toList_podName (n : Naming) (r : Rack) (a : Int) :
    (n.podName r a).toList = (n.statefulSetName r).toList ++ '-' :: Decimal.signed a := by
  simp [podName, Decimal.text]

variable {n' : Naming} {a b : Int}

/-- The name of a StatefulSet says its rack and the stem in front of it. It does not say how the
stem is made up of the names of cluster and DataCenter. -/
theorem statefulSetName_new_inj
    (h : n.statefulSetName (.new i) = n'.statefulSetName (.new j)) : n.stem = n'.stem ∧ i = j := by
  have hl := congrArg String.toList h
  rw [toList_statefulSetName, toList_statefulSetName] at hl
  obtain ⟨hstem, hrack⟩ :=
    last_dash_inj (dash_not_mem_rackChars i) (dash_not_mem_rackChars j) hl
  exact ⟨String.toList_injective hstem, rackChars_injective hrack⟩

/-- The name of a StatefulSet does not end in a dash, so the dash behind it is not mistaken for the
sign of an ordinal. -/
theorem statefulSetName_ne_dash (n : Naming) (i : Nat) (xs : List Char) :
    (n.statefulSetName (.new i)).toList ≠ xs ++ ['-'] := by
  rw [toList_statefulSetName]
  intro h
  exact rackChars_ne_nil i (last_dash_inj (dash_not_mem_rackChars i) List.not_mem_nil h).2

/-- A pod name says its rack, its ordinal and the stem in front of them, for negative ordinals too.
It is cut at its dashes from the end, where neither the ordinal's digits nor the rack has one. -/
theorem podName_new_inj (h : n.podName (.new i) a = n'.podName (.new j) b) :
    n.stem = n'.stem ∧ i = j ∧ a = b := by
  have hl := congrArg String.toList h
  rw [toList_podName, toList_podName] at hl
  -- a minus sign is one more dash, and no StatefulSet's name ends in one
  suffices hs : (n.statefulSetName (.new i)).toList = (n'.statefulSetName (.new j)).toList ∧
      a = b by
    obtain ⟨hstem, hrack⟩ := statefulSetName_new_inj (String.toList_injective hs.1)
    exact ⟨hstem, hrack, hs.2⟩
  have hdigits := Decimal.dash_not_mem_digits
  generalize hx : (n.statefulSetName (.new i)).toList = xs at hl ⊢
  generalize hy : (n'.statefulSetName (.new j)).toList = ys at hl ⊢
  cases a with
  | ofNat a =>
    cases b with
    | ofNat b =>
      obtain ⟨hset, hab⟩ := last_dash_inj (hdigits a) (hdigits b) hl
      exact ⟨hset, congrArg Int.ofNat (Decimal.digits_injective hab)⟩
    | negSucc b =>
      have hl' : xs ++ '-' :: Decimal.digits a =
          (ys ++ ['-']) ++ '-' :: Decimal.digits (b + 1) := by
        simpa [Decimal.signed] using hl
      have hset := (last_dash_inj (hdigits a) (hdigits (b + 1)) hl').1
      exact absurd (hx.trans hset) (statefulSetName_ne_dash n i ys)
  | negSucc a =>
    cases b with
    | ofNat b =>
      have hl' : (xs ++ ['-']) ++ '-' :: Decimal.digits (a + 1) =
          ys ++ '-' :: Decimal.digits b := by
        simpa [Decimal.signed] using hl
      have hset := (last_dash_inj (hdigits (a + 1)) (hdigits b) hl').1
      exact absurd (hy.trans hset.symm) (statefulSetName_ne_dash n' j xs)
    | negSucc b =>
      have hl' : (xs ++ ['-']) ++ '-' :: Decimal.digits (a + 1) =
          (ys ++ ['-']) ++ '-' :: Decimal.digits (b + 1) := by
        simpa [Decimal.signed] using hl
      obtain ⟨hset, hab⟩ := last_dash_inj (hdigits (a + 1)) (hdigits (b + 1)) hl'
      have hnat := Decimal.digits_injective hab
      exact ⟨List.append_cancel_right hset, by rw [show a = b by omega]⟩

/-- A rack has the members of the ordinals below its count, none if that is negative. -/
theorem mem_members {r : Rack} {replicas : Int} {m : Member} :
    m ∈ n.members r replicas ↔ ∃ o : Nat, o < replicas.toNat ∧ m = n.member r o := by
  simp [members, eq_comm]

/-- Racks in order have their members in order, by rack first and by ordinal within one. -/
theorem pairwise_members {counts : List (Rack × Int)} (h : counts.Pairwise fun p q => p.1 < q.1) :
    (counts.flatMap fun p => n.members p.1 p.2).Pairwise Member.Precedes := by
  refine List.pairwise_flatMap.mpr ⟨fun p _ => ?_, h.imp fun {p q} hlt a ha b hb => ?_⟩
  · unfold members
    refine List.pairwise_map.mpr (List.pairwise_lt_range.imp fun {o o'} hlt => .inr ⟨rfl, ?_⟩)
    exact Int.ofNat_lt.mpr hlt
  · obtain ⟨o, -, rfl⟩ := mem_members.mp ha
    obtain ⟨o', -, rfl⟩ := mem_members.mp hb
    exact .inl hlt

/-- No two members of a DataCenter share a pod name, whatever the counts of its racks. A snapshot by
pod name therefore keeps the members apart. -/
theorem nodup_podNames {counts : List (Rack × Int)} {c : Nat}
    (hsub : ∀ p ∈ counts, p.1 ∈ Rack.all c) (hnd : (counts.map (·.1)).Nodup) :
    ((counts.flatMap fun p => n.members p.1 p.2).map (·.name)).Nodup := by
  rw [List.map_flatMap, List.nodup_flatMap]
  refine ⟨fun p hp => ?_, ?_⟩
  -- Within a rack the ordinals tell the pods apart, between racks the rack's name does.
  · obtain ⟨i, -, hi⟩ := Rack.mem_all.mp (hsub p hp)
    rw [hi, members, List.map_map]
    exact List.Nodup.map_on (fun _ _ _ _ h => Int.ofNat.inj (podName_new_inj h).2.2)
      List.nodup_range
  · rw [List.Nodup, List.pairwise_map] at hnd
    refine hnd.imp_of_mem fun {p q} hp hq hne name hname hname' => ?_
    obtain ⟨i, -, hi⟩ := Rack.mem_all.mp (hsub p hp)
    obtain ⟨j, -, hj⟩ := Rack.mem_all.mp (hsub q hq)
    obtain ⟨m, hm, rfl⟩ := List.mem_map.mp hname
    obtain ⟨m', hm', he⟩ := List.mem_map.mp hname'
    obtain ⟨a, -, rfl⟩ := mem_members.mp hm
    obtain ⟨b, -, rfl⟩ := mem_members.mp hm'
    rw [hi, hj] at he
    rw [hi, hj, (podName_new_inj he).2.1] at hne
    exact hne rfl

end Naming

end RackOperator
