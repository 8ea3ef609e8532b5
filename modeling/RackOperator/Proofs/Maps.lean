import Mathlib.Data.List.Induction
import RackOperator.SortedMap

/-!
# Looking things up in a map

`SortedMap.find?_insert` and `find?_erase` say what one write does to a look-up. These are
the writes a program does in one go: a map made of a list of pairs (`find?_ofList`), one
whose values are all changed (`find?_mapWithKey`), and one in which things are put to their
labels (`find?_grouped`). What the look-ups answer is all there is to a map (`ext_find?`).
-/

namespace RackOperator.SortedMap

variable {κ α β : Type} [LT κ] [DecidableEq κ]

@[simp] theorem find?_empty (k : κ) : (empty : SortedMap κ α).find? k = none := rfl

omit [DecidableEq κ] in
theorem eq_empty {m : SortedMap κ α} (h : m.isEmpty = true) : m = {} :=
  ext_entries (List.isEmpty_iff.mp h)

/-- Changing each value by its key changes what is found by the key asked for. -/
theorem find?_mapWithKey (m : SortedMap κ α) (f : κ → α → β) (k : κ) :
    (m.mapWithKey f).find? k = (m.find? k).map (f k) := by
  show lookup k (m.entries.map fun p => (p.1, f p.1 p.2)) = (lookup k m.entries).map (f k)
  induction m.entries with
  | nil => rfl
  | cons p rest ih =>
    rw [List.map_cons, lookup, lookup]
    by_cases h : p.1 = k
    · rw [if_pos h, if_pos h, Option.map_some, h]
    · rw [if_neg h, if_neg h, ih]

theorem find?_map (m : SortedMap κ α) (f : α → β) (k : κ) :
    (m.map f).find? k = (m.find? k).map f :=
  find?_mapWithKey m (fun _ => f) k

section Lists

variable [DecidableLT κ] [Trans (α := κ) (β := κ) (γ := κ) (· < ·) (· < ·) (· < ·)]
  [Std.Irrefl (α := κ) (· < ·)] [Std.Trichotomous (α := κ) (· < ·)]

/-- Pairs put into a map leave the other keys alone. The induction is on the pairs, for every map
they are put into. -/
theorem find?_foldl_insert_of_notMem {pairs : List (κ × α)} {k : κ}
    (h : k ∉ pairs.map (·.1)) (m : SortedMap κ α) :
    (pairs.foldl (fun m p => m.insert p.1 p.2) m).find? k = m.find? k := by
  induction pairs generalizing m with
  | nil => rfl
  | cons p rest ih =>
    rw [List.map_cons, List.mem_cons, not_or] at h
    rw [List.foldl_cons, ih h.2, find?_insert, if_neg fun e => h.1 e.symm]

theorem find?_ofList_of_notMem {pairs : List (κ × α)} {k : κ} (h : k ∉ pairs.map (·.1)) :
    (ofList pairs).find? k = none :=
  find?_foldl_insert_of_notMem h empty

/-- Of pairs with keys of their own each is found again, since none is put over another. -/
theorem find?_ofList {pairs : List (κ × α)} (hnd : (pairs.map (·.1)).Nodup) {k : κ} {a : α}
    (h : (k, a) ∈ pairs) : (ofList pairs).find? k = some a := by
  suffices hs : ∀ m : SortedMap κ α,
      (pairs.foldl (fun m p => m.insert p.1 p.2) m).find? k = some a from hs empty
  intro m
  induction pairs generalizing m with
  | nil => exact absurd h List.not_mem_nil
  | cons p rest ih =>
    rw [List.map_cons, List.nodup_cons] at hnd
    rcases List.mem_cons.mp h with rfl | h
    · rw [List.foldl_cons, find?_foldl_insert_of_notMem hnd.1, find?_insert, if_pos rfl]
    · exact ih hnd.2 h _

/-- What is found in a map made of pairs is one of them, even if several have the key. -/
theorem mem_of_find?_ofList {pairs : List (κ × α)} {k : κ} {a : α}
    (h : (ofList pairs).find? k = some a) : (k, a) ∈ pairs := by
  -- The fold starts anywhere: what is found was in the map before or is in the list.
  suffices hs : ∀ m : SortedMap κ α,
      (pairs.foldl (fun m p => m.insert p.1 p.2) m).find? k = some a →
        m.find? k = some a ∨ (k, a) ∈ pairs by
    exact (hs empty h).resolve_left (by rw [find?_empty]; exact nofun)
  clear h
  induction pairs with
  | nil => exact fun m hm => .inl hm
  | cons p rest ih =>
    intro m hm
    rcases ih _ hm with hp | hrest
    · rw [find?_insert] at hp
      split at hp
      next he =>
        subst he
        rw [← Option.some.inj hp]
        exact .inr List.mem_cons_self
      next => exact .inl hp
    · exact .inr (List.mem_cons_of_mem _ hrest)

/-- A key that stands in some pair is found, with the value of one of the pairs that have it. -/
theorem isSome_find?_ofList {pairs : List (κ × α)} {k : κ} (h : k ∈ pairs.map (·.1)) :
    ((ofList pairs).find? k).isSome := by
  -- From the end of the list, since the last write decides.
  induction pairs using List.reverseRecOn with
  | nil => exact absurd h List.not_mem_nil
  | append_singleton pairs p ih =>
    have hlast : ofList (pairs ++ [p]) = (ofList pairs).insert p.1 p.2 := by
      unfold ofList
      rw [List.foldl_append]
      rfl
    rw [hlast, find?_insert]
    split
    next => rfl
    next hne =>
      rw [List.map_append] at h
      rcases List.mem_append.mp h with h | h
      · exact ih h
      · exact absurd (List.mem_singleton.mp h).symm hne

/-- Where the pairs of a key all say the same, that is what is found, however often the key occurs.
-/
theorem find?_ofList_of_forall {pairs : List (κ × α)} {k : κ} {a : α} (h : (k, a) ∈ pairs)
    (hall : ∀ b, (k, b) ∈ pairs → b = a) : (ofList pairs).find? k = some a := by
  obtain ⟨b, hb⟩ := Option.isSome_iff_exists.mp
    (isSome_find?_ofList (List.mem_map_of_mem (f := (·.1)) h))
  rw [hb, hall b (mem_of_find?_ofList hb)]

omit [Trans (α := κ) (β := κ) (γ := κ) (· < ·) (· < ·) (· < ·)]
  [Std.Trichotomous (α := κ) (· < ·)] [DecidableLT κ] [DecidableEq κ] in
theorem nodup_entries (m : SortedMap κ α) : m.entries.Nodup :=
  m.increasing.imp fun {p q} hlt he => by
    rw [he] at hlt
    exact Std.Irrefl.irrefl (r := fun (x y : κ) => x < y) q.1 hlt

omit [Trans (α := κ) (β := κ) (γ := κ) (· < ·) (· < ·) (· < ·)]
  [Std.Trichotomous (α := κ) (· < ·)] [DecidableLT κ] [DecidableEq κ] in
theorem nodup_keys (m : SortedMap κ α) : m.keys.Nodup := by
  refine List.pairwise_map.mpr (m.increasing.imp fun {p q} hlt he => ?_)
  rw [he] at hlt
  exact Std.Irrefl.irrefl (r := fun (x y : κ) => x < y) q.1 hlt

omit [Trans (α := κ) (β := κ) (γ := κ) (· < ·) (· < ·) (· < ·)]
  [Std.Trichotomous (α := κ) (· < ·)] [DecidableLT κ] in
theorem mem_keys {m : SortedMap κ α} {k : κ} : k ∈ m.keys ↔ ∃ a, m.find? k = some a := by
  constructor
  · intro h
    obtain ⟨p, hp, rfl⟩ := List.mem_map.mp h
    exact ⟨p.2, lookup_eq_some m.increasing hp⟩
  · rintro ⟨a, h⟩
    exact List.mem_map_of_mem (mem_of_lookup h)

omit [Trans (α := κ) (β := κ) (γ := κ) (· < ·) (· < ·) (· < ·)]
  [Std.Trichotomous (α := κ) (· < ·)] [DecidableLT κ] in
theorem mem_values {m : SortedMap κ α} {a : α} : a ∈ m.values ↔ ∃ k, m.find? k = some a := by
  constructor
  · intro h
    obtain ⟨p, hp, rfl⟩ := List.mem_map.mp h
    exact ⟨p.1, lookup_eq_some m.increasing hp⟩
  · rintro ⟨k, h⟩
    exact List.mem_map_of_mem (mem_of_lookup h)

omit [Std.Trichotomous (α := κ) (· < ·)] [DecidableLT κ] in
/-- Maps that answer every look-up alike are equal, since the entries are in the order of their
keys. -/
theorem ext_find? {m m' : SortedMap κ α} (h : ∀ k, m.find? k = m'.find? k) : m = m' := by
  have hmem : ∀ p, p ∈ m.entries ↔ p ∈ m'.entries := fun p =>
    ⟨fun hp => mem_of_lookup ((h p.1).symm.trans (lookup_eq_some m.increasing hp)),
      fun hp => mem_of_lookup ((h p.1).trans (lookup_eq_some m'.increasing hp))⟩
  have hperm : m.entries.Perm m'.entries :=
    (List.perm_ext_iff_of_nodup m.nodup_entries m'.nodup_entries).mpr hmem
  -- two lists of the same pairs, both in order
  refine ext_entries (hperm.eq_of_pairwise (fun p q _ _ hpq hqp => ?_) m.increasing m'.increasing)
  have hpp : p.1 < p.1 := Trans.trans hpq hqp
  exact absurd hpp (Std.Irrefl.irrefl (r := fun (x y : κ) => x < y) p.1)

theorem isEmpty_insert (m : SortedMap κ α) (k : κ) (a : α) : (m.insert k a).isEmpty = false := by
  refine Bool.eq_false_iff.mpr fun he => ?_
  have hfound := find?_insert m k k a
  rw [if_pos rfl, eq_empty he] at hfound
  cases hfound

/-- Of two values given to one key the later one stays, and nothing is left of the first. -/
theorem insert_insert (m : SortedMap κ α) (k : κ) (a b : α) :
    (m.insert k a).insert k b = m.insert k b := by
  refine ext_find? fun k' => ?_
  rw [find?_insert, find?_insert, find?_insert]
  split <;> rfl

/-- A value given to a key that has it already changes nothing, not even the order of entries. -/
theorem insert_same {m : SortedMap κ α} {k : κ} {a : α} (h : m.find? k = some a) :
    m.insert k a = m := by
  refine ext_find? fun k' => ?_
  rw [find?_insert]
  split
  next hk => rw [← hk, h]
  next => rfl

theorem map_insert (m : SortedMap κ α) (f : α → β) (k : κ) (a : α) :
    (m.insert k a).map f = (m.map f).insert k (f a) := by
  refine ext_find? fun k' => ?_
  rw [find?_map, find?_insert, find?_insert, find?_map]
  split <;> rfl

omit [Std.Trichotomous (α := κ) (· < ·)] [DecidableLT κ] in
theorem map_erase (m : SortedMap κ α) (f : α → β) (k : κ) :
    (m.erase k).map f = (m.map f).erase k := by
  refine ext_find? fun k' => ?_
  rw [find?_map, find?_erase, find?_erase, find?_map]
  split <;> rfl

/-- A value pushed under a key comes behind those there are under it. -/
theorem find?_push (m : SortedMap κ (List α)) (k j : κ) (a : α) :
    (m.push k a).find? j = if k = j then some ((m.find? j).getD [] ++ [a]) else m.find? j := by
  rw [push, find?_insert]
  split
  next h => rw [h]
  next => rfl

omit [Std.Irrefl (α := κ) (· < ·)] in
/-- One more thing is grouped by putting its value behind those of its label. -/
theorem grouped_concat (label : α → κ) (value : α → β) (things : List α) (a : α) :
    grouped label value (things ++ [a]) =
      (grouped label value things).push (label a) (value a) := by
  unfold grouped
  rw [List.foldl_append]
  rfl

/-- Under a label that something has are the values of all that have it, in their order. A label
that nothing has is not there at all. -/
theorem find?_grouped (label : α → κ) (value : α → β) (things : List α) (k : κ) :
    (grouped label value things).find? k =
      if (things.filter fun a => label a = k) = [] then none
      else some ((things.filter fun a => label a = k).map value) := by
  induction things using List.reverseRecOn with
  | nil => rfl
  | append_singleton things a ih =>
    rw [grouped_concat, find?_push, ih, List.filter_append]
    by_cases h : label a = k
    · by_cases hfirst : (things.filter fun a => label a = k) = []
      · simp [h, hfirst]
      · simp [h, hfirst]
    · simp [h]

theorem getD_find?_grouped (label : α → κ) (value : α → β) (things : List α) (k : κ) :
    ((grouped label value things).find? k).getD [] =
      (things.filter fun a => label a = k).map value := by
  rw [find?_grouped]
  split
  next hnone => rw [hnone]; rfl
  next => rfl

end Lists

end RackOperator.SortedMap
