/-!
# Maps kept in key order

A `SortedMap` is a list of pairs with strictly increasing keys. Two maps that
answer every look-up alike are equal (`SortedMap.ext_find?`), so a map can be
compared, written and read back without a choice of order. `find?_insert` and
`find?_erase` say what the two writers do to a look-up.
-/

namespace RackOperator

/-- Pairs in strictly increasing order of their keys. -/
structure SortedMap (κ : Type) (α : Type) [LT κ] where
  entries : List (κ × α)
  increasing : entries.Pairwise (fun a b => a.1 < b.1)

namespace SortedMap

variable {κ α β : Type} [LT κ]

/-- Maps with the same entries are equal, as their order is a matter of proof. -/
theorem ext_entries {m m' : SortedMap κ α} (h : m.entries = m'.entries) : m = m' := by
  cases m; cases m'; simp_all

instance [DecidableEq κ] [DecidableEq α] : DecidableEq (SortedMap κ α) := fun m m' =>
  if h : m.entries = m'.entries then .isTrue (ext_entries h)
  else .isFalse fun e => h (e ▸ rfl)

/-- The map without entries. -/
def empty : SortedMap κ α := ⟨[], .nil⟩

instance : EmptyCollection (SortedMap κ α) := ⟨empty⟩
instance : Inhabited (SortedMap κ α) := ⟨empty⟩

/-- Whether the map has no entry. -/
def isEmpty (m : SortedMap κ α) : Bool := m.entries.isEmpty

/-- Number of entries. -/
def size (m : SortedMap κ α) : Nat := m.entries.length

/-- The keys in increasing order. -/
def keys (m : SortedMap κ α) : List κ := m.entries.map (·.1)

/-- The values in the order of their keys. -/
def values (m : SortedMap κ α) : List α := m.entries.map (·.2)

/-- The value of a key in a list of pairs. -/
def lookup {κ α : Type} [DecidableEq κ] (k : κ) : List (κ × α) → Option α
  | [] => none
  | p :: rest => if p.1 = k then some p.2 else lookup k rest

/-- The value of a key. -/
def find? [DecidableEq κ] (m : SortedMap κ α) (k : κ) : Option α := lookup k m.entries

/-- Whether a key has a value. -/
def contains [DecidableEq κ] (m : SortedMap κ α) (k : κ) : Bool := (m.find? k).isSome

/-- Put a pair where its key belongs, in place of the pair of the same key. -/
def place [DecidableLT κ] (k : κ) (a : α) : List (κ × α) → List (κ × α)
  | [] => [(k, a)]
  | p :: rest =>
    if k < p.1 then (k, a) :: p :: rest
    else if p.1 < k then p :: place k a rest
    else (k, a) :: rest

/-- Placing a pair brings in that pair and no other. -/
theorem mem_place [DecidableLT κ] {k : κ} {a : α} {l : List (κ × α)} {q : κ × α}
    (h : q ∈ place k a l) : q = (k, a) ∨ q ∈ l := by
  induction l with
  | nil => simpa [place] using h
  | cons p rest ih =>
    unfold place at h
    split at h
    · simpa using h
    · split at h
      · rcases List.mem_cons.1 h with h | h
        · exact .inr (by simp [h])
        · rcases ih h with h | h
          · exact .inl h
          · exact .inr (by simp [h])
      · rcases List.mem_cons.1 h with h | h
        · exact .inl h
        · exact .inr (by simp [h])

theorem eq_of_not_lt [Std.Trichotomous (α := κ) (· < ·)] {a b : κ} (h : ¬a < b) (h' : ¬b < a) :
    a = b :=
  Std.Trichotomous.trichotomous (r := fun (x y : κ) => x < y) a b h h'

/-- A pair is placed where the keys stay in order, which is what lets it be part of a map. -/
theorem pairwise_place [DecidableLT κ] [Trans (α := κ) (β := κ) (γ := κ) (· < ·) (· < ·) (· < ·)]
    [Std.Trichotomous (α := κ) (· < ·)] {k : κ} {a : α} {l : List (κ × α)}
    (h : l.Pairwise (fun a b => a.1 < b.1)) : (place k a l).Pairwise (fun a b => a.1 < b.1) := by
  -- The same three cases as in `place`: before the head, behind it, or in its stead.
  induction l with
  | nil => simp [place]
  | cons p rest ih =>
    have hp := List.pairwise_cons.1 h
    unfold place
    split
    · next hk =>
      refine List.pairwise_cons.2 ⟨fun q hq => ?_, h⟩
      rcases List.mem_cons.1 hq with rfl | hq
      · exact hk
      · exact Trans.trans hk (hp.1 q hq)
    · next hk =>
      split
      · next hk' =>
        refine List.pairwise_cons.2 ⟨fun q hq => ?_, ih hp.2⟩
        rcases mem_place hq with rfl | hq
        · exact hk'
        · exact hp.1 q hq
      · next hk' =>
        have : p.1 = k := eq_of_not_lt hk' hk
        refine List.pairwise_cons.2 ⟨fun q hq => ?_, hp.2⟩
        have := hp.1 q hq
        simp_all

-- most keys are strings: what a map needs of their order, whatever order theory is in scope
instance : Trans (α := String) (β := String) (γ := String) (· < ·) (· < ·) (· < ·) :=
  ⟨String.lt_trans⟩

instance : Std.Irrefl (α := String) (· < ·) := ⟨String.lt_irrefl⟩

instance : Std.Trichotomous (α := String) (· < ·) :=
  ⟨fun _ _ h h' => String.le_antisymm (String.not_lt.mp h') (String.not_lt.mp h)⟩

-- and some are yes or no
instance : Trans (α := Bool) (β := Bool) (γ := Bool) (· < ·) (· < ·) (· < ·) := ⟨Bool.lt_trans⟩

instance : Std.Irrefl (α := Bool) (· < ·) := ⟨Bool.lt_irrefl⟩

instance : Std.Trichotomous (α := Bool) (· < ·) := ⟨by decide⟩

/-- Give a key a value, in place of the one it had. -/
def insert [DecidableLT κ] [Trans (α := κ) (β := κ) (γ := κ) (· < ·) (· < ·) (· < ·)]
    [Std.Trichotomous (α := κ) (· < ·)] (m : SortedMap κ α) (k : κ) (a : α) : SortedMap κ α :=
  ⟨place k a m.entries, pairwise_place m.increasing⟩

/-- A map of pairs; of two pairs with one key the later one stays. -/
def ofList [DecidableLT κ] [Trans (α := κ) (β := κ) (γ := κ) (· < ·) (· < ·) (· < ·)]
    [Std.Trichotomous (α := κ) (· < ·)] (pairs : List (κ × α)) : SortedMap κ α :=
  pairs.foldl (fun m p => m.insert p.1 p.2) empty

/-- Put something at the end of the list of a key. -/
def push [DecidableEq κ] [DecidableLT κ]
    [Trans (α := κ) (β := κ) (γ := κ) (· < ·) (· < ·) (· < ·)] [Std.Trichotomous (α := κ) (· < ·)]
    (m : SortedMap κ (List α)) (k : κ) (a : α) : SortedMap κ (List α) :=
  m.insert k ((m.find? k).getD [] ++ [a])

/-- Things by a label, in one walk: the value of each goes to the end of its label's list. -/
def grouped [DecidableEq κ] [DecidableLT κ]
    [Trans (α := κ) (β := κ) (γ := κ) (· < ·) (· < ·) (· < ·)] [Std.Trichotomous (α := κ) (· < ·)]
    (label : α → κ) (value : α → β) (things : List α) : SortedMap κ (List β) :=
  things.foldl (fun m a => m.push (label a) (value a)) empty

/-- The key just placed answers the new value, every other key what it did before. -/
theorem lookup_place [DecidableEq κ] [DecidableLT κ] [Std.Irrefl (α := κ) (· < ·)]
    [Std.Trichotomous (α := κ) (· < ·)] (k j : κ) (a : α)
    (l : List (κ × α)) (h : l.Pairwise (fun a b => a.1 < b.1)) :
    lookup j (place k a l) = if k = j then some a else lookup j l := by
  induction l with
  | nil => simp [place, lookup]
  | cons p rest ih =>
    have hp := List.pairwise_cons.1 h
    unfold place
    split
    · simp [lookup]
    · next hk =>
      split
      · next hk' =>
        simp only [lookup, ih hp.2]
        by_cases h1 : p.1 = j <;> by_cases h2 : k = j <;> simp [h1, h2]
        subst h1 h2
        exact absurd hk' (Std.Irrefl.irrefl (r := fun (x y : κ) => x < y) _)
      · next hk' =>
        have e : p.1 = k := eq_of_not_lt hk' hk
        by_cases h2 : k = j <;> simp [lookup, e, h2]

/-- A written key answers its value, every other key what it did before. -/
theorem find?_insert [DecidableEq κ] [DecidableLT κ]
    [Trans (α := κ) (β := κ) (γ := κ) (· < ·) (· < ·) (· < ·)] [Std.Irrefl (α := κ) (· < ·)]
    [Std.Trichotomous (α := κ) (· < ·)] (m : SortedMap κ α) (k j : κ)
    (a : α) : (m.insert k a).find? j = if k = j then some a else m.find? j :=
  lookup_place k j a m.entries m.increasing

/-- Drop the pairs whose key fails a test. -/
def filterKeys (m : SortedMap κ α) (keep : κ → Bool) : SortedMap κ α :=
  ⟨m.entries.filter fun p => keep p.1, m.increasing.filter _⟩

/-- Take a key away. -/
def erase [DecidableEq κ] (m : SortedMap κ α) (k : κ) : SortedMap κ α :=
  m.filterKeys fun j => decide (j ≠ k)

/-- Change every value. -/
def map (m : SortedMap κ α) (f : α → β) : SortedMap κ β :=
  ⟨m.entries.map fun p => (p.1, f p.2), by
    simpa [List.pairwise_map] using m.increasing⟩

/-- Change every value, given its key. -/
def mapWithKey (m : SortedMap κ α) (f : κ → α → β) : SortedMap κ β :=
  ⟨m.entries.map fun p => (p.1, f p.1 p.2), by
    simpa [List.pairwise_map] using m.increasing⟩

theorem lookup_filter {κ α : Type} [DecidableEq κ] (keep : κ → Bool) (j : κ) (l : List (κ × α)) :
    lookup j (l.filter fun p => keep p.1) = if keep j then lookup j l else none := by
  induction l with
  | nil => simp [lookup]
  | cons p rest ih =>
    by_cases hp : keep p.1 = true
    · by_cases hj : p.1 = j
      · simp [lookup, hp, ← hj]
      · simp [lookup, hp, hj, ih]
    · by_cases hj : p.1 = j
      · simp_all
      · simp [lookup, hp, hj, ih]

/-- A key that is kept has its value, and one that is not kept has none. -/
theorem find?_filterKeys [DecidableEq κ] (m : SortedMap κ α) (keep : κ → Bool) (j : κ) :
    (m.filterKeys keep).find? j = if keep j then m.find? j else none :=
  lookup_filter keep j m.entries

/-- An erased key has no value; the others keep theirs. -/
theorem find?_erase [DecidableEq κ] (m : SortedMap κ α) (k j : κ) :
    (m.erase k).find? j = if j = k then none else m.find? j := by
  rw [erase, find?_filterKeys]
  by_cases h : j = k <;> simp [h]

theorem lookup_eq_some [DecidableEq κ] [Std.Irrefl (α := κ) (· < ·)] {k : κ} {a : α}
    {l : List (κ × α)} (h : l.Pairwise (fun a b => a.1 < b.1)) (hm : (k, a) ∈ l) :
    lookup k l = some a := by
  induction l with
  | nil => simp at hm
  | cons p rest ih =>
    have hp := List.pairwise_cons.1 h
    rcases List.mem_cons.1 hm with rfl | hm
    · simp [lookup]
    · have hlt := hp.1 _ hm
      have : p.1 ≠ k := fun e =>
        absurd hlt (e ▸ Std.Irrefl.irrefl (r := fun (x y : κ) => x < y) _)
      simp [lookup, this, ih hp.2 hm]

theorem mem_of_lookup {κ α : Type} [DecidableEq κ] {k : κ} {a : α} {l : List (κ × α)}
    (h : lookup k l = some a) : (k, a) ∈ l := by
  induction l with
  | nil => simp [lookup] at h
  | cons p rest ih =>
    unfold lookup at h
    split at h
    · next e => cases p; simp_all
    · exact List.mem_cons_of_mem _ (ih h)

end SortedMap

end RackOperator
