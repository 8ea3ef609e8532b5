import RackOperator.Json.MergePatch
import RackOperator.Json.Record

/-!
# What stands at a name behind a merge patch

A record is read by what occurs under its fields' names. Where no name is given twice, neither
in the object nor in the patch, a merge patch acts on each name by itself:
`occurrences_mergeFields` says what occurs under it then, and is all that later proofs use of
`Json.merge`. A name that the patch does not give keeps what it has.
-/

namespace RackOperator.Json

variable {name other : String} {j : Json} {fields changes : List (String × Json)}

/-- No name is given twice. -/
def Single (fields : List (String × Json)) : Prop :=
  ∀ name, (occurrences name fields).length ≤ 1

/-- What a change makes of what occurs under its name. -/
def changed (old : List Json) : List Json → List Json
  | [] => old
  | .null :: _ => []
  | change :: _ => [merge (old.head?.getD .null) change]

/-- Of a name given several times the last value counts, as it does to a reader of JSON. -/
theorem lastNamed_eq (name : String) (fields : List (String × Json)) :
    lastNamed name fields = (occurrences name fields).getLast? := by
  suffices hs : ∀ found, fields.foldl (fun found p => if p.1 = name then some p.2 else found) found
      = (occurrences name fields).getLast?.or found from (hs none).trans (Option.or_none)
  induction fields with
  | nil => exact fun found => rfl
  | cons p rest ih =>
    intro found
    rw [List.foldl_cons, ih, occurrences_cons]
    by_cases hp : p.1 = name
    · rw [if_pos hp, if_pos hp, List.getLast?_cons]
      cases (occurrences name rest).getLast? <;> rfl
    · rw [if_neg hp, if_neg hp]

theorem Single.lastNamed_eq (hf : Single fields) (name : String) :
    lastNamed name fields = (occurrences name fields).head? := by
  rw [Json.lastNamed_eq]
  match h : occurrences name fields, hf name with
  | [], _ => rfl
  | [_], _ => rfl

theorem Single.nil : Single [] := fun _ => Nat.zero_le 1

theorem Single.tail_eq_nil (hf : Single fields) (name : String) :
    (occurrences name fields).tail = [] :=
  List.eq_nil_of_length_eq_zero (by rw [List.length_tail]; have := hf name; omega)

/-- The name in front is not given again, and no other is given twice. -/
theorem Single.of_cons (hf : Single ((other, j) :: fields)) :
    Single fields ∧ occurrences other fields = [] := by
  refine ⟨fun name => ?_, ?_⟩
  · have hname := hf name
    rw [occurrences_cons] at hname
    split at hname
    · exact Nat.le_of_succ_le hname
    · exact hname
  · have hother := hf other
    rw [occurrences_cons, if_pos rfl, List.length_cons] at hother
    exact List.eq_nil_of_length_eq_zero (by omega)

/-- Setting a field puts its value in the place of the first one of the name, and leaves other
names. -/
theorem occurrences_setField (name other : String) (j : Json) (fields : List (String × Json)) :
    occurrences name (setField other j fields)
      = if other = name then j :: (occurrences name fields).tail else occurrences name fields := by
  induction fields with
  | nil => rw [setField, occurrences_cons, occurrences_nil, List.tail_nil]
  | cons p rest ih =>
    rw [setField]
    by_cases hp : p.1 = other
    · rw [if_pos hp, occurrences_cons, occurrences_cons, hp]
      split <;> rfl
    · rw [if_neg hp, occurrences_cons, ih, occurrences_cons]
      by_cases ho : other = name
      · rw [if_pos ho, if_neg fun he => hp (he.trans ho.symm), if_pos ho,
          if_neg fun he => hp (he.trans ho.symm)]
      · rw [if_neg ho, if_neg ho]

/-- Dropping a field leaves nothing under its name, and leaves other names. -/
theorem occurrences_dropField (name other : String) (fields : List (String × Json)) :
    occurrences name (dropField other fields)
      = if other = name then [] else occurrences name fields := by
  induction fields with
  | nil => exact (ite_self _).symm
  | cons p rest ih =>
    unfold dropField at ih ⊢
    rw [List.filter_cons, occurrences_cons]
    by_cases hp : p.1 = other
    · rw [if_neg (by simpa using hp), ih]
      by_cases ho : other = name
      · rw [if_pos ho, if_pos ho]
      · rw [if_neg ho, if_neg ho, if_neg fun he => ho (hp.symm.trans he)]
    · rw [if_pos (by simpa using hp), occurrences_cons, ih]
      by_cases ho : other = name
      · rw [if_pos ho, if_pos ho, if_neg fun he => hp (he.trans ho.symm)]
      · rw [if_neg ho, if_neg ho]

/-- One change, at its own name and at the others. The induction over a patch goes by this. -/
theorem mergeFields_cons (hf : Single fields) (other : String) (change : Json)
    (rest : List (String × Json)) :
    ∃ fields', mergeFields fields ((other, change) :: rest) = mergeFields fields' rest ∧
      ∀ name, occurrences name fields' =
        if other = name then changed (occurrences name fields) [change]
        else occurrences name fields := by
  -- A null drops the field; anything else is merged into what stands there.
  by_cases hnull : change = .null
  · subst hnull
    refine ⟨dropField other fields, by rw [mergeFields], fun name => ?_⟩
    rw [occurrences_dropField]
    rfl
  · refine ⟨_, mergeFields.eq_3 fields other change rest hnull, fun name => ?_⟩
    rw [occurrences_setField]
    by_cases ho : other = name
    · rw [if_pos ho, if_pos ho, hf.tail_eq_nil, hf.lastNamed_eq, ho]
      cases change <;> first | exact absurd rfl hnull | rfl
    · rw [if_neg ho, if_neg ho]

/-- A change leaves at most one value under a name that had at most one. -/
theorem length_changed_le {old : List Json} (ho : old.length ≤ 1) (change : List Json) :
    (changed old change).length ≤ 1 := by
  unfold changed
  split
  · exact ho
  · exact Nat.zero_le 1
  · exact Nat.le_refl 1

/-- A merge patch acts on each name by itself, so what a reader sees of a patched object can be told
name by name. -/
theorem occurrences_mergeFields (hf : Single fields) (hc : Single changes) (name : String) :
    occurrences name (mergeFields fields changes)
      = changed (occurrences name fields) (occurrences name changes) := by
  induction changes generalizing fields with
  | nil => rw [mergeFields]; rfl
  | cons p rest ih =>
    obtain ⟨other, change⟩ := p
    obtain ⟨hrest, hnone⟩ := hc.of_cons
    obtain ⟨fields', hmerge, hoccurs⟩ := mergeFields_cons hf other change rest
    have hf' : Single fields' := by
      intro name
      rw [hoccurs]
      split
      · exact length_changed_le (hf name) _
      · exact hf name
    rw [hmerge, ih hf' hrest, hoccurs, occurrences_cons]
    by_cases ho : other = name
    · -- the name is not given again, so this change is the last word on it
      rw [if_pos ho, if_pos ho, ← ho, hnone]
      rfl
    · rw [if_neg ho, if_neg ho]

/-- A merge patch gives no name twice, if neither the object nor the patch did. -/
theorem Single.mergeFields (hf : Single fields) (hc : Single changes) :
    Single (mergeFields fields changes) := by
  intro name
  rw [occurrences_mergeFields hf hc]
  exact length_changed_le (hf name) _

/-! ## Slots -/

section Slots

variable {v : Json}

theorem slot?_of_nil (h : occurrences name fields = []) : slot? name fields = some .absent := by
  unfold slot?
  rw [h]

theorem slot?_of_singleton (h : occurrences name fields = [v]) :
    slot? name fields = some (.given v) := by
  unfold slot?
  rw [h]

/-- If the slot of a name can be read at all, a value that occurs under the name is what is in it.
-/
theorem eq_given_of_mem {slot : Slot} (hs : slot? name fields = some slot)
    (hv : v ∈ occurrences name fields) : slot = .given v := by
  unfold slot? at hs
  split at hs
  next h =>
    rw [h] at hv
    cases hv
  next j h =>
    rw [h] at hv
    rw [List.mem_singleton.mp hv]
    exact (Option.some.inj hs).symm
  next => cases hs

theorem mem_occurrences : v ∈ occurrences name fields ↔ (name, v) ∈ fields := by
  unfold occurrences
  simp [List.mem_map, List.mem_filter]

/-- Where no name is given twice the names are all different. -/
theorem Single.nodup (hf : Single fields) : (fields.map (·.1)).Nodup := by
  induction fields with
  | nil => exact .nil
  | cons p rest ih =>
    have hcons : Single ((p.1, p.2) :: rest) := hf
    obtain ⟨hrest, hnone⟩ := hcons.of_cons
    refine List.nodup_cons.mpr ⟨fun hmem => ?_, ih hrest⟩
    obtain ⟨q, hq, he⟩ := List.mem_map.mp hmem
    have hv : q.2 ∈ occurrences p.1 rest := mem_occurrences.mpr (by
      rw [show p.1 = q.1 from he.symm]
      exact hq)
    rw [hnone] at hv
    cases hv

/-- A field that may be left out is written under its own name. -/
theorem names_omitNone (name : String) (j : Option Json) :
    ((omitNone name j).map (·.1)).Sublist [name] := by
  cases j with
  | none => exact List.nil_sublist _
  | some j => exact List.Sublist.refl _

/-- Where all names are different none is given twice. -/
theorem single_of_nodup (h : (fields.map (·.1)).Nodup) : Single fields := by
  induction fields with
  | nil => exact .nil
  | cons p rest ih =>
    obtain ⟨hp, hrest⟩ := List.nodup_cons.mp h
    intro name
    rw [show p :: rest = (p.1, p.2) :: rest from rfl, occurrences_cons]
    split
    next hname =>
      have hnone : occurrences name rest = [] := by
        refine List.eq_nil_iff_forall_not_mem.mpr fun v hv => hp ?_
        exact List.mem_map.mpr ⟨(name, v), mem_occurrences.mp hv, hname.symm⟩
      rw [hnone]
      exact Nat.le_refl 1
    next => exact ih hrest name

/-- A value that is put in place of another stands at its name. Objects are merged and not put, so
they are left out here. -/
theorem slot?_put (hf : Single fields) (hc : Single changes) (hv : occurrences name changes = [v])
    (hput : ∀ target, merge target v = v) (hnull : v ≠ .null) :
    slot? name (mergeFields fields changes) = some (.given v) := by
  refine slot?_of_singleton ?_
  rw [occurrences_mergeFields hf hc, hv]
  unfold changed
  split
  next h => cases h
  next h =>
    cases h
    exact absurd rfl hnull
  next h =>
    cases h
    rw [hput]

/-- Nothing stands at a name that is cleared, since `null` in a patch removes the field. -/
theorem slot?_cleared (hf : Single fields) (hc : Single changes)
    (hv : occurrences name changes = [.null]) :
    slot? name (mergeFields fields changes) = some .absent := by
  refine slot?_of_nil ?_
  rw [occurrences_mergeFields hf hc, hv]
  rfl

/-- What stands at a name that is not given stays, which is why an absent value has to be written as
`null` to take effect. -/
theorem slot?_kept (hf : Single fields) (hc : Single changes) (hv : occurrences name changes = []) :
    slot? name (mergeFields fields changes) = slot? name fields := by
  unfold slot?
  rw [occurrences_mergeFields hf hc, hv]
  rfl

/-- The slots of an object are those of its names, each read by itself. One that cannot be read, as
a name given twice cannot, fails them all. -/
theorem slots?_obj {names : List String} {slots : List Slot} :
    slots? names (.obj fields) = some slots ↔
      names.map (slot? · fields) = slots.map some := by
  show names.mapM (fun name => slot? name fields) = some slots ↔ _
  -- On the names, since the slots are read one by one and the first failure ends the reading.
  induction names generalizing slots with
  | nil =>
    constructor
    · intro h
      cases h
      rfl
    · intro h
      rw [List.map_eq_nil_iff.mp h.symm]
      rfl
  | cons name rest ih =>
    rw [List.mapM_cons]
    simp only [Option.bind_eq_bind, Option.bind_eq_some_iff, Option.pure_def, Option.some.injEq, ih]
    constructor
    · rintro ⟨slot, hslot, slots, hslots, rfl⟩
      rw [List.map_cons, List.map_cons, hslot, hslots]
    · intro h
      cases slots with
      | nil => cases h
      | cons slot slots =>
        obtain ⟨hslot, hslots⟩ := List.cons.inj h
        exact ⟨slot, hslot, slots, hslots, rfl⟩

end Slots

end RackOperator.Json
