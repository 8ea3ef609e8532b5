import Mathlib.Data.List.Nodup
import RackOperator.Manifest
import RackOperator.Proofs.Maps

/-!
# The generation a StatefulSet records

A StatefulSet says in an annotation which generation of its DataCenter it was built from. That
is a number written as text, and read again with blanks around it and a sign in front allowed.
What is written holds no blank (`isBlank_of_mem_signed`) and reads back (`integer?_signed`), so a
StatefulSet that has just been built is never behind (`recordedGeneration_statefulSet`).
-/

namespace RackOperator

open Text

namespace Text

namespace Decimal

/-- Only digits are written. -/
theorem mem_digits {n : Nat} {c : Char} (h : c ∈ digits n) : ∃ d < 10, c = digit d := by
  induction n using Nat.strongRecOn with
  | ind n ih =>
    rw [digits] at h
    split at h
    next hn => exact ⟨n, hn, List.mem_singleton.mp h⟩
    next hn =>
      rcases List.mem_append.mp h with h | h
      · exact ih (n / 10) (by omega) h
      · exact ⟨n % 10, Nat.mod_lt n (by omega), List.mem_singleton.mp h⟩

theorem isBlank_digit {d : Nat} (h : d < 10) : isBlank (digit d) = false := by
  have : ∀ k : Fin 10, isBlank (digit k.val) = false := by decide
  exact this ⟨d, h⟩

/-- A sign is not a digit. -/
theorem sign_ne_digit {d : Nat} (h : d < 10) : '+' ≠ digit d ∧ '-' ≠ digit d := by
  have : ∀ k : Fin 10, '+' ≠ digit k.val ∧ '-' ≠ digit k.val := by decide
  exact this ⟨d, h⟩

theorem isBlank_of_mem_signed {i : Int} {c : Char} (h : c ∈ signed i) : isBlank c = false := by
  cases i with
  | ofNat n =>
    obtain ⟨d, hd, rfl⟩ := mem_digits h
    exact isBlank_digit hd
  | negSucc n =>
    rcases List.mem_cons.mp h with rfl | h
    · rfl
    · obtain ⟨d, hd, rfl⟩ := mem_digits h
      exact isBlank_digit hd

/-- A number that is in range reads back. -/
theorem integer?_signed {least greatest i : Int} (hl : least ≤ i) (hg : i ≤ greatest) :
    integer? least greatest (signed i) = some i := by
  have hkept : (some i).filter (fun i => decide (least ≤ i) && decide (i ≤ greatest)) = some i := by
    rw [Option.filter_some, if_pos]
    exact Bool.and_eq_true_iff.mpr ⟨decide_eq_true hl, decide_eq_true hg⟩
  cases i with
  | ofNat n =>
    refine Eq.trans ?_ hkept
    show integer? least greatest (digits n) = _
    -- there is no sign in front of the digits
    obtain ⟨c, cs, hcs⟩ := List.exists_cons_of_ne_nil (digits_ne_nil n)
    have hread := natural?_digits n
    rw [hcs] at hread ⊢
    obtain ⟨d, hd, rfl⟩ := mem_digits (hcs ▸ List.mem_cons_self : c ∈ digits n)
    obtain ⟨hplus, hminus⟩ := sign_ne_digit hd
    unfold integer?
    split
    next h => exact absurd (List.cons.inj h).1.symm hplus
    next h => exact absurd (List.cons.inj h).1.symm hminus
    next => rw [hread]; rfl
  | negSucc n =>
    refine Eq.trans ?_ hkept
    show (((natural? (digits (n + 1))).map fun n => -(Int.ofNat n)).filter _) = _
    rw [natural?_digits]
    rfl

end Decimal

/-- Text without blanks is not trimmed. -/
theorem trimmed_of_not_blank {cs : List Char} (h : ∀ c ∈ cs, isBlank c = false) :
    trimmed cs = cs := by
  have hdrop : ∀ ds : List Char, (∀ c ∈ ds, isBlank c = false) → dropBlanks ds = ds := by
    intro ds hds
    cases ds with
    | nil => rfl
    | cons c ds =>
      exact List.dropWhile_cons_of_neg (by rw [hds c List.mem_cons_self]; exact Bool.false_ne_true)
  unfold trimmed
  rw [hdrop cs h, hdrop cs.reverse fun c hc => h c (List.mem_reverse.mp hc), List.reverse_reverse]

end Text

/-- A StatefulSet that is built records the generation of its DataCenter. -/
theorem DataCenter.recordedGeneration_statefulSet (dc : DataCenter) (r : Rack) (n : Int32) :
    (dc.statefulSet r n).recordedGeneration = dc.metadata.generation.map Int64.toInt := by
  unfold StatefulSet.recordedGeneration
  show ((dc.metadata.generation.map fun g =>
    SortedMap.ofList [(generationMark, Decimal.text g.toInt)]).bind _).bind _ = _
  cases dc.metadata.generation with
  | none => rfl
  | some g =>
    have hmark : (SortedMap.ofList [(generationMark, Decimal.text g.toInt)]).find? generationMark =
        some (Decimal.text g.toInt) :=
      SortedMap.find?_ofList (by simp) (List.mem_singleton_self _)
    show ((SortedMap.ofList [(generationMark, Decimal.text g.toInt)]).find? generationMark).bind
      _ = _
    rw [hmark, Option.bind_some]
    show Decimal.integer? _ _ (trimmed (String.ofList (Decimal.signed g.toInt)).toList) = _
    rw [String.toList_ofList, trimmed_of_not_blank fun _ => Decimal.isBlank_of_mem_signed]
    exact Decimal.integer?_signed g.le_toInt (Int.le_of_lt_add_one g.toInt_lt)

end RackOperator
