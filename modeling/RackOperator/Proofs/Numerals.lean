import Mathlib.Data.List.TakeWhile
import Mathlib.Data.Nat.Digits.Defs
import RackOperator.Config
import RackOperator.Proofs.Generations

/-!
# Numbers and names in text

What stands in a variable or an annotation is read without the blanks around it. `trim_eq_iff` says
what is left: a text with no blank at either end, that the other has blanks around.

`Denotes s n` is a text's own meaning as a number, whoever reads it: its decimal digits, leading
zeros allowed, behind a plus sign or none, with blanks around. A reader takes the numbers that are
in its range and nothing else (`number?_eq_some_iff`, `positive?_eq_some_iff`).
-/

namespace RackOperator

namespace Text

/-! ## Blanks -/

/-- A text of nothing but blanks. -/
structure Blanks where
  text : String
  blank : isAllBlank text = true

theorem Blanks.isBlank_of_mem (b : Blanks) : ∀ c ∈ b.text.toList, isBlank c = true :=
  List.all_eq_true.mp b.blank

/-- Blank characters as a text. -/
def Blanks.ofList (cs : List Char) (h : ∀ c ∈ cs, isBlank c = true) : Blanks where
  text := .ofList cs
  blank := by
    unfold isAllBlank
    rw [String.toList_ofList]
    exact List.all_eq_true.mpr h

/-- Blanks in front of a text are dropped with the blanks the text starts with. -/
theorem dropBlanks_append {blanks : List Char} (h : ∀ c ∈ blanks, isBlank c = true)
    (cs : List Char) : dropBlanks (blanks ++ cs) = dropBlanks cs :=
  List.dropWhile_append_of_pos h

theorem dropBlanks_of_head {cs : List Char} (h : ∀ c ∈ cs.head?, isBlank c = false) :
    dropBlanks cs = cs := by
  cases cs with
  | nil => rfl
  | cons c cs => exact List.dropWhile_cons_of_neg (by rw [h c rfl]; exact Bool.false_ne_true)

theorem head_dropBlanks {cs : List Char} : ∀ c ∈ (dropBlanks cs).head?, isBlank c = false := by
  intro c hc
  have hfirst := List.head?_dropWhile_not isBlank cs
  rwa [show (cs.dropWhile isBlank).head? = some c from hc] at hfirst

/-- What is dropped is blank, and nothing else is dropped. -/
theorem exists_dropBlanks (cs : List Char) :
    ∃ blanks, (∀ c ∈ blanks, isBlank c = true) ∧ cs = blanks ++ dropBlanks cs :=
  ⟨cs.takeWhile isBlank, fun _ => List.mem_takeWhile_imp, List.takeWhile_append_dropWhile.symm⟩

/-- Blanks around a text are trimmed with the text's own, so it does not matter how many there are.
-/
theorem trimmed_append {before behind : List Char} (hbefore : ∀ c ∈ before, isBlank c = true)
    (hbehind : ∀ c ∈ behind, isBlank c = true) (cs : List Char) :
    trimmed (before ++ cs ++ behind) = trimmed cs := by
  unfold trimmed
  rw [List.append_assoc, dropBlanks_append hbefore]
  by_cases hcs : dropBlanks cs = []
  · -- nothing but blanks: they run into those behind
    rw [dropBlanks_append (dropBlanks_eq_nil_iff.mp hcs), hcs, dropBlanks_eq_nil_iff.mpr hbehind]
  · have hkept : dropBlanks (cs ++ behind) = dropBlanks cs ++ behind := by
      unfold dropBlanks at hcs ⊢
      rw [List.dropWhile_append, if_neg (mt List.isEmpty_iff.mp hcs)]
    rw [hkept, List.reverse_append,
      dropBlanks_append fun c hc => hbehind c (List.mem_reverse.mp hc)]

/-- A text that ends in no blank, and starts with none, is not trimmed. -/
theorem trimmed_of_ends {cs : List Char} (hfront : ∀ c ∈ cs.head?, isBlank c = false)
    (hback : ∀ c ∈ cs.getLast?, isBlank c = false) : trimmed cs = cs := by
  unfold trimmed
  rw [dropBlanks_of_head hfront, dropBlanks_of_head (by rwa [List.head?_reverse]),
    List.reverse_reverse]

theorem getLast_trimmed {cs : List Char} : ∀ c ∈ (trimmed cs).getLast?, isBlank c = false := by
  unfold trimmed
  rw [List.getLast?_reverse]
  exact head_dropBlanks

theorem head_trimmed {cs : List Char} : ∀ c ∈ (trimmed cs).head?, isBlank c = false := by
  unfold trimmed
  rw [List.head?_reverse]
  intro c hc
  -- what is left of a text starts where the text does
  have hfirst : (dropBlanks cs).head? = some c := by
    obtain ⟨blanks, -, he⟩ := exists_dropBlanks (dropBlanks cs).reverse
    rw [← List.getLast?_reverse, he, List.getLast?_append, hc]
    rfl
  exact head_dropBlanks c hfirst

/-- What is trimmed is blank, in front and behind. -/
theorem exists_trimmed (cs : List Char) :
    ∃ before behind, (∀ c ∈ before, isBlank c = true) ∧ (∀ c ∈ behind, isBlank c = true) ∧
      cs = before ++ trimmed cs ++ behind := by
  obtain ⟨before, hbefore, he⟩ := exists_dropBlanks cs
  obtain ⟨behind, hbehind, he'⟩ := exists_dropBlanks (dropBlanks cs).reverse
  refine ⟨before, behind.reverse, hbefore, fun c hc => hbehind c (List.mem_reverse.mp hc), ?_⟩
  calc
    cs = before ++ dropBlanks cs := he
    _ = before ++ (dropBlanks cs).reverse.reverse := by rw [List.reverse_reverse]
    _ = before ++ (trimmed cs ++ behind.reverse) := by
      conv_lhs => rw [he', List.reverse_append]
      rfl
    _ = before ++ trimmed cs ++ behind.reverse := (List.append_assoc ..).symm

/-- A text without the blanks at its ends. -/
structure Trims (s t : String) : Prop where
  around : ∃ before behind : Blanks, s = before.text ++ t ++ behind.text
  front : ∀ c ∈ t.toList.head?, isBlank c = false
  back : ∀ c ∈ t.toList.getLast?, isBlank c = false

theorem toList_around (before behind : Blanks) (t : String) :
    (before.text ++ t ++ behind.text).toList =
      before.text.toList ++ t.toList ++ behind.text.toList := by
  rw [String.toList_append, String.toList_append]

/-- A text is trimmed to another exactly if it is that one with blanks around it, and that one has
none at its ends. -/
theorem trim_eq_iff {s t : String} : trim s = t ↔ Trims s t := by
  constructor
  · rintro rfl
    have ht : (trim s).toList = trimmed s.toList := String.toList_ofList
    obtain ⟨before, behind, hbefore, hbehind, he⟩ := exists_trimmed s.toList
    refine ⟨⟨.ofList before hbefore, .ofList behind hbehind, ?_⟩,
      by rw [ht]; exact head_trimmed, by rw [ht]; exact getLast_trimmed⟩
    refine String.toList_injective ?_
    rw [toList_around, ht]
    show _ = (String.ofList before).toList ++ _ ++ (String.ofList behind).toList
    rw [String.toList_ofList, String.toList_ofList]
    exact he
  · rintro ⟨⟨before, behind, rfl⟩, hfront, hback⟩
    unfold trim
    rw [toList_around, trimmed_append before.isBlank_of_mem behind.isBlank_of_mem,
      trimmed_of_ends hfront hback, String.ofList_toList]

/-! ## Digits -/

namespace Decimal

/-- A character counts as a digit exactly if it is one of the ten. -/
theorem value?_eq_some_iff {c : Char} {d : Nat} : value? c = some d ↔ d < 10 ∧ c = digit d := by
  constructor
  · intro h
    unfold value? at h
    split at h
    next hc =>
      obtain rfl := Option.some.inj h
      refine ⟨by omega, ?_⟩
      unfold digit
      rw [Nat.add_sub_cancel' hc.1]
      exact (Char.ofNat_toNat c).symm
    next => cases h
  · rintro ⟨hd, rfl⟩
    exact value?_digit hd

/-- Digits as they are written. -/
def written (ds : List (Fin 10)) : List Char := ds.map fun d : Fin 10 => digit d.val

/-- The number that digits stand for, the most significant first. -/
def worth (ds : List (Fin 10)) : Nat := Nat.ofDigits 10 (ds.map Fin.val).reverse

/-- Each digit counts ten times what comes behind it, which is what the reader's fold from the left
adds up to. -/
theorem worth_eq_foldl (ds : List (Fin 10)) :
    worth ds = ds.foldl (fun acc d => acc * 10 + d.val) 0 := by
  unfold worth
  rw [Nat.ofDigits_eq_foldr, List.foldr_reverse, List.foldl_map]
  congr 1
  funext acc d
  show d.val + 10 * acc = acc * 10 + d.val
  omega

/-- Reading goes on exactly through digits. The induction is on the characters, for any sum read so
far. -/
theorem readOn_eq_some_iff {acc n : Nat} {cs : List Char} :
    readOn acc cs = some n ↔
      ∃ ds, cs = written ds ∧ ds.foldl (fun acc d => acc * 10 + d.val) acc = n := by
  -- The value read so far changes with every digit.
  induction cs generalizing acc with
  | nil =>
    constructor
    · intro h
      exact ⟨[], rfl, Option.some.inj h⟩
    · rintro ⟨ds, hds, rfl⟩
      obtain rfl := List.map_eq_nil_iff.mp hds.symm
      rfl
  | cons c cs ih =>
    constructor
    · intro h
      obtain ⟨d, hd, hrest⟩ := Option.bind_eq_some_iff.mp h
      obtain ⟨hlt, rfl⟩ := value?_eq_some_iff.mp hd
      obtain ⟨ds, rfl, hds⟩ := ih.mp hrest
      exact ⟨⟨d, hlt⟩ :: ds, rfl, hds⟩
    · rintro ⟨_ | ⟨d, ds⟩, hds, hn⟩
      · cases hds
      · obtain ⟨rfl, rfl⟩ := List.cons.inj hds
        exact Option.bind_eq_some_iff.mpr ⟨d, value?_digit d.isLt, ih.mpr ⟨ds, rfl, hn⟩⟩

/-- A natural number is read from one digit or more, leading zeros included. -/
theorem natural?_eq_some_iff {cs : List Char} {n : Nat} :
    natural? cs = some n ↔ ∃ ds, ds ≠ [] ∧ cs = written ds ∧ worth ds = n := by
  cases cs with
  | nil =>
    refine ⟨fun h => (nomatch h), ?_⟩
    rintro ⟨ds, hne, hds, -⟩
    exact absurd (List.map_eq_nil_iff.mp hds.symm) hne
  | cons c cs =>
    refine readOn_eq_some_iff.trans ⟨?_, ?_⟩
    · rintro ⟨ds, hds, hn⟩
      refine ⟨ds, ?_, hds, (worth_eq_foldl ds).trans hn⟩
      rintro rfl
      cases hds
    · rintro ⟨ds, -, hds, hn⟩
      exact ⟨ds, hds, (worth_eq_foldl ds).symm.trans hn⟩

end Decimal

/-! ## Numerals -/

/-- A number as it may stand in a text. -/
structure Numeral where
  before : Blanks
  plus : Bool
  digits : List (Fin 10)
  nonempty : digits ≠ []
  behind : Blanks

namespace Numeral

/-- The digits, behind a sign if there is one. -/
def core (x : Numeral) : List Char :=
  (if x.plus then ['+'] else []) ++ Decimal.written x.digits

/-- The whole text. -/
def text (x : Numeral) : String := x.before.text ++ .ofList x.core ++ x.behind.text

/-- The number. -/
def value (x : Numeral) : Nat := Decimal.worth x.digits

theorem isBlank_of_mem_core {x : Numeral} {c : Char} (h : c ∈ x.core) : isBlank c = false := by
  rcases List.mem_append.mp h with h | h
  · split at h
    · obtain rfl := List.mem_singleton.mp h
      rfl
    · cases h
  · obtain ⟨d, -, rfl⟩ := List.mem_map.mp h
    exact Decimal.isBlank_digit d.isLt

/-- A numeral with blanks around it is trimmed to its sign and digits. -/
theorem trimmed_text (x : Numeral) : trimmed x.text.toList = x.core := by
  unfold text
  rw [toList_around, trimmed_append x.before.isBlank_of_mem x.behind.isBlank_of_mem,
    String.toList_ofList, trimmed_of_not_blank fun _ => isBlank_of_mem_core]

end Numeral

/-- A text says a number. -/
def Denotes (s : String) (n : Nat) : Prop := ∃ x : Numeral, x.text = s ∧ x.value = n

/-- A reader of numbers up to a greatest one takes the digits behind one plus sign or none, and
refuses what is greater. -/
theorem Decimal.bounded?_eq_some_iff {greatest n : Nat} {cs : List Char} :
    bounded? greatest cs = some n ↔
      (∃ (plus : Bool) (ds : List (Fin 10)), ds ≠ [] ∧ worth ds = n ∧
        cs = (if plus then ['+'] else []) ++ written ds) ∧ n ≤ greatest := by
  unfold bounded?
  rw [Option.filter_eq_some_iff, decide_eq_true_iff]
  refine and_congr_left fun _ => ?_
  split
  next rest =>
    -- a plus sign is no digit, so it is the one in front
    rw [natural?_eq_some_iff]
    constructor
    · rintro ⟨ds, hne, rfl, hn⟩
      exact ⟨true, ds, hne, hn, rfl⟩
    · rintro ⟨_ | _, ds, hne, hn, hcs⟩
      · obtain ⟨d, ds, rfl⟩ := List.exists_cons_of_ne_nil hne
        exact absurd (List.cons.inj hcs).1 (sign_ne_digit d.isLt).1
      · exact ⟨ds, hne, (List.cons.inj hcs).2, hn⟩
  next hplus =>
    rw [natural?_eq_some_iff]
    constructor
    · rintro ⟨ds, hne, rfl, hn⟩
      exact ⟨false, ds, hne, hn, rfl⟩
    · rintro ⟨_ | _, ds, hne, hn, hcs⟩
      · exact ⟨ds, hne, hcs, hn⟩
      · exact absurd hcs (hplus _)

end Text

namespace Config

open Text

/-- A number is read exactly if it is what the text says and in range. What the text says is given
by `Denotes`, without the reader. -/
theorem number?_eq_some_iff {greatest n : Nat} {s : String} :
    number? greatest s = some n ↔ Denotes s n ∧ n ≤ greatest := by
  unfold number?
  rw [Decimal.bounded?_eq_some_iff]
  refine and_congr_left fun _ => ⟨?_, ?_⟩
  · rintro ⟨plus, ds, hne, hn, hcore⟩
    obtain ⟨before, behind, hbefore, hbehind, he⟩ := exists_trimmed s.toList
    refine ⟨⟨.ofList before hbefore, plus, ds, hne, .ofList behind hbehind⟩, ?_, hn⟩
    refine String.toList_injective ?_
    unfold Numeral.text
    rw [toList_around]
    show (String.ofList before).toList ++ _ ++ (String.ofList behind).toList = _
    rw [String.toList_ofList, String.toList_ofList, String.toList_ofList, he, hcore]
    rfl
  · rintro ⟨x, rfl, rfl⟩
    exact ⟨x.plus, x.digits, x.nonempty, rfl, x.trimmed_text⟩

example : number? 100 " +012\t" = some 12 := rfl

/-- A setting that must be positive is read exactly if it is in range and not zero. -/
theorem positive?_eq_some_iff {greatest n : Nat} {s : String} :
    positive? greatest s = some n ↔ Denotes s n ∧ n ≤ greatest ∧ 1 ≤ n := by
  unfold positive?
  rw [Option.filter_eq_some_iff, number?_eq_some_iff, decide_eq_true_iff, and_assoc]
  rfl

end Config

/-- A text says one number at most, so the number read is the one it says. -/
theorem Text.Denotes.unique {s : String} {m n : Nat} (hm : Denotes s m) (hn : Denotes s n) :
    m = n := by
  have hread := Config.number?_eq_some_iff.mpr ⟨hm, Nat.le_max_left m n⟩
  rw [Config.number?_eq_some_iff.mpr ⟨hn, Nat.le_max_right m n⟩] at hread
  exact (Option.some.inj hread).symm

end RackOperator
