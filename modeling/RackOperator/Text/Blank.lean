/-!
# Blank characters

Names and numbers that arrive from outside are read without the blanks around
them. A blank is a character of Unicode's `White_Space` property; the zero-width
space and the byte-order mark are not blanks, so they survive a trim.

`dropBlanks_eq_nil_iff`: nothing is left exactly when every character is a blank.
-/

namespace RackOperator.Text

/-- The characters of Unicode's `White_Space` property. -/
def isBlank (c : Char) : Bool :=
  let n := c.toNat
  (9 ≤ n && n ≤ 13) || n == 0x20 || n == 0x85 || n == 0xA0 || n == 0x1680
    || (0x2000 ≤ n && n ≤ 0x200A) || n == 0x2028 || n == 0x2029 || n == 0x202F
    || n == 0x205F || n == 0x3000

/-- Drop the blanks in front. -/
def dropBlanks (cs : List Char) : List Char := cs.dropWhile isBlank

/-- Drop the blanks at both ends of a list of characters. -/
def trimmed (cs : List Char) : List Char := (dropBlanks (dropBlanks cs).reverse).reverse

/-- Drop the blanks at both ends. -/
def trim (s : String) : String := String.ofList (trimmed s.toList)

/-- Whether nothing but blanks is in the text. -/
def isAllBlank (s : String) : Bool := s.toList.all isBlank

theorem dropBlanks_eq_nil_iff {cs : List Char} :
    dropBlanks cs = [] ↔ ∀ c ∈ cs, isBlank c = true := by
  induction cs with
  | nil => simp [dropBlanks]
  | cons c cs ih =>
    rw [dropBlanks, List.dropWhile_cons, List.forall_mem_cons]
    by_cases h : isBlank c = true
    · rw [if_pos h, and_iff_right h]
      exact ih
    · simp [h]

end RackOperator.Text
