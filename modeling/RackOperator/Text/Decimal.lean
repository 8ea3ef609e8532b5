/-!
# Decimal integers as text

`digits` writes a natural number with the digits 0 to 9 and no leading zero;
`natural?` reads one or more such digits, leading zeros allowed. A signed
reading takes one sign in front. `natural?_digits` says that what is written
reads back.
-/

namespace RackOperator.Text.Decimal

/-- The digit of a number below ten. -/
def digit (n : Nat) : Char := Char.ofNat (48 + n)

/-- The value of a decimal digit. -/
def value? (c : Char) : Option Nat :=
  if 48 ≤ c.toNat ∧ c.toNat ≤ 57 then some (c.toNat - 48) else none

/-- The digits of a number, most significant first. -/
def digits (n : Nat) : List Char :=
  if n < 10 then [digit n] else digits (n / 10) ++ [digit (n % 10)]
termination_by n

/-- Read digits behind an already read value. -/
def readOn (acc : Nat) : List Char → Option Nat
  | [] => some acc
  | c :: cs => (value? c).bind fun d => readOn (acc * 10 + d) cs

/-- Read one or more digits. -/
def natural? : List Char → Option Nat
  | [] => none
  | cs => readOn 0 cs

/-- Read digits behind at most one plus sign, up to a greatest value. -/
def bounded? (greatest : Nat) (cs : List Char) : Option Nat :=
  let body := match cs with
    | '+' :: rest => rest
    | _ => cs
  (natural? body).filter (· ≤ greatest)

/-- Read digits behind at most one sign, within a range. -/
def integer? (least greatest : Int) (cs : List Char) : Option Int :=
  let whole : Option Int := match cs with
    | '+' :: rest => (natural? rest).map Int.ofNat
    | '-' :: rest => (natural? rest).map fun n => -(Int.ofNat n)
    | _ => (natural? cs).map Int.ofNat
  whole.filter fun i => decide (least ≤ i) && decide (i ≤ greatest)

/-- The characters of an integer, a minus sign in front of a negative one. -/
def signed : Int → List Char
  | .ofNat n => digits n
  | .negSucc n => '-' :: digits (n + 1)

/-- An integer as text. -/
def text (i : Int) : String := String.ofList (signed i)

/-- A natural number as text. -/
def natText (n : Nat) : String := String.ofList (digits n)

theorem value?_digit {n : Nat} (h : n < 10) : value? (digit n) = some n := by
  have : ∀ k : Fin 10, value? (digit k.val) = some k.val := by decide
  exact this ⟨n, h⟩

/-- Reading goes on behind some characters from what they have come to. -/
theorem readOn_append (acc : Nat) (xs ys : List Char) :
    readOn acc (xs ++ ys) = (readOn acc xs).bind fun a => readOn a ys := by
  induction xs generalizing acc with
  | nil => rfl
  | cons c cs ih =>
    simp only [List.cons_append, readOn]
    cases value? c with
    | none => rfl
    | some d => simp [ih]

theorem readOn_digits (n : Nat) : readOn 0 (digits n) = some n := by
  induction n using Nat.strongRecOn with
  | ind n ih =>
    rw [digits]
    split
    · next h => simp [readOn, value?_digit h]
    · next h =>
      rw [readOn_append, ih (n / 10) (by omega)]
      simp only [Option.bind_some, readOn, value?_digit (Nat.mod_lt n (by omega : 0 < 10))]
      exact congrArg some (by omega)

theorem digits_ne_nil (n : Nat) : digits n ≠ [] := by
  rw [digits]; split <;> simp

/-- Written digits read back, as there is one at least. -/
theorem natural?_digits (n : Nat) : natural? (digits n) = some n := by
  cases h : digits n with
  | nil => exact absurd h (digits_ne_nil n)
  | cons c cs => rw [natural?, ← h, readOn_digits]; simp

end RackOperator.Text.Decimal
