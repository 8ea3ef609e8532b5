/-!
# JSON values

A `Json` value keeps what a decoder can tell apart: an integer is a number of at
most 64 bits written without fraction and exponent, every other number keeps its
text, made to look like a fraction, an object keeps its fields in order, repeated
names included. `malformed` stands for
a part of a text that is well formed but denotes no value (a string with half a
surrogate pair, a number out of range, nesting beyond the limit): skipping such a
part is fine, reading it is not.
-/

namespace RackOperator

/-- A JSON value as read from a text. -/
inductive Json where
  | null
  | bool (b : Bool)
  | int (i : Int)
  | fraction (literal : String)
  | str (s : String)
  | arr (items : List Json)
  | obj (fields : List (String × Json))
  | malformed
deriving Inhabited, Repr

namespace Json

/-- The object of one text-valued field each. -/
def texts (fields : List (String × String)) : Json := .obj (fields.map fun p => (p.1, .str p.2))

/-- The last field of a name in a list of fields. -/
def lastNamed (name : String) (fields : List (String × Json)) : Option Json :=
  fields.foldl (fun found p => if p.1 = name then some p.2 else found) none

/-- The last field of a name, if the value is an object that has one. -/
def field? (name : String) : Json → Option Json
  | .obj fields => lastNamed name fields
  | _ => none

/-- No field for an absent value, one for a present one. -/
def omitNone (name : String) : Option Json → List (String × Json)
  | none => []
  | some j => [(name, j)]

/-- A value, `null` in place of an absent one. -/
def orNull : Option Json → Json
  | none => .null
  | some j => j

/-- A text, `null` in place of an absent one. -/
def ofText? (s : Option String) : Json := orNull (s.map .str)

/-- A natural number. -/
def nat (n : Nat) : Json := .int (Int.ofNat n)

mutual

/-- Whether every part denotes a value. -/
def wellFormed : Json → Bool
  | .malformed => false
  | .arr items => wellFormedItems items
  | .obj fields => wellFormedFields fields
  | _ => true

/-- Whether every part of every item denotes a value. -/
def wellFormedItems : List Json → Bool
  | [] => true
  | j :: rest => wellFormed j && wellFormedItems rest

/-- Whether every part of every field denotes a value. -/
def wellFormedFields : List (String × Json) → Bool
  | [] => true
  | (_, j) :: rest => wellFormed j && wellFormedFields rest

end

/-- Put a field where the same name stands, or at the end. -/
def setField (name : String) (j : Json) : List (String × Json) → List (String × Json)
  | [] => [(name, j)]
  | p :: rest => if p.1 = name then (name, j) :: rest else p :: setField name j rest

mutual

/-- The value with every repeated field name reduced to its last occurrence. -/
def distinct : Json → Json
  | .arr items => .arr (distinctItems items)
  | .obj fields => .obj (distinctFields fields [])
  | j => j

/-- Reduce repeated names in every item. -/
def distinctItems : List Json → List Json
  | [] => []
  | j :: rest => distinct j :: distinctItems rest

/-- Reduce repeated names among fields, behind the fields already kept. -/
def distinctFields : List (String × Json) → List (String × Json) → List (String × Json)
  | [], kept => kept
  | (name, j) :: rest, kept => distinctFields rest (setField name (distinct j) kept)

end

end Json

end RackOperator
