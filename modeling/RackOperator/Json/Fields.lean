import RackOperator.Json.Basic

/-!
# Fields with defaults

Readers for hand-written JSON in which a field that is missing, or of another
kind than expected, counts as a default.
-/

namespace RackOperator.Json

/-- A field's value, `null` when it is missing. -/
def get (j : Json) (name : String) : Json := (j.field? name).getD .null

/-- Whether there is a field of a name. -/
def has (j : Json) (name : String) : Bool := (j.field? name).isSome

/-- A text field. -/
def strOr (j : Json) (name otherwise : String) : String :=
  match j.get name with
  | .str s => s
  | _ => otherwise

/-- A text field, empty by default. -/
def strOf (j : Json) (name : String) : String := j.strOr name ""

/-- An integer field, if it is one. -/
def intOf? (j : Json) (name : String) : Option Int :=
  match j.get name with
  | .int i => some i
  | _ => none

/-- An integer field. -/
def intOr (j : Json) (name : String) (otherwise : Int) : Int := (j.intOf? name).getD otherwise

/-- An integer field, zero by default. -/
def intOf (j : Json) (name : String) : Int := j.intOr name 0

/-- A field that counts something. -/
def natOr (j : Json) (name : String) (otherwise : Nat) : Nat := (j.intOr name otherwise).toNat

/-- A field that is either true or not. -/
def flagOf (j : Json) (name : String) : Bool :=
  match j.get name with
  | .bool b => b
  | _ => false

/-- The items of an array; any other value has none. -/
def itemsOf : Json → List Json
  | .arr items => items
  | _ => []

/-- The items of an array field. -/
def listOf (j : Json) (name : String) : List Json := itemsOf (j.get name)

/-- A text; any other value counts as the empty one. -/
def asText : Json → String
  | .str s => s
  | _ => ""

/-- The pairs of an object; any other value has none. -/
def pairsOf : Json → List (String × Json)
  | .obj fields => fields
  | _ => []

end RackOperator.Json
