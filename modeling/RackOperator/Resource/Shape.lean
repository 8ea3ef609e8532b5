import RackOperator.Json.Record
import RackOperator.Text.Rfc3339

/-!
# Shapes of objects that are passed through

Most of a StatefulSet and a Service is of no concern here, but it is read, kept
and written back. A `Shape` says which values a field may hold; `Shape.normal?`
checks a value against it and gives the value as it is written back: unknown
fields and `null`s are gone, of repeated names the last one stays, times are in
whole seconds, and the fields an object always carries are there.
-/

namespace RackOperator

/-- The values a field may hold. -/
inductive Shape where
  | text
  | truth
  | int32
  | int64
  | intOrText
  | instant
  | any
  /-- One text and no other. -/
  | exactly (word : String)
  | list (of : Shape)
  | map (of : Shape)
  /-- An object: its known fields, each with whether it is always written. -/
  | record (fields : List (String × Bool × Shape))

namespace Shape

open Json Text

/-- A time in whole seconds. -/
def instantJson? : Json → Option Json
  | .str s => (Rfc3339.lenient? s).map fun t => .str (Rfc3339.wholeSeconds t)
  | _ => none

mutual

/-- What is written for a field that is always written and was not given; a time has to be given. -/
def blank? : Shape → Option Json
  | .text => some (.str "")
  | .truth => some (.bool false)
  | .int32 => some (.int 0)
  | .int64 => some (.int 0)
  | .intOrText => some (.int 0)
  | .instant => none
  | .any => some .null
  | .exactly word => some (.str word)
  | .list _ => some (.arr [])
  | .map _ => some (.obj [])
  | .record fields => (blankFields? fields).map .obj

/-- The fields of an object that are written when none is given. -/
def blankFields? : List (String × Bool × Shape) → Option (List (String × Json))
  | [] => some []
  | (name, always, s) :: rest => do
    let others ← blankFields? rest
    if always then return (name, ← blank? s) :: others else return others

end

/-- Whether `null` stands for a value left out; a fixed text is not left out that way. -/
def isNullable : Shape → Bool
  | .exactly _ => false
  | _ => true

mutual

/-- The value as it is written back, if it has the shape. -/
def normal? : Shape → Json → Option Json
  | .text, j => (text? j).map .str
  | .truth, j => (bool? j).map .bool
  | .int32, j => (int32? j).map ofInt32
  | .int64, j => (int64? j).map ofInt64
  | .intOrText, j => ((int32? j).map ofInt32).or ((text? j).map .str)
  | .instant, j => instantJson? j
  | .any, j => if j.wellFormed then some j.distinct else none
  | .exactly word, .str s => if s = word then some (.str word) else none
  | .exactly _, _ => none
  | .list of, j => (list? (normal? of) j).map .arr
  | .map of, j => (pairs? (normal? of) j).map fun ps => (Json.obj ps).distinct
  | .record known, .obj fields => (normalFields? known fields).map .obj
  | .record _, _ => none

/-- The known fields of an object as they are written back. -/
def normalFields? : List (String × Bool × Shape) → List (String × Json) →
    Option (List (String × Json))
  | [], _ => some []
  | (name, always, s) :: rest, fields => do
    let values ← (occurrences name fields).mapM fun j =>
      if s.isNullable then nullable (normal? s) j else (normal? s j).map some
    let others ← normalFields? rest fields
    match values.getLast?.join with
    | some j => return (name, j) :: others
    | none => if always then return (name, ← blank? s) :: others else return others

end

/-- A field that is written when it is given. -/
def may (name : String) (s : Shape) : String × Bool × Shape := (name, false, s)

/-- A field that is always written. -/
def must (name : String) (s : Shape) : String × Bool × Shape := (name, true, s)

end Shape

end RackOperator
