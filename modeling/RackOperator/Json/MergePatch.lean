import RackOperator.Json.Basic

/-!
# JSON merge patch

`Json.merge target patch` applies a merge patch (RFC 7386): a field of the patch
that is `null` removes the field of that name, an object is merged into what
stands there, and any other value takes its place.
-/

namespace RackOperator.Json

/-- Take every field of a name away. -/
def dropField (name : String) (fields : List (String × Json)) : List (String × Json) :=
  fields.filter fun p => p.1 ≠ name

/-- The fields of an object; any other value has none. -/
def fieldsOf : Json → List (String × Json)
  | .obj fields => fields
  | _ => []

mutual

/-- Apply a merge patch to a value. -/
def merge (target : Json) : Json → Json
  | .obj changes => .obj (mergeFields (fieldsOf target) changes)
  | patch => patch

/-- Apply the changes of a merge patch to the fields of an object. -/
def mergeFields (fields : List (String × Json)) : List (String × Json) → List (String × Json)
  | [] => fields
  | (name, .null) :: rest => mergeFields (dropField name fields) rest
  | (name, change) :: rest =>
    mergeFields (setField name (merge ((lastNamed name fields).getD .null) change) fields) rest

end

end RackOperator.Json
