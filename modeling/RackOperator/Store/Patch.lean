import RackOperator.Json.MergePatch
import RackOperator.Resource.DataCenter
import RackOperator.Resource.Task

/-!
# Merge patches of a status

A merge patch leaves a field that it does not name as it is. The patch that writes
a status therefore gives `null` for each field that the new status leaves out and
the old one may hold.
-/

namespace RackOperator

/-- An object with `null` for each of some fields that it leaves out. -/
def Json.clearing (names : List String) : Json → Json
  | .obj fields =>
    .obj (fields ++ (names.filter fun n => (lastNamed n fields).isNone).map fun n => (n, .null))
  | j => j

/-- The merge patch that writes a DataCenter's status. -/
def DataCenterStatus.patch (s : DataCenterStatus) : Json :=
  .obj [("status", s.encode.clearing ["rackStatuses", "podStatuses", "lastErrorMessage"])]

/-- The merge patch that writes a task's status. -/
def TaskStatus.patch (s : TaskStatus) : Json :=
  .obj [("status", s.encode.clearing ["lastMessage"])]

end RackOperator
