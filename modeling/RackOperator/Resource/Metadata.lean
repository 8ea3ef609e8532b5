import RackOperator.Naming
import RackOperator.Resource.Shape

/-!
# Object metadata

`ObjectMeta` is what every object carries: its name and namespace, labels and
annotations, its version and generation, its owners and the times of its
creation and deletion. Every field may be missing; a missing field and a `null`
one are the same.
-/

namespace RackOperator

open Json Text
open Shape (may must)

/-- Labels, annotations and other maps from text to text. -/
abbrev Labels := SortedMap String String

/-- The object that another object belongs to. -/
structure OwnerReference where
  apiVersion : String
  blockOwnerDeletion : Option Bool
  controller : Option Bool
  kind : String
  name : String
  uid : String
deriving DecidableEq

/-- What every object carries. -/
structure ObjectMeta where
  annotations : Option Labels := none
  creationTimestamp : Option Instant := none
  deletionGracePeriodSeconds : Option Int64 := none
  deletionTimestamp : Option Instant := none
  finalizers : Option (List String) := none
  generateName : Option String := none
  generation : Option Int64 := none
  labels : Option Labels := none
  managedFields : Option (List Json) := none
  name : Option String := none
  ns : Option String := none
  ownerReferences : Option (List OwnerReference) := none
  resourceVersion : Option String := none
  selfLink : Option String := none
  uid : Option String := none
deriving Inhabited

namespace ObjectMeta

/-- The object's name; failing that, the stem its name was to be generated from. -/
def anyName (m : ObjectMeta) : String := (m.name.or m.generateName).getD ""

/-- The object's namespace, empty when it has none. -/
def nsOrEmpty (m : ObjectMeta) : String := m.ns.getD ""

/-- Namespace and name. -/
def key (m : ObjectMeta) : NamespacedName := ⟨m.nsOrEmpty, m.anyName⟩

/-- The last value given for a field, each given value being readable; `null` is no value. -/
def lastGiven? {α : Type} (read : Json → Option α) (name : String)
    (fields : List (String × Json)) : Option (Option α) :=
  ((occurrences name fields).mapM (nullable read)).map fun values => values.getLast?.join

/-- A map from text to text; of repeated names the last one stays. -/
def labels? (j : Json) : Option Labels := (pairs? text? j).map SortedMap.ofList

/-- A time. -/
def instant? : Json → Option Instant
  | .str s => Rfc3339.lenient? s
  | _ => none

/-- An owner reference; a missing text is empty. -/
def owner? : Json → Option OwnerReference
  | .obj fields => do
    return {
      apiVersion := (← lastGiven? text? "apiVersion" fields).getD ""
      blockOwnerDeletion := ← lastGiven? bool? "blockOwnerDeletion" fields
      controller := ← lastGiven? bool? "controller" fields
      kind := (← lastGiven? text? "kind" fields).getD ""
      name := (← lastGiven? text? "name" fields).getD ""
      uid := (← lastGiven? text? "uid" fields).getD "" }
  | _ => none

/-- An entry about who wrote which fields. -/
def managedShape : Shape :=
  .record [may "apiVersion" .text, may "fieldsType" .text, may "fieldsV1" .any,
    may "manager" .text, may "operation" .text, may "subresource" .text, may "time" .instant]

/-- Metadata out of an object. -/
def decode? : Json → Option ObjectMeta
  | .obj fields => do
    return {
      annotations := ← lastGiven? labels? "annotations" fields
      creationTimestamp := ← lastGiven? instant? "creationTimestamp" fields
      deletionGracePeriodSeconds := ← lastGiven? int64? "deletionGracePeriodSeconds" fields
      deletionTimestamp := ← lastGiven? instant? "deletionTimestamp" fields
      finalizers := ← lastGiven? (list? text?) "finalizers" fields
      generateName := ← lastGiven? text? "generateName" fields
      generation := ← lastGiven? int64? "generation" fields
      labels := ← lastGiven? labels? "labels" fields
      managedFields := ← lastGiven? (list? managedShape.normal?) "managedFields" fields
      name := ← lastGiven? text? "name" fields
      ns := ← lastGiven? text? "namespace" fields
      ownerReferences := ← lastGiven? (list? owner?) "ownerReferences" fields
      resourceVersion := ← lastGiven? text? "resourceVersion" fields
      selfLink := ← lastGiven? text? "selfLink" fields
      uid := ← lastGiven? text? "uid" fields }
  | _ => none

/-- A map from text to text as an object. -/
def ofLabels (m : Labels) : Json := .texts m.entries

/-- A time in whole seconds. -/
def ofInstant (t : Instant) : Json := .str (Rfc3339.wholeSeconds t)

/-- An owner reference as an object. -/
def ofOwner (o : OwnerReference) : Json :=
  .obj ([("apiVersion", .str o.apiVersion)]
    ++ omitNone "blockOwnerDeletion" (o.blockOwnerDeletion.map .bool)
    ++ omitNone "controller" (o.controller.map .bool)
    ++ [("kind", .str o.kind), ("name", .str o.name), ("uid", .str o.uid)])

/-- Metadata as an object; what is missing is left out. -/
def encode (m : ObjectMeta) : Json :=
  .obj (omitNone "annotations" (m.annotations.map ofLabels)
    ++ omitNone "creationTimestamp" (m.creationTimestamp.map ofInstant)
    ++ omitNone "deletionGracePeriodSeconds" (m.deletionGracePeriodSeconds.map ofInt64)
    ++ omitNone "deletionTimestamp" (m.deletionTimestamp.map ofInstant)
    ++ omitNone "finalizers" (m.finalizers.map fun l => .arr (l.map .str))
    ++ omitNone "generateName" (m.generateName.map .str)
    ++ omitNone "generation" (m.generation.map ofInt64)
    ++ omitNone "labels" (m.labels.map ofLabels)
    ++ omitNone "managedFields" (m.managedFields.map .arr)
    ++ omitNone "name" (m.name.map .str)
    ++ omitNone "namespace" (m.ns.map .str)
    ++ omitNone "ownerReferences" (m.ownerReferences.map fun l => .arr (l.map ofOwner))
    ++ omitNone "resourceVersion" (m.resourceVersion.map .str)
    ++ omitNone "selfLink" (m.selfLink.map .str)
    ++ omitNone "uid" (m.uid.map .str))

end ObjectMeta

end RackOperator
