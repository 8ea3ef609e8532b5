import RackOperator.Digest.Sha1
import RackOperator.Order
import RackOperator.SortedMap
import RackOperator.Text.Decimal

/-!
# Names of racks, members and objects

A DataCenter's objects take their names from its cluster, its datacenter, a
rack's name and a member's ordinal. Racks and members carry their position, so
no order is ever read back from a name. Pod names repeat across namespaces;
whatever is kept per member is kept under a `NamespacedName`.
-/

namespace RackOperator

open Text

/-- An object's name within its namespace. -/
structure NamespacedName where
  ns : String
  name : String
deriving DecidableEq, Repr, Inhabited

namespace NamespacedName

/-- Both parts, for comparing. -/
def parts (k : NamespacedName) : String × String := (k.ns, k.name)

instance : LT NamespacedName := ⟨fun a b => lexLt a.parts b.parts⟩

instance : DecidableLT NamespacedName := fun a b =>
  inferInstanceAs (Decidable (lexLt a.parts b.parts))

theorem eq_of_parts {a b : NamespacedName} (h : a.parts = b.parts) : a = b := by
  cases a; cases b; simp_all [parts]

instance : Std.Irrefl (α := NamespacedName) (· < ·) := ⟨fun a => lexLt_irrefl a.parts⟩

instance : Trans (α := NamespacedName) (β := NamespacedName) (γ := NamespacedName)
    (· < ·) (· < ·) (· < ·) := ⟨fun h h' => lexLt_trans h h'⟩

instance : Std.Trichotomous (α := NamespacedName) (· < ·) :=
  ⟨fun _ _ h h' => eq_of_parts (eq_of_not_lexLt h h')⟩

/-- Namespace and name with a slash between them. -/
def text (k : NamespacedName) : String := k.ns ++ "/" ++ k.name

end NamespacedName

/-- A member's identity: its namespace and pod name. -/
abbrev MemberKey := NamespacedName

/-- A DataCenter's identity: its namespace and resource name. -/
abbrev ClusterKey := NamespacedName

/-- A rack, ordered by its index. -/
structure Rack where
  index : Nat
  name : String
deriving DecidableEq, Repr, Inhabited

namespace Rack

/-- The rack at a zero-based position: `rack1`, `rack2`, and so on. -/
def new (index : Nat) : Rack := ⟨index, "rack" ++ Decimal.natText (index + 1)⟩

/-- Whether the number behind a position still fits 64 bits. -/
def isNumbered (index : Nat) : Bool := index + 1 < UInt64.size

/-- The first racks. -/
def all (count : Nat) : List Rack := (List.range count).map new

/-- Index and name, for comparing. -/
def parts (r : Rack) : Nat × String := (r.index, r.name)

instance : LT Rack := ⟨fun a b => lexLt a.parts b.parts⟩

instance : DecidableLT Rack := fun a b => inferInstanceAs (Decidable (lexLt a.parts b.parts))

theorem eq_of_parts {a b : Rack} (h : a.parts = b.parts) : a = b := by
  cases a; cases b; simp_all [parts]

instance : Std.Irrefl (α := Rack) (· < ·) := ⟨fun a => lexLt_irrefl a.parts⟩

instance : Trans (α := Rack) (β := Rack) (γ := Rack) (· < ·) (· < ·) (· < ·) :=
  ⟨fun h h' => lexLt_trans h h'⟩

instance : Std.Trichotomous (α := Rack) (· < ·) :=
  ⟨fun _ _ h h' => eq_of_parts (eq_of_not_lexLt h h')⟩

end Rack

/-- One member: the pod of a rack at an ordinal, and where its sidecar listens. -/
structure Member where
  rack : Rack
  ordinal : Int
  name : String
  ns : String
  host : String
  sidecarPort : Int
deriving DecidableEq, Repr, Inhabited

namespace Member

/-- The key under which things are kept for the member. -/
def key (m : Member) : MemberKey := ⟨m.ns, m.name⟩

/-- The order of members: by rack, then ordinal, then the remaining parts. -/
def before (a b : Member) : Bool :=
  if a.rack ≠ b.rack then decide (a.rack < b.rack)
  else if a.ordinal ≠ b.ordinal then decide (a.ordinal < b.ordinal)
  else if a.name ≠ b.name then decide (a.name < b.name)
  else if a.ns ≠ b.ns then decide (a.ns < b.ns)
  else if a.host ≠ b.host then decide (a.host < b.host)
  else decide (a.sidecarPort < b.sidecarPort)

end Member

/-- What the names of one DataCenter are made of. -/
structure Naming where
  cluster : String
  datacenter : String
  ns : String
  sidecarPort : Int
deriving DecidableEq, Repr

namespace Naming

/-- Cluster and datacenter; also the name of the headless Service. -/
def stem (n : Naming) : String := n.cluster ++ "-" ++ n.datacenter

/-- Name of a rack's StatefulSet. -/
def statefulSetName (n : Naming) (r : Rack) : String := n.stem ++ "-" ++ r.name

/-- Name of the pod of a rack at an ordinal. -/
def podName (n : Naming) (r : Rack) (ordinal : Int) : String :=
  n.statefulSetName r ++ "-" ++ Decimal.text ordinal

/-- Host name of a pod behind the headless Service. -/
def podHost (n : Naming) (pod : String) : String :=
  pod ++ "." ++ n.stem ++ "." ++ n.ns ++ ".svc.cluster.local"

/-- The member of a rack at an ordinal. -/
def member (n : Naming) (r : Rack) (ordinal : Int) : Member :=
  let name := n.podName r ordinal
  { rack := r, ordinal, name, ns := n.ns, host := n.podHost name,
    sidecarPort := n.sidecarPort }

/-- The members of a rack that runs a number of pods; a negative number counts as zero. -/
def members (n : Naming) (r : Rack) (replicas : Int) : List Member :=
  (List.range replicas.toNat).map fun (o : Nat) => n.member r o

end Naming

/-- The namespace of name-based identifiers over object identifiers. -/
def objectIdSpace : List UInt8 :=
  [0x6b, 0xa7, 0xb8, 0x12, 0x9d, 0xad, 0x11, 0xd1, 0x80, 0xb4, 0x00, 0xc0, 0x4f, 0xd4, 0x30, 0xc8]

/-- A byte as two hexadecimal digits. -/
def hexByte (b : UInt8) : List Char :=
  let digit (n : Nat) : Char := if n < 10 then Char.ofNat (48 + n) else Char.ofNat (87 + n)
  [digit (b.toNat / 16), digit (b.toNat % 16)]

/-- The name of the cleanup task that closes one scaling event: the first eight hexadecimal digits
of the name-based identifier of the DataCenter's uid, name, generation and size. -/
def cleanupTaskName (dc uid : String) (generation replicas : Int) : String :=
  let event := uid ++ "/" ++ dc ++ "/" ++ Decimal.text generation ++ "/" ++ Decimal.text replicas
  let id := Digest.Sha1.digest (objectIdSpace ++ event.toUTF8.toList)
  dc ++ "-cleanup-" ++ String.ofList ((id.take 4).flatMap hexByte)

end RackOperator
