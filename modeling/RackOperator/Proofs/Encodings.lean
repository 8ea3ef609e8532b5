import RackOperator.Admission
import RackOperator.Proofs.Maps
import RackOperator.Proofs.Merge
import RackOperator.Sidecar.Request

/-!
# What is written is read back

A record is written field by field and read slot by slot, and a field that holds nothing may be
left out on the one side and takes its default on the other. Each way of writing a field has a
lemma that says what stands in its slot then (`slot?_eq`, `slots?_ofFields`) and one that says what
the reader makes of that (`optional_ofOption`, `optionalTail_ofOption`, `list_ofOption`,
`map_ofOption`), so that each record is read back by putting these side by side.

A value may be read from more than what it is written as: from an array of its fields, with names
missing or given `null`, beside names that nobody knows, a tag as an object. Writing it again
settles on one of these, and reading that changes nothing (`resources_roundTrip`).
-/

namespace RackOperator

open Json

namespace SortedMap

/-- A map made of the entries of a map is that map. -/
theorem ofList_entries {κ α : Type} [LT κ] [DecidableEq κ] [DecidableLT κ]
    [Trans (α := κ) (β := κ) (γ := κ) (· < ·) (· < ·) (· < ·)] [Std.Irrefl (α := κ) (· < ·)]
    [Std.Trichotomous (α := κ) (· < ·)] (m : SortedMap κ α) : ofList m.entries = m := by
  refine ext_find? fun k => ?_
  cases hk : m.find? k with
  | some a => exact find?_ofList m.nodup_keys (mem_of_lookup hk)
  | none =>
    refine find?_ofList_of_notMem fun hmem => ?_
    obtain ⟨a, ha⟩ := mem_keys.mp hmem
    rw [hk] at ha
    cases ha

end SortedMap

namespace Json

variable {α : Type} {read : Json → Option α} {write : α → Json}

/-! ## Slots of a written record -/

/-- What stands at a field that is written if there is something to write. -/
def Slot.ofOption : Option Json → Slot
  | none => .absent
  | some j => .given j

/-- What stands at a name, from what occurs under it. -/
def Slot.single? : List Json → Option Slot
  | [] => some .absent
  | [j] => some (.given j)
  | _ => none

/-- What stands in a slot depends on the occurrences of its name alone: none, one, or too many. -/
theorem slot?_eq (name : String) (fields : List (String × Json)) :
    slot? name fields = Slot.single? (occurrences name fields) := by
  unfold slot? Slot.single?
  rcases occurrences name fields with - | ⟨j, - | ⟨k, rest⟩⟩ <;> rfl

@[simp] theorem Slot.single?_singleton (j : Json) : Slot.single? [j] = some (.given j) := rfl

@[simp] theorem Slot.single?_toList (j : Option Json) :
    Slot.single? j.toList = some (.ofOption j) := by
  cases j <;> rfl

/-- A record that writes every field has each of them given. -/
theorem slots?_ofFields {names : List String} {j : Json} {fields : List (String × Json)}
    (hj : j = .obj fields) (hnames : names = fields.map (·.1)) (hnodup : names.Nodup) :
    slots? names j = some (fields.map fun p => .given p.2) := by
  subst hj hnames
  refine slots?_obj.mpr ?_
  rw [List.map_map, List.map_map]
  refine List.map_congr_left fun p hp => slot?_of_singleton ?_
  have hmem : p.2 ∈ occurrences p.1 fields := mem_occurrences.mpr hp
  have hpos := List.length_pos_of_mem hmem
  have hle := single_of_nodup hnodup p.1
  obtain ⟨v, hv⟩ := List.length_eq_one_iff.mp (Nat.le_antisymm hle hpos)
  rw [hv, List.mem_singleton] at hmem
  rw [hmem, hv]

/-- A field that has to be there and is given is read for what it holds. -/
@[simp] theorem required_given (j : Json) : required read (.given j) = read j := rfl

@[simp] theorem withDefault_given (a : α) (j : Json) : withDefault a read (.given j) = read j := rfl

/-- What is written as an object is not taken for `null`, so a record that may be left out is read
back where it is not. -/
theorem nullable_record (h : ∀ a, read (write a) = some a)
    (hobj : ∀ a, ∃ fields, write a = .obj fields) (a : α) :
    nullable read (write a) = some (some a) := by
  have ha := h a
  obtain ⟨fields, hfields⟩ := hobj a
  rw [hfields] at ha ⊢
  exact congrArg (Option.map some) ha

/-- A text is not taken for `null`, so a text that may be left out is read back where it is not. -/
theorem nullable_text (s : String) : nullable text? (.str s) = some (some s) := rfl

theorem nullable_int64 (i : Int64) : nullable int64? (ofInt64 i) = some (some i) :=
  congrArg (Option.map some) (int64?_ofInt64 i)

/-- A value that may be left out is read back, whether it was written or not: the writer omits the
field, and the reader takes an omitted field for an absent value. -/
theorem optional_ofOption (h : ∀ a, nullable read (write a) = some (some a)) (o : Option α) :
    optional read (.ofOption (o.map write)) = some o := by
  cases o with
  | none => rfl
  | some a => exact h a

/-- A value that may be left out at the end of an array is read back; there the reader also accepts
that the array is shorter. -/
theorem optionalTail_ofOption (h : ∀ a, nullable read (write a) = some (some a)) (o : Option α) :
    optionalTail read (.ofOption (o.map write)) = some o := by
  cases o with
  | none => rfl
  | some a => exact h a

/-- A list that is left out when it is empty is read back: the default for a field that is not there
is the list that was not written. -/
theorem list_ofOption (h : ∀ a, read (write a) = some a) (as : List α) :
    withDefault [] (list? read) (.ofOption (DataCenterStatus.nonEmpty write as)) = some as := by
  unfold DataCenterStatus.nonEmpty
  split
  next hempty =>
    rw [List.isEmpty_iff.mp hempty]
    rfl
  next => exact list?_map h as

/-- A map that is left out when it is empty is read back. Its entries are written in the order of
their keys and sorted again when they are read. -/
theorem map_ofOption (h : ∀ a, read (write a) = some a) (m : SortedMap String α) :
    withDefault {} (fun j => (pairs? read j).map SortedMap.ofList) (.ofOption (encodeMap write m)) =
      some m := by
  unfold encodeMap
  split
  next hempty =>
    rw [SortedMap.eq_empty hempty]
    rfl
  next =>
    show (pairs? read (.obj (m.entries.map fun p => (p.1, write p.2)))).map SortedMap.ofList =
      some m
    rw [pairs?_map h, Option.map_some, SortedMap.ofList_entries]

end Json

/-! ## Tags -/

/-- A mode is written by its name, and no two modes have the same. -/
theorem RackMode.decode?_encode (m : RackMode) : Tagged.decode? (Tagged.encode m) = some m := by
  cases m <;> rfl

theorem NodeStatus.decode?_encode (s : NodeStatus) : Tagged.decode? (Tagged.encode s) = some s := by
  cases s <;> rfl

/-- A phase is written by its name, and no two phases have the same. -/
theorem DataCenterPhase.decode?_encode (p : DataCenterPhase) :
    Tagged.decode? (Tagged.encode p) = some p := by
  cases p <;> rfl

theorem TaskPhase.decode?_encode (p : TaskPhase) : Tagged.decode? (Tagged.encode p) = some p := by
  cases p <;> rfl

theorem ReplicationAction.decode?_encode (a : ReplicationAction) :
    Tagged.decode? (Tagged.encode a) = some a := by
  cases a <;> rfl

/-! ## DataCenters -/

/-- The fields of a storage spec are both optional; an absent one is not written at all. -/
theorem StorageSpec.decode?_encode (s : StorageSpec) : decode? s.encode = some s := by
  have hclass := optional_ofOption nullable_text s.storageClass
  simp [decode?, encode, slots?, slot?_eq, hclass]

theorem Quantities.decode?_encode (q : Quantities) : decode? q.encode = some q := by
  have hcpu := optional_ofOption nullable_text q.cpu
  have hmemory := optional_ofOption nullable_text q.memory
  simp [decode?, encode, slots?, slot?_eq, hcpu, hmemory]

/-- Requests and limits are records of their own, either of which may be missing. -/
theorem ResourceBounds.decode?_encode (r : ResourceBounds) : decode? r.encode = some r := by
  have hquantities := nullable_record Quantities.decode?_encode fun _ => ⟨_, rfl⟩
  have hrequests := optionalTail_ofOption hquantities r.requests
  have hlimits := optionalTail_ofOption hquantities r.limits
  simp [decode?, encode, slots?, slot?_eq, hrequests, hlimits]

/-- A spec writes each of its fields, or leaves out those that hold what the reader assumes. -/
theorem DataCenterSpec.decode?_encode (s : DataCenterSpec) : decode? s.encode = some s := by
  have hslots : slots? fieldNames s.encode = some _ := slots?_ofFields rfl rfl (by decide)
  simp only [List.map_cons, List.map_nil] at hslots
  unfold decode?
  rw [hslots, Option.bind_eq_bind, Option.bind_some]
  -- only the fields here: simp is slow at so many binds, and with values in them they are `rfl`
  simp only [required_given, withDefault_given, text?_str, int32?_ofInt32,
    StorageSpec.decode?_encode, ResourceBounds.decode?_encode]
  rfl

theorem RackStatus.decode?_encode (s : RackStatus) : decode? s.encode = some s := by
  simp [decode?, encode, slots?, slot?_eq, RackMode.decode?_encode]

theorem PodStatus.decode?_encode (s : PodStatus) : decode? s.encode = some s := by
  simp [decode?, encode, slots?, slot?_eq, NodeStatus.decode?_encode]

/-- The lists of a status are left out when they are empty and its optional fields when they are
absent; both come back as they were. -/
theorem DataCenterStatus.decode?_encode (s : DataCenterStatus) : decode? s.encode = some s := by
  have hracks := list_ofOption RackStatus.decode?_encode s.rackStatuses
  have hpods := list_ofOption PodStatus.decode?_encode s.podStatuses
  have herror := optional_ofOption nullable_text s.lastErrorMessage
  have hgeneration := optional_ofOption nullable_int64 s.observedGeneration
  simp [decode?, encode, slots?, fieldNames, slot?_eq, DataCenterPhase.decode?_encode, hracks,
    hpods, herror, hgeneration]

/-! ## Tasks -/

theorem CleanupSpec.decode?_encode (s : CleanupSpec) : decode? s.encode = some s := by
  have hkeyspace := optional_ofOption nullable_text s.keyspace
  simp [decode?, encode, slots?, slot?_eq, hkeyspace]

theorem BackupSpec.decode?_encode (s : BackupSpec) : decode? s.encode = some s := by
  simp [decode?, encode, slots?, slot?_eq]

theorem ReplicationSpec.decode?_encode (s : ReplicationSpec) : decode? s.encode = some s := by
  have hmap := map_ofOption int32?_ofInt32 s.replicationMap
  simp [decode?, encode, slots?, slot?_eq, ReplicationAction.decode?_encode, hmap]

theorem RepairSpec.decode?_encode (s : RepairSpec) : decode? s.encode = some s := by
  have hkeyspace := optional_ofOption nullable_text s.keyspace
  simp [decode?, encode, slots?, slot?_eq, hkeyspace]

theorem RebuildSpec.decode?_encode (s : RebuildSpec) : decode? s.encode = some s := by
  have hkeyspace := optional_ofOption nullable_text s.keyspace
  simp [decode?, encode, slots?, slot?_eq, hkeyspace]

/-- Each operation of a task has a slot of its own, filled or left out, so however many are set the
spec is read back. -/
theorem TaskSpec.decode?_encode (s : TaskSpec) : decode? s.encode = some s := by
  have hcleanup :=
    optionalTail_ofOption (nullable_record CleanupSpec.decode?_encode fun _ => ⟨_, rfl⟩) s.cleanup
  have hbackup :=
    optionalTail_ofOption (nullable_record BackupSpec.decode?_encode fun _ => ⟨_, rfl⟩) s.backup
  have hreplication :=
    optionalTail_ofOption (nullable_record ReplicationSpec.decode?_encode fun _ => ⟨_, rfl⟩)
      s.replication
  have hrepair :=
    optionalTail_ofOption (nullable_record RepairSpec.decode?_encode fun _ => ⟨_, rfl⟩) s.repair
  have hrebuild :=
    optionalTail_ofOption (nullable_record RebuildSpec.decode?_encode fun _ => ⟨_, rfl⟩) s.rebuild
  simp [decode?, encode, slots?, fieldNames, slot?_eq, hcleanup, hbackup, hreplication, hrepair,
    hrebuild]

/-- The progress of a task is a map by pod, left out while it is empty. -/
theorem TaskStatus.decode?_encode (s : TaskStatus) : decode? s.encode = some s := by
  have hpods := map_ofOption TaskPhase.decode?_encode s.pods
  have hmessage := optional_ofOption nullable_text s.lastMessage
  have hstarted := optional_ofOption nullable_text s.startTime
  have hfinished := optional_ofOption nullable_text s.finishTime
  simp [decode?, encode, slots?, fieldNames, slot?_eq, TaskPhase.decode?_encode, hpods, hmessage,
    hstarted, hfinished]

/-! ## What passes between programs -/

theorem BackupArgs.decode?_encode (a : BackupArgs) : decode? a.encode = some a := by
  have hslots : slots? fieldNames a.encode = some _ := slots?_ofFields rfl rfl (by decide)
  simp [decode?, hslots]

/-- A response carries a status and perhaps a message; the message is the only field that may be
missing. -/
theorem BackupResponse.decode?_encode (r : BackupResponse) : decode? r.encode = some r := by
  have hmessage := optionalTail_ofOption nullable_text r.message
  simp [decode?, encode, slots?, slot?_eq, hmessage]

theorem AdmissionStatus.decode?_encode (s : AdmissionStatus) : decode? s.encode = some s := by
  simp [decode?, encode, slots?, slot?_eq]

/-- A refusal carries a status of its own, and an admission none. -/
theorem AdmissionResponse.decode?_encode (r : AdmissionResponse) : decode? r.encode = some r := by
  have hstatus :=
    optional_ofOption (nullable_record AdmissionStatus.decode?_encode fun _ => ⟨_, rfl⟩) r.status
  simp [decode?, encode, slots?, slot?_eq, hstatus]

/-! ## Round trips -/

/-- Values of a kind survive being written, and one that was read from anything else is not changed
by being written and read again. -/
structure RoundTrips {α : Type} (decode? : Json → Option α) (encode : α → Json) : Prop where
  written : ∀ a, decode? (encode a) = some a
  rewritten : ∀ j a, decode? j = some a → decode? (encode a) = decode? j

/-- Reading back what was written is enough for rewriting to be stable: what is read from any text
is written in one way, and that is read back to the same value. -/
theorem roundTrips_of_written {α : Type} {decode? : Json → Option α} {encode : α → Json}
    (h : ∀ a, decode? (encode a) = some a) : RoundTrips decode? encode :=
  ⟨h, fun _ a ha => (h a).trans ha.symm⟩

/-- **What is stored and sent is read back.** -/
theorem resources_roundTrip :
    RoundTrips DataCenterSpec.decode? DataCenterSpec.encode ∧
      RoundTrips DataCenterStatus.decode? DataCenterStatus.encode ∧
      RoundTrips TaskSpec.decode? TaskSpec.encode ∧
      RoundTrips TaskStatus.decode? TaskStatus.encode ∧
      RoundTrips BackupArgs.decode? BackupArgs.encode ∧
      RoundTrips BackupResponse.decode? BackupResponse.encode ∧
      RoundTrips AdmissionResponse.decode? AdmissionResponse.encode :=
  ⟨roundTrips_of_written DataCenterSpec.decode?_encode,
    roundTrips_of_written DataCenterStatus.decode?_encode,
    roundTrips_of_written TaskSpec.decode?_encode,
    roundTrips_of_written TaskStatus.decode?_encode,
    roundTrips_of_written BackupArgs.decode?_encode,
    roundTrips_of_written BackupResponse.decode?_encode,
    roundTrips_of_written AdmissionResponse.decode?_encode⟩

/-- A status in an array, its phase as an object: both are forms that it is never written in. -/
example : TaskStatus.decode? (.arr [.obj [("RUNNING", .null)], .obj [], .null, .null, .null]) =
    some { phase := .running } := rfl

end RackOperator
