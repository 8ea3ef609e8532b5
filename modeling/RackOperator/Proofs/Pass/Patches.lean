import RackOperator.Json.Fields
import RackOperator.Proofs.Encodings
import RackOperator.Store.Patch

/-!
# A DataCenter's status as merge patches store it

The API server keeps the status of a DataCenter as a JSON value and merges the patch that writes
a status into it (`patched`). The four counters and the phase are always given, and a list or a
message that the new status does not have is given as `null`; so of these nothing of the old
status is left. The generation is given only where the new status has one, and nothing clears
it: a generation that was stored stays behind a status that has none
(`replaced_but_generation`, `generation_survives`). Behind any number of writes the status is
that of the last one, with the last generation that any of them had (`decode?_patches`).
-/

namespace RackOperator

open Json

/-- Fields that are left out are given as `null`, and nothing else is added. A name that was given
once is given once still, and the merge goes by names. -/
theorem Json.occurrences_clearing {names : List String} (hn : names.Nodup)
    (fields : List (String × Json)) (name : String) :
    occurrences name (fieldsOf ((Json.obj fields).clearing names)) =
      if name ∈ names ∧ occurrences name fields = [] then [.null] else occurrences name fields := by
  -- What is appended are the names left out, each once and with `null`.
  have hnulls : ∀ cleared : List String, cleared.Nodup →
      occurrences name (cleared.map fun n => (n, .null)) =
        if name ∈ cleared then [.null] else [] := by
    intro cleared hc
    induction cleared with
    | nil => rfl
    | cons n rest ih =>
      obtain ⟨hn, hrest⟩ := List.nodup_cons.mp hc
      rw [List.map_cons, occurrences_cons, ih hrest]
      by_cases he : n = name
      · subst he
        rw [if_pos rfl, if_neg hn, if_pos List.mem_cons_self]
      · rw [if_neg he]
        simp only [List.mem_cons, Ne.symm he, false_or]
  have hleft : ∀ n, (lastNamed n fields).isNone = true ↔ occurrences n fields = [] := by
    intro n
    rw [lastNamed_eq, Option.isNone_iff_eq_none, List.getLast?_eq_none_iff]
  show occurrences name (fields ++ _) = _
  rw [occurrences_append, hnulls _ (hn.filter _)]
  simp only [List.mem_filter, hleft]
  split
  next h => rw [h.2, List.nil_append]
  next => exact List.append_nil _

namespace DataCenterStatus

variable {fields : List (String × Json)} {s old new : DataCenterStatus} {name : String}

/-- What the API server stores once the patch that writes a status is merged into what it has. -/
def patched (s : DataCenterStatus) (stored : Json) : Json :=
  ((Json.obj [("status", stored)]).merge s.patch).get "status"

/-- A status, with the generation of an older one where it has none itself. -/
def keepingGeneration (new old : DataCenterStatus) : DataCenterStatus :=
  { new with observedGeneration := new.observedGeneration.or old.observedGeneration }

/-! ## A status read field by field -/

/-- What stands at the fields reads as a status. -/
structure Reads (fields : List (String × Json)) (s : DataCenterStatus) : Prop where
  phase : (slot? "phase" fields).bind (withDefault .running Tagged.decode?) = some s.phase
  replicas : (slot? "replicas" fields).bind (withDefault 0 int32?) = some s.replicas
  ready : (slot? "readyReplicas" fields).bind (withDefault 0 int32?) = some s.readyReplicas
  joined : (slot? "joinedReplicas" fields).bind (withDefault 0 int32?) = some s.joinedReplicas
  racks : (slot? "rackStatuses" fields).bind (withDefault [] (list? RackStatus.decode?)) =
    some s.rackStatuses
  pods : (slot? "podStatuses" fields).bind (withDefault [] (list? PodStatus.decode?)) =
    some s.podStatuses
  error : (slot? "lastErrorMessage" fields).bind (optional text?) = some s.lastErrorMessage
  generation : (slot? "observedGeneration" fields).bind (optional int64?) =
    some s.observedGeneration

theorem Reads.decode? (h : Reads fields s) : decode? (.obj fields) = some s := by
  obtain ⟨phase, hphase, rphase⟩ := Option.bind_eq_some_iff.mp h.phase
  obtain ⟨replicas, hreplicas, rreplicas⟩ := Option.bind_eq_some_iff.mp h.replicas
  obtain ⟨ready, hready, rready⟩ := Option.bind_eq_some_iff.mp h.ready
  obtain ⟨joined, hjoined, rjoined⟩ := Option.bind_eq_some_iff.mp h.joined
  obtain ⟨racks, hracks, rracks⟩ := Option.bind_eq_some_iff.mp h.racks
  obtain ⟨pods, hpods, rpods⟩ := Option.bind_eq_some_iff.mp h.pods
  obtain ⟨error, herror, rerror⟩ := Option.bind_eq_some_iff.mp h.error
  obtain ⟨generation, hgeneration, rgeneration⟩ := Option.bind_eq_some_iff.mp h.generation
  simp [DataCenterStatus.decode?, slots?, fieldNames, *]

/-- The generation of a status that is read stands at its own field. -/
theorem generation_of_decode? (h : DataCenterStatus.decode? (.obj fields) = some s) :
    (slot? "observedGeneration" fields).bind (optional int64?) = some s.observedGeneration := by
  unfold DataCenterStatus.decode? at h
  obtain ⟨slots, hslots, h⟩ := Option.bind_eq_some_iff.mp h
  split at h
  next _ _ _ _ _ _ _ generation =>
    have hslot : slot? "observedGeneration" fields = some generation :=
      congrArg (·.getD 7 none) (slots?_obj.mp hslots)
    simp only [Option.bind_eq_bind, Option.bind_eq_some_iff, Option.pure_def,
      Option.some.injEq] at h
    obtain ⟨_, -, _, -, _, -, _, -, _, -, _, -, _, -, g, hg, rfl⟩ := h
    rw [hslot]
    exact hg
  next => cases h

/-! ## The patch -/

/-- The fields a status is written as. -/
def written (s : DataCenterStatus) : List (String × Json) := fieldsOf s.encode

/-- The fields a patch gives. -/
def changes (s : DataCenterStatus) : List (String × Json) :=
  fieldsOf (s.encode.clearing ["rackStatuses", "podStatuses", "lastErrorMessage"])

theorem single_written (s : DataCenterStatus) : Single s.written := by
  have hnames : fieldNames.Nodup := by decide
  refine single_of_nodup (List.Sublist.nodup ?_ hnames)
  unfold written encode fieldsOf
  simp only [List.map_append]
  exact ((((List.Sublist.refl _).append (names_omitNone ..)).append (names_omitNone ..)).append
    (names_omitNone ..)).append (names_omitNone ..)

/-- What a patch gives for a field: what the status is written with there, or `null` where it leaves
out what may have to be cleared. -/
theorem occurrences_changes (s : DataCenterStatus) (name : String) :
    occurrences name s.changes =
      if name ∈ ["rackStatuses", "podStatuses", "lastErrorMessage"] ∧
        occurrences name s.written = [] then [.null] else occurrences name s.written :=
  occurrences_clearing (by decide) _ _

theorem single_changes (s : DataCenterStatus) : Single s.changes := by
  intro name
  rw [occurrences_changes]
  split
  next => exact Nat.le_refl 1
  next => exact s.single_written name

/-- What a status is written with replaces whatever stands at its place: it is neither `null` nor an
object. -/
theorem replaces_of_written {v : Json} (h : v ∈ occurrences name s.written) :
    v ≠ .null ∧ ∀ target, merge target v = v := by
  -- Numbers, texts and lists are put in place of anything; a status has no field that is an object.
  have hput : ∀ p ∈ s.written, p.2 ≠ .null ∧ ∀ target, merge target p.2 = p.2 := by
    have hint : ∀ i, Json.int i ≠ .null ∧ ∀ target, merge target (.int i) = .int i :=
      fun i => ⟨nofun, fun _ => rfl⟩
    have hstr : ∀ t, Json.str t ≠ .null ∧ ∀ target, merge target (.str t) = .str t :=
      fun t => ⟨nofun, fun _ => rfl⟩
    have harr : ∀ l, Json.arr l ≠ .null ∧ ∀ target, merge target (.arr l) = .arr l :=
      fun l => ⟨nofun, fun _ => rfl⟩
    unfold written encode fieldsOf
    simp only [List.forall_mem_append]
    refine ⟨⟨⟨⟨?_, ?_⟩, ?_⟩, ?_⟩, ?_⟩
    · intro p hp
      simp only [List.mem_cons, List.not_mem_nil, or_false] at hp
      rcases hp with rfl | rfl | rfl | rfl
      · exact hstr _
      · exact hint _
      · exact hint _
      · exact hint _
    · unfold nonEmpty
      split <;> simp [omitNone, harr]
    · unfold nonEmpty
      split <;> simp [omitNone, harr]
    · cases s.lastErrorMessage <;> simp [omitNone, hstr]
    · cases s.observedGeneration <;> simp [omitNone, ofInt64, hint]
  exact hput _ (mem_occurrences.mp h)

/-- Behind its patch a status stands as it was written, but for the generation. That one is left out
when there is none, and then what was stored before shows through. -/
theorem slot?_patched (hf : Single fields) (hn : name ∈ fieldNames)
    (hg : name ≠ "observedGeneration") :
    slot? name (mergeFields fields s.changes) = slot? name s.written := by
  cases hw : occurrences name s.written with
  | nil =>
    -- what may be left out is cleared
    have hcleared : name ∈ ["rackStatuses", "podStatuses", "lastErrorMessage"] := by
      simp only [fieldNames, List.mem_cons, List.not_mem_nil, or_false] at hn
      rcases hn with rfl | rfl | rfl | rfl | rfl | rfl | rfl | rfl
      all_goals first | decide | exact absurd rfl hg | simp [written, encode, fieldsOf] at hw
    rw [slot?_of_nil hw]
    refine slot?_cleared hf s.single_changes ?_
    rw [occurrences_changes, if_pos ⟨hcleared, hw⟩]
  | cons v rest =>
    have hone : occurrences name s.written = [v] := by
      have hlen := s.single_written name
      rw [hw, List.length_cons] at hlen
      rw [hw, List.eq_nil_of_length_eq_zero (by omega : rest.length = 0)]
    obtain ⟨hnull, hput⟩ := replaces_of_written (hone ▸ List.mem_singleton_self v)
    rw [slot?_of_singleton hone]
    refine slot?_put hf s.single_changes ?_ hput hnull
    rw [occurrences_changes, if_neg fun h => List.cons_ne_nil _ _ (hone.symm.trans h.2), hone]

theorem occurrences_generation (s : DataCenterStatus) :
    occurrences "observedGeneration" s.changes = (s.observedGeneration.map ofInt64).toList := by
  rw [occurrences_changes, if_neg fun h => absurd h.1 (by decide)]
  simp [written, encode, fieldsOf]

/-- A status is read as it was written. -/
theorem reads_written (s : DataCenterStatus) : Reads s.written s := by
  have hphase := DataCenterPhase.decode?_encode s.phase
  have hracks := list_ofOption RackStatus.decode?_encode s.rackStatuses
  have hpods := list_ofOption PodStatus.decode?_encode s.podStatuses
  have herror := optional_ofOption nullable_text s.lastErrorMessage
  have hgeneration := optional_ofOption nullable_int64 s.observedGeneration
  constructor <;> simp [written, encode, fieldsOf, slot?_eq, *]

/-! ## The status behind a patch -/

/-- Behind its patch a status is read as it was written, but for a generation that it does not have
and that was stored before. -/
theorem decode?_merged (hf : Single fields)
    (hold : DataCenterStatus.decode? (.obj fields) = some old) (new : DataCenterStatus) :
    DataCenterStatus.decode? (.obj (mergeFields fields new.changes)) =
      some (new.keepingGeneration old) := by
  refine Reads.decode? ?_
  unfold keepingGeneration
  have hw := new.reads_written
  have hslot : ∀ name ∈ fieldNames, name ≠ "observedGeneration" →
      slot? name (mergeFields fields new.changes) = slot? name new.written :=
    fun name hn hg => slot?_patched hf hn hg
  constructor
  case generation =>
    -- The generation is the one field that is neither written nor cleared when it is absent.
    cases hg : new.observedGeneration with
    | none =>
      have hnone : occurrences "observedGeneration" new.changes = [] := by
        rw [occurrences_generation, hg]
        rfl
      rw [slot?_kept hf new.single_changes hnone, generation_of_decode? hold, Option.none_or]
    | some g =>
      have hone : occurrences "observedGeneration" new.changes = [ofInt64 g] := by
        rw [occurrences_generation, hg]
        rfl
      rw [slot?_put hf new.single_changes hone (fun _ => rfl) nofun]
      exact nullable_int64 g
  all_goals rw [hslot _ (by decide) (by decide)]
  · exact hw.phase
  · exact hw.replicas
  · exact hw.ready
  · exact hw.joined
  · exact hw.racks
  · exact hw.pods
  · exact hw.error

/-- Behind any number of writes the status is that of the last, with the last generation that any
had. -/
theorem decode?_patches (old : DataCenterStatus) (news : List DataCenterStatus) :
    DataCenterStatus.decode? (news.foldl (fun stored new => new.patched stored) old.encode) =
      some (news.foldl (fun old new => new.keepingGeneration old) old) := by
  -- what is carried along is an object that names no field twice
  suffices hs : ∀ fields old, Single fields → DataCenterStatus.decode? (.obj fields) = some old →
      DataCenterStatus.decode? (news.foldl (fun stored new => new.patched stored) (.obj fields)) =
        some (news.foldl (fun old new => new.keepingGeneration old) old) from
    hs old.written old old.single_written old.decode?_encode
  induction news with
  | nil => exact fun fields old _ hold => hold
  | cons new rest ih =>
    intro fields old hf hold
    exact ih _ _ (hf.mergeFields new.single_changes) (decode?_merged hf hold new)

/-- **A status write replaces all but the generation.** Merging the patch that writes a status into
the value of another leaves the status that was written, except that a generation of the other one
stays where the new one has none. So it is what replacing stores exactly if the new status has a
generation or the old one has none. -/
theorem replaced_but_generation (old new : DataCenterStatus) :
    DataCenterStatus.decode? (new.patched old.encode) =
        some (new.keepingGeneration old) ∧
      (DataCenterStatus.decode? (new.patched old.encode) = some new ↔
        (new.observedGeneration = none → old.observedGeneration = none)) := by
  have hmerged := decode?_merged old.single_written old.decode?_encode new
  refine ⟨hmerged, ?_⟩
  rw [show DataCenterStatus.decode? (new.patched old.encode) = _ from hmerged, Option.some_inj,
    keepingGeneration]
  obtain ⟨phase, replicas, ready, joined, racks, pods, error, generation⟩ := new
  cases generation with
  | none => simp
  | some g => simp

/-- A generation that the new status does not have is not cleared. -/
theorem generation_survives :
    ¬∀ old new : DataCenterStatus,
      DataCenterStatus.decode? (new.patched old.encode) = some new := by
  intro h
  let old : DataCenterStatus := { observedGeneration := some 1 }
  have hkept := decode?_merged old.single_written old.decode?_encode {}
  cases (h old {}).symm.trans hkept

end DataCenterStatus

end RackOperator
