import RackOperator.Json.Fields
import RackOperator.Proofs.Encodings
import RackOperator.Store.Patch

/-!
# A task's status as merge patches store it

The API server keeps the status of a task as a JSON value and merges the patch that writes a
status into it (`patched`). A merge patch takes no pod out of the progress map, and the patch
of a status says nothing of a start or finish time that the status does not have. What a
reader finds afterwards is the status that was written if that status covers the one that was
stored: it has an entry for each pod that had one, and a time where there was one
(`TaskStatus.Covers`,
`Mirrors.patched`). The message is no matter, as the patch gives it even
where there is none.
-/

namespace RackOperator

open Json

/-- What the API server stores once the patch that writes a status is merged into what it has. -/
def TaskStatus.patched (s : TaskStatus) (stored : Json) : Json :=
  ((Json.obj [("status", stored)]).merge s.patch).get "status"

/-- A status has all the entries and times that another one has. -/
structure TaskStatus.Covers (s s₀ : TaskStatus) : Prop where
  pods : ∀ pod, s₀.pods.contains pod = true → s.pods.contains pod = true
  started : s₀.startTime.isSome = true → s.startTime.isSome = true
  finished : s₀.finishTime.isSome = true → s.finishTime.isSome = true

/-- A value names no field twice, nor a pod. -/
structure Tidy (stored : Json) : Prop where
  fields : Single (fieldsOf stored)
  pods : ∀ v ∈ occurrences "pods" (fieldsOf stored), Single (fieldsOf v)

/-- A value stores a status, or the lack of one. -/
structure Mirrors (stored : Json) (status : Option TaskStatus) : Prop where
  tidy : Tidy stored
  decodes : nullable TaskStatus.decode? stored = some status

theorem mirrors_null : Mirrors .null none := ⟨⟨.nil, nofun⟩, rfl⟩

/-- Covering is transitive, so a status that covers its forerunner covers all that were stored
before. -/
theorem TaskStatus.Covers.trans {s₀ s s' : TaskStatus} (h' : s'.Covers s) (h : s.Covers s₀) :
    s'.Covers s₀ :=
  ⟨fun pod hp => h'.pods pod (h.pods pod hp), fun ht => h'.started (h.started ht),
    fun ht => h'.finished (h.finished ht)⟩

/-- A status with the same entries and times covers another, whatever its phase and message say. -/
theorem TaskStatus.covers_of_eq {s s' : TaskStatus} (hp : s'.pods = s.pods)
    (hs : s'.startTime = s.startTime) (hf : s'.finishTime = s.finishTime) : s'.Covers s :=
  ⟨fun _ h => hp ▸ h, fun h => hs ▸ h, fun h => hf ▸ h⟩

theorem TaskStatus.Covers.refl (s : TaskStatus) : s.Covers s := covers_of_eq rfl rfl rfl

/-! ## Pairs -/

section Pairs

variable {fields : List (String × Json)}

/-- The pairs of an object whose values are all read, in the order of its fields. -/
theorem pairs?_of_forall {α : Type} {read : Json → Option α} {value : String → α}
    (h : ∀ q ∈ fields, read q.2 = some (value q.1)) :
    pairs? read (.obj fields) = some (fields.map fun q => (q.1, value q.1)) := by
  show (fields.mapM fun p => (read p.2).map fun a => (p.1, a)) = _
  induction fields with
  | nil => rfl
  | cons q rest ih =>
    obtain ⟨hq, hrest⟩ := List.forall_mem_cons.mp h
    rw [List.mapM_cons, hq, ih hrest]
    rfl

/-- The pairs read of an object have its names, each as often as it occurs there. -/
theorem names_of_pairs? {α : Type} {read : Json → Option α} {pairs : List (String × α)}
    (h : pairs? read (.obj fields) = some pairs) :
    pairs.map (·.1) = fields.map (·.1) := by
  change (fields.mapM fun p => (read p.2).map fun a => (p.1, a)) = some pairs at h
  induction fields generalizing pairs with
  | nil =>
    cases h
    rfl
  | cons q rest ih =>
    rw [List.mapM_cons] at h
    obtain ⟨p, hp, h⟩ := Option.bind_eq_some_iff.mp h
    obtain ⟨ps, hps, h⟩ := Option.bind_eq_some_iff.mp h
    obtain ⟨a, -, rfl⟩ := Option.map_eq_some_iff.mp hp
    cases h
    rw [List.map_cons, List.map_cons, ih hps]

end Pairs

namespace TaskStatus

variable {fields : List (String × Json)} {s s₀ s' : TaskStatus} {stored : Json}

/-- The progress map of a record, from what stands at its field. -/
def readPods : Slot → Option Progress :=
  withDefault {} fun j => (pairs? Tagged.decode? j).map SortedMap.ofList

/-- A status is read from an object field by field. Each field is looked up by its name, so the
order of the fields is of no account. -/
theorem decode?_obj : decode? (.obj fields) = some s ↔
    ∃ phase pods message started finished,
      slot? "phase" fields = some phase ∧ slot? "pods" fields = some pods ∧
      slot? "lastMessage" fields = some message ∧ slot? "startTime" fields = some started ∧
      slot? "finishTime" fields = some finished ∧
      withDefault .waiting Tagged.decode? phase = some s.phase ∧
      readPods pods = some s.pods ∧ optional text? message = some s.lastMessage ∧
      optional text? started = some s.startTime ∧
      optional text? finished = some s.finishTime := by
  -- The five slots are found first, whatever stands in them; only then is each one decoded.
  have hslots : ∀ a b c d e, slots? fieldNames (.obj fields) = some [a, b, c, d, e] ↔
      slot? "phase" fields = some a ∧ slot? "pods" fields = some b ∧
      slot? "lastMessage" fields = some c ∧ slot? "startTime" fields = some d ∧
      slot? "finishTime" fields = some e := by
    simp [slots?, fieldNames, Option.bind_eq_some_iff]
  unfold decode?
  constructor
  · intro h
    obtain ⟨slots, hs, h⟩ := Option.bind_eq_some_iff.mp h
    split at h
    next phase pods message started finished =>
      obtain ⟨h₁, h₂, h₃, h₄, h₅⟩ := (hslots ..).mp hs
      obtain ⟨p, hp, h⟩ := Option.bind_eq_some_iff.mp h
      obtain ⟨ps, hps, h⟩ := Option.bind_eq_some_iff.mp h
      obtain ⟨m, hm, h⟩ := Option.bind_eq_some_iff.mp h
      obtain ⟨st, hst, h⟩ := Option.bind_eq_some_iff.mp h
      obtain ⟨f, hf, h⟩ := Option.bind_eq_some_iff.mp h
      cases h
      exact ⟨_, _, _, _, _, h₁, h₂, h₃, h₄, h₅, hp, hps, hm, hst, hf⟩
    next => cases h
  · rintro ⟨phase, pods, message, started, finished, h₁, h₂, h₃, h₄, h₅, hp, hps, hm, hst, hf⟩
    rw [(hslots ..).mpr ⟨h₁, h₂, h₃, h₄, h₅⟩]
    unfold readPods at hps
    dsimp only [Option.bind_eq_bind, Option.bind_some]
    rw [hp, Option.bind_some, hps, Option.bind_some, hm, Option.bind_some, hst, Option.bind_some,
      hf]
    rfl

/-! ## The patch -/

/-- The fields a patch gives. -/
def changes (s : TaskStatus) : List (String × Json) :=
  [("phase", Tagged.encode s.phase)] ++ omitNone "pods" (encodeMap Tagged.encode s.pods)
    ++ omitNone "lastMessage" (s.lastMessage.map .str)
    ++ omitNone "startTime" (s.startTime.map .str)
    ++ omitNone "finishTime" (s.finishTime.map .str)
    ++ if s.lastMessage.isNone then [("lastMessage", .null)] else []

/-- A patch carries the fields of a status and sets the message to `null` where there is none. -/
theorem clearing_encode (s : TaskStatus) : s.encode.clearing ["lastMessage"] = .obj s.changes := by
  unfold encode changes clearing
  simp only [Json.lastNamed_eq, occurrences_append, occurrences_cons, occurrences_nil,
    occurrences_omitNone]
  cases s.lastMessage <;> rfl

/-- Merging a patch goes field by field through the stored status. -/
theorem patched_eq (stored : Json) (s : TaskStatus) :
    s.patched stored = .obj (mergeFields (fieldsOf stored) s.changes) := by
  unfold patched patch
  rw [clearing_encode]
  rfl

theorem occurrences_phase (s : TaskStatus) :
    occurrences "phase" s.changes = [Tagged.encode s.phase] := by
  cases h : s.lastMessage <;> simp [changes, h]

theorem occurrences_pods (s : TaskStatus) :
    occurrences "pods" s.changes = (encodeMap Tagged.encode s.pods).toList := by
  cases h : s.lastMessage <;> simp [changes, h]

/-- The message stands in every patch, as a text or as `null`, so an old one never shows through. -/
theorem occurrences_message (s : TaskStatus) :
    occurrences "lastMessage" s.changes = [ofText? s.lastMessage] := by
  cases h : s.lastMessage <;> simp [changes, ofText?, orNull, h]

/-- A time that is absent is left out of the patch, and the stored one would stay. -/
theorem occurrences_started (s : TaskStatus) :
    occurrences "startTime" s.changes = (s.startTime.map .str).toList := by
  cases h : s.lastMessage <;> simp [changes, h]

theorem occurrences_finished (s : TaskStatus) :
    occurrences "finishTime" s.changes = (s.finishTime.map .str).toList := by
  cases h : s.lastMessage <;> simp [changes, h]

theorem length_toList_le {α : Type} (o : Option α) : o.toList.length ≤ 1 := by
  cases o <;> simp

/-- A patch names no field twice. Its names are those of the fields written and of those cleared,
and a field is cleared only where it is not written. -/
theorem single_changes (s : TaskStatus) : Single s.changes := by
  intro name
  by_cases h₁ : name = "phase"
  · rw [h₁, occurrences_phase]
    exact Nat.le_refl 1
  by_cases h₂ : name = "pods"
  · rw [h₂, occurrences_pods]
    exact length_toList_le _
  by_cases h₃ : name = "lastMessage"
  · rw [h₃, occurrences_message]
    exact Nat.le_refl 1
  by_cases h₄ : name = "startTime"
  · rw [h₄, occurrences_started]
    exact length_toList_le _
  by_cases h₅ : name = "finishTime"
  · rw [h₅, occurrences_finished]
    exact length_toList_le _
  -- no other name is given at all
  suffices hnone : occurrences name s.changes = [] by
    rw [hnone]
    exact Nat.zero_le 1
  cases h : s.lastMessage <;>
    simp [changes, h, Ne.symm h₁, Ne.symm h₂, Ne.symm h₃, Ne.symm h₄, Ne.symm h₅]

/-! ## The progress map -/

/-- The fields a progress map is written as. -/
def podFields (pods : Progress) : List (String × Json) :=
  pods.entries.map fun p => (p.1, Tagged.encode p.2)

/-- The entry of a pod stands in the object of a progress map under the name of the pod. -/
theorem occurrences_podFields (pods : Progress) (name : String) :
    occurrences name (podFields pods) = ((pods.find? name).map Tagged.encode).toList := by
  show occurrences name (pods.entries.map fun p => (p.1, Tagged.encode p.2)) =
    ((SortedMap.lookup name pods.entries).map Tagged.encode).toList
  have hin := pods.increasing
  revert hin
  induction pods.entries with
  | nil => exact fun _ => rfl
  | cons p rest ih =>
    intro hin
    obtain ⟨hp, hrest⟩ := List.pairwise_cons.mp hin
    rw [List.map_cons, occurrences_cons, ih hrest, SortedMap.lookup]
    by_cases he : p.1 = name
    · rw [if_pos he, if_pos he]
      -- the names behind it come later in the order
      cases hl : SortedMap.lookup name rest with
      | none => rfl
      | some a =>
        have hlt := hp _ (SortedMap.mem_of_lookup hl)
        rw [he] at hlt
        exact absurd hlt (String.lt_irrefl name)
    · rw [if_neg he, if_neg he]

theorem single_podFields (pods : Progress) : Single (podFields pods) := by
  intro name
  rw [occurrences_podFields]
  exact length_toList_le _

/-- An object whose fields are those of a progress map, in any order, reads as the map. Merging
keeps stored fields in their places, so the order is not that of the map. -/
theorem readPods_of_occurrences {pods : Progress}
    (h : ∀ name, occurrences name fields = ((pods.find? name).map Tagged.encode).toList) :
    readPods (.given (.obj fields)) = some pods := by
  let phase : String → TaskPhase := fun name => (pods.find? name).getD .waiting
  -- A field stands under its name at most once, so what stands there is the encoded entry.
  have hall : ∀ q ∈ fields, pods.find? q.1 = some (phase q.1) ∧
      Tagged.decode? q.2 = some (phase q.1) := by
    intro q hq
    have hv : q.2 ∈ occurrences q.1 fields := mem_occurrences.mpr hq
    rw [h] at hv
    cases hp : pods.find? q.1 with
    | none =>
      rw [hp] at hv
      cases hv
    | some p =>
      rw [hp] at hv
      rw [List.mem_singleton.mp hv, show phase q.1 = p by simp only [phase, hp, Option.getD_some]]
      exact ⟨rfl, TaskPhase.decode?_encode p⟩
  have hf : Single fields := fun name => by
    rw [h]
    exact length_toList_le _
  show (pairs? Tagged.decode? (.obj fields)).map SortedMap.ofList = some pods
  rw [pairs?_of_forall fun q hq => (hall q hq).2]
  refine congrArg some (SortedMap.ext_find? fun name => ?_)
  have hkeys : (fields.map fun q => (q.1, phase q.1)).map (·.1) = fields.map (·.1) := by
    rw [List.map_map]
    rfl
  by_cases hmem : name ∈ fields.map (·.1)
  · obtain ⟨q, hq, rfl⟩ := List.mem_map.mp hmem
    rw [(hall q hq).1]
    exact SortedMap.find?_ofList (hkeys ▸ hf.nodup) (List.mem_map_of_mem hq)
  · rw [SortedMap.find?_ofList_of_notMem (hkeys ▸ hmem)]
    cases hp : pods.find? name with
    | none => rfl
    | some p =>
      have hv : Tagged.encode p ∈ occurrences name fields := by
        rw [h, hp]
        exact List.mem_singleton_self _
      exact absurd (List.mem_map_of_mem (f := (·.1)) (mem_occurrences.mp hv)) hmem

/-- Entries that are written over do not show, if every pod stored is among those written. -/
theorem readPods_merged {pods : Progress} (hf : Single fields)
    (hold : ∀ p ∈ fields, pods.contains p.1 = true) :
    readPods (.given (.obj (mergeFields fields (podFields pods)))) = some pods := by
  refine readPods_of_occurrences fun name => ?_
  rw [occurrences_mergeFields hf (single_podFields pods), occurrences_podFields]
  cases hp : pods.find? name with
  | some phase => rfl
  | none =>
    -- a name that is not written has no old entry either
    refine List.eq_nil_iff_forall_not_mem.mpr fun v hv => ?_
    have hin := hold _ (mem_occurrences.mp hv)
    unfold SortedMap.contains at hin
    rw [hp] at hin
    cases hin

/-! ## The status behind a patch -/

/-- What stands in a value that a patch of a status does not write over is not to be seen behind
it. -/
structure Residue (fields : List (String × Json)) (s : TaskStatus) : Prop where
  pods : ∀ v ∈ occurrences "pods" fields, ∃ fs, v = .obj fs ∧ Single fs ∧
    ∀ p ∈ fs, s.pods.contains p.1 = true
  started : s.startTime = none → ∀ v ∈ occurrences "startTime" fields, v = .null
  finished : s.finishTime = none → ∀ v ∈ occurrences "finishTime" fields, v = .null

/-- A text that may be left out is read behind a merge as the patch has it. If the patch leaves it
out, none may be stored, since merging would keep that. -/
theorem optional_changed {name : String} {change : Option String}
    (hc : occurrences name s.changes = (change.map .str).toList) (hf : Single fields)
    (hold : change = none → ∀ v ∈ occurrences name fields, v = .null) :
    ∃ slot, slot? name (mergeFields fields s.changes) = some slot ∧
      optional text? slot = some change := by
  have hm := occurrences_mergeFields hf s.single_changes name
  rw [hc] at hm
  cases change with
  | some text => exact ⟨_, slot?_of_singleton hm, rfl⟩
  | none =>
    change occurrences name _ = occurrences name fields at hm
    match ho : occurrences name fields, hf name with
    | [], _ => exact ⟨_, slot?_of_nil (hm.trans ho), rfl⟩
    | [v], _ =>
      have hnull := hold rfl v (ho ▸ List.mem_singleton_self v)
      rw [ho, hnull] at hm
      exact ⟨_, slot?_of_singleton hm, rfl⟩

/-- Behind the merge the progress map is the one written. The map is merged pod by pod, so this
needs that every pod stored before is among those that are written. -/
theorem pods_changed (hf : Single fields) (hr : Residue fields s) :
    ∃ slot, slot? "pods" (mergeFields fields s.changes) = some slot ∧
      readPods slot = some s.pods := by
  have hm := occurrences_mergeFields hf s.single_changes "pods"
  rw [occurrences_pods] at hm
  unfold encodeMap at hm
  split at hm
  next hempty =>
    change occurrences "pods" _ = occurrences "pods" fields at hm
    have hnil : s.pods = {} := SortedMap.eq_empty hempty
    match ho : occurrences "pods" fields, hf "pods" with
    | [], _ => exact ⟨_, slot?_of_nil (hm.trans ho), congrArg some hnil.symm⟩
    | [v], _ =>
      -- an entry left there would have one in the status
      obtain ⟨fs, rfl, -, hin⟩ := hr.pods v (ho ▸ List.mem_singleton_self v)
      have hfs : fs = [] := by
        refine List.eq_nil_iff_forall_not_mem.mpr fun p hp => ?_
        have hcontains := hin p hp
        rw [hnil] at hcontains
        cases hcontains
      rw [ho, hfs] at hm
      exact ⟨_, slot?_of_singleton hm, congrArg some hnil.symm⟩
  next =>
    have hmerged : occurrences "pods" (mergeFields fields s.changes) =
        [.obj (mergeFields (fieldsOf ((occurrences "pods" fields).head?.getD .null))
          (podFields s.pods))] := hm
    refine ⟨_, slot?_of_singleton hmerged, ?_⟩
    cases ho : occurrences "pods" fields with
    | nil => exact readPods_merged .nil nofun
    | cons v rest =>
      obtain ⟨fs, rfl, hsingle, hin⟩ := hr.pods v (ho ▸ List.mem_cons_self)
      exact readPods_merged hsingle hin

/-- Behind its patch a status is read as it was written, as nothing that is left of the stored one
is seen. -/
theorem decode?_merged (hf : Single fields) (hr : Residue fields s) :
    decode? (.obj (mergeFields fields s.changes)) = some s := by
  have hphase := occurrences_mergeFields hf s.single_changes "phase"
  rw [occurrences_phase] at hphase
  obtain ⟨pods, hpods, hreadPods⟩ := pods_changed hf hr
  obtain ⟨started, hstarted, hreadStarted⟩ :=
    optional_changed s.occurrences_started hf hr.started
  obtain ⟨finished, hfinished, hreadFinished⟩ :=
    optional_changed s.occurrences_finished hf hr.finished
  have hmessage : ∃ slot, slot? "lastMessage" (mergeFields fields s.changes) = some slot ∧
      optional text? slot = some s.lastMessage := by
    have hm := occurrences_mergeFields hf s.single_changes "lastMessage"
    rw [occurrences_message] at hm
    cases hs : s.lastMessage with
    | none =>
      rw [hs] at hm
      exact ⟨_, slot?_of_nil hm, rfl⟩
    | some text =>
      rw [hs] at hm
      exact ⟨_, slot?_of_singleton hm, rfl⟩
  obtain ⟨message, hmessage, hreadMessage⟩ := hmessage
  exact decode?_obj.mpr ⟨_, _, _, _, _, slot?_of_singleton hphase, hpods, hmessage, hstarted,
    hfinished, TaskPhase.decode?_encode s.phase, hreadPods, hreadMessage, hreadStarted,
    hreadFinished⟩

/-- The pods named in an object are those of the map it is read as, so to cover the map is to cover
the object. -/
theorem contains_of_readPods {v : Json} {pods : Progress} (hv : Single (fieldsOf v))
    (h : readPods (.given v) = some pods) :
    ∃ fs, v = .obj fs ∧ ∀ p ∈ fs, pods.contains p.1 = true := by
  obtain ⟨ps, hps, rfl⟩ := Option.map_eq_some_iff.mp h
  cases v with
  | obj fs =>
    have hkeys := names_of_pairs? hps
    refine ⟨fs, rfl, fun p hp => ?_⟩
    have hmem : p.1 ∈ ps.map (·.1) := hkeys ▸ List.mem_map_of_mem hp
    obtain ⟨q, hq, hname⟩ := List.mem_map.mp hmem
    have hfind := SortedMap.find?_ofList (k := q.1) (a := q.2) (hkeys ▸ Single.nodup hv) hq
    unfold SortedMap.contains
    rw [← hname, hfind]
    rfl
  | _ => cases hps

/-- A text that may be missing is read as missing only from `null`. -/
theorem eq_null_of_nullable {v : Json} (h : nullable text? v = some none) : v = .null := by
  cases v <;> first | rfl | cases h

theorem eq_none_of_isSome {α : Type} {o o' : Option α} (h : o.isSome = true → o'.isSome = true)
    (ho' : o' = none) : o = none := by
  subst ho'
  cases o with
  | none => rfl
  | some a => cases h rfl

/-- A status that covers the one stored leaves nothing of it to be seen: what it leaves out was not
stored either. -/
theorem residue_of_covers (hj : Tidy stored) {status : Option TaskStatus}
    (hd : nullable decode? stored = some status) (hc : s.Covers (status.getD {})) :
    Residue (fieldsOf stored) s := by
  cases hs : stored with
  | obj fields =>
    subst hs
    obtain ⟨s₀, hs₀, rfl⟩ := Option.map_eq_some_iff.mp hd
    obtain ⟨_, pods, _, started, finished, -, hpods, -, hstarted, hfinished, -, hreadPods, -,
      hreadStarted, hreadFinished⟩ := decode?_obj.mp hs₀
    refine ⟨fun v hv => ?_, fun hnone v hv => ?_, fun hnone v hv => ?_⟩
    · rw [eq_given_of_mem hpods hv] at hreadPods
      obtain ⟨fs, rfl, hin⟩ := contains_of_readPods (hj.pods v hv) hreadPods
      exact ⟨fs, rfl, hj.pods _ hv, fun p hp => hc.pods p.1 (hin p hp)⟩
    · rw [eq_given_of_mem hstarted hv] at hreadStarted
      refine eq_null_of_nullable (hreadStarted.trans (congrArg some ?_))
      exact eq_none_of_isSome hc.started hnone
    · rw [eq_given_of_mem hfinished hv] at hreadFinished
      refine eq_null_of_nullable (hreadFinished.trans (congrArg some ?_))
      exact eq_none_of_isSome hc.finished hnone
  -- Nothing but an object has fields that a merge could leave behind.
  | _ => exact ⟨nofun, fun _ => nofun, fun _ => nofun⟩

end TaskStatus

/-- What is stored behind a patch names no field twice, so the next patch finds it as tidy as this
one. -/
theorem Tidy.patched {stored : Json} (h : Tidy stored) (s : TaskStatus) :
    Tidy (s.patched stored) := by
  rw [TaskStatus.patched_eq]
  refine ⟨h.fields.mergeFields s.single_changes, fun v hv => ?_⟩
  change v ∈ occurrences "pods" (mergeFields (fieldsOf stored) s.changes) at hv
  rw [occurrences_mergeFields h.fields s.single_changes, TaskStatus.occurrences_pods] at hv
  unfold encodeMap at hv
  split at hv
  next => exact h.pods v hv
  next =>
    rw [List.mem_singleton.mp hv]
    refine Single.mergeFields ?_ (TaskStatus.single_podFields s.pods)
    cases ho : occurrences "pods" (fieldsOf stored) with
    | nil => exact .nil
    | cons v rest => exact h.pods v (ho ▸ List.mem_cons_self)

/-- **What merging a status stores is read as replacing it stores**, if the status that is written
covers the one stored. -/
theorem Mirrors.decode?_patched {stored : Json} {status : Option TaskStatus} {s : TaskStatus}
    (h : Mirrors stored status) (hc : s.Covers (status.getD {})) :
    TaskStatus.decode? (s.patched stored) = some s := by
  rw [TaskStatus.patched_eq]
  exact TaskStatus.decode?_merged h.tidy.fields
    (TaskStatus.residue_of_covers h.tidy h.decodes hc)

/-- So the stored JSON goes on mirroring the status through any number of patches, as long as each
status covers the one before. -/
theorem Mirrors.patched {stored : Json} {status : Option TaskStatus} {s : TaskStatus}
    (h : Mirrors stored status) (hc : s.Covers (status.getD {})) :
    Mirrors (s.patched stored) (some s) := by
  refine ⟨h.tidy.patched s, ?_⟩
  have hd := h.decode?_patched hc
  rw [TaskStatus.patched_eq] at hd ⊢
  exact congrArg (Option.map some) hd

end RackOperator
