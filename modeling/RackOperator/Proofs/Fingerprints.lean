import RackOperator.Fixture
import RackOperator.Observation
import RackOperator.Proofs.Decisions
import RackOperator.Proofs.Numerals

/-!
# A recorded generation lasts

What a StatefulSet records is there until it is built anew. Blanks around a text do not count when
the text is read (`recordedGeneration_padded`), another count is written beside the annotation
(`eq_setReplicas_iff`), and what the cluster reports is kept apart from it. So no run of such
changes has a StatefulSet record another generation (`recordedGeneration_after`).

From this a rack that is written once is not written again: it is behind the generations after its
own and no others, whatever has become of its StatefulSet since (`generation_kept`).
-/

namespace RackOperator

open Text

namespace StatefulSet

/-! ## Counts -/

/-- Two StatefulSets alike in all but the replica count asked for. -/
structure AlikeButCount (s s' : StatefulSet) : Prop where
  metadata : s'.metadata = s.metadata
  status : s'.status = s.status
  rest : s'.spec.map (·.rest) = s.spec.map (·.rest)

/-- To ask for a count is to change that and nothing else: every StatefulSet that is alike but for
the count, and has this one, is the one that `setReplicas` gives. -/
theorem eq_setReplicas_iff {s s' : StatefulSet} {n : Int32} :
    s' = s.setReplicas n ↔ s.AlikeButCount s' ∧ ∀ spec ∈ s'.spec, spec.replicas = some n := by
  obtain ⟨metadata, spec, status⟩ := s
  obtain ⟨metadata', spec', status'⟩ := s'
  constructor
  · intro h
    obtain ⟨rfl, rfl, rfl⟩ := StatefulSet.mk.inj h
    refine ⟨⟨rfl, rfl, ?_⟩, ?_⟩
    · cases spec <;> rfl
    · intro asked hasked
      obtain ⟨_, -, rfl⟩ := Option.map_eq_some_iff.mp hasked
      rfl
  · rintro ⟨⟨hmetadata, hstatus, hrest⟩, hcount⟩
    have hspec : spec' = spec.map fun s => { s with replicas := some n } := by
      -- A StatefulSet without a spec asks for no count, and gets none.
      cases spec' with
      | none =>
        cases spec with
        | none => rfl
        | some spec => cases hrest
      | some spec' =>
        cases spec with
        | none => cases hrest
        | some spec =>
          obtain ⟨replicas, rest⟩ := spec'
          obtain rfl : replicas = some n := hcount _ rfl
          obtain rfl : rest = spec.rest := Option.some.inj hrest
          rfl
    exact StatefulSet.mk.injEq .. ▸ ⟨hmetadata, hspec, hstatus⟩

theorem AlikeButCount.recordedGeneration {s s' : StatefulSet} (h : s.AlikeButCount s') :
    s'.recordedGeneration = s.recordedGeneration := by
  unfold StatefulSet.recordedGeneration
  rw [h.metadata]

/-! ## Changes -/

/-- Annotations with text put around the generation, if there is one. -/
def padAnnotations (before behind : String) (a : SortedMap String String) :
    SortedMap String String :=
  match a.find? generationMark with
  | some text => a.insert generationMark (before ++ text ++ behind)
  | none => a

/-- Blanks around every annotation are around the recorded generation too. -/
theorem find?_padAnnotations (before behind : String) (a : SortedMap String String) :
    (padAnnotations before behind a).find? generationMark =
      (a.find? generationMark).map fun text => before ++ text ++ behind := by
  unfold padAnnotations
  cases ha : a.find? generationMark with
  | none => exact ha
  | some text =>
    show (a.insert _ _).find? _ = _
    rw [SortedMap.find?_insert, if_pos rfl, Option.map_some]

/-- The StatefulSet with text put around the generation that it records. -/
def padded (s : StatefulSet) (before behind : String) : StatefulSet :=
  let annotations := s.metadata.annotations.map (padAnnotations before behind)
  { s with metadata := { s.metadata with annotations } }

/-- The recorded generation is read through them. -/
theorem recordedGeneration_padded (s : StatefulSet) (before behind : Blanks) :
    (s.padded before.text behind.text).recordedGeneration = s.recordedGeneration := by
  show ((s.metadata.annotations.map _).bind _).bind _ =
    (s.metadata.annotations.bind _).bind _
  cases s.metadata.annotations with
  | none => rfl
  | some a =>
    rw [Option.map_some, Option.bind_some, Option.bind_some, find?_padAnnotations]
    cases a.find? generationMark with
    | none => rfl
    | some text =>
      rw [Option.map_some, Option.bind_some, Option.bind_some, String.toList_append,
        String.toList_append, trimmed_append before.isBlank_of_mem behind.isBlank_of_mem]

/-- What may become of a StatefulSet that is not built anew. -/
inductive Change
  /-- Another count is asked for. -/
  | resized (n : Int32)
  /-- Blanks are put around the generation that it records. -/
  | padded (before behind : Blanks)
  /-- The cluster says what has become of the pods. -/
  | reported (status : Option StatefulSetStatus)

/-- A StatefulSet after a change. -/
def Change.apply (s : StatefulSet) : Change → StatefulSet
  | resized n => s.setReplicas n
  | padded before behind => s.padded before.text behind.text
  | reported status => { s with status }

/-- A StatefulSet after some changes. -/
def after (s : StatefulSet) (cs : List Change) : StatefulSet := cs.foldl Change.apply s

/-- No change has another generation recorded: neither padding nor resizing nor a status. -/
theorem recordedGeneration_apply (s : StatefulSet) (c : Change) :
    (c.apply s).recordedGeneration = s.recordedGeneration := by
  cases c with
  | resized n => exact (eq_setReplicas_iff.mp rfl).1.recordedGeneration
  | padded before behind => exact s.recordedGeneration_padded before behind
  | reported status => rfl

/-- No run of changes has another generation recorded. The induction is on the changes. -/
theorem recordedGeneration_after (s : StatefulSet) (cs : List Change) :
    (s.after cs).recordedGeneration = s.recordedGeneration := by
  induction cs generalizing s with
  | nil => rfl
  | cons c cs ih => exact (ih (c.apply s)).trans (s.recordedGeneration_apply c)

end StatefulSet

/-! ## Modes -/

/-- A rack whose StatefulSet records a generation is behind the later ones, as long as the count is
the one wanted. -/
theorem Observation.behind_iff {naming : Naming} {group : RackGroup} {g g' : Int64}
    (h : group.existing.recordedGeneration = some g.toInt) :
    (view naming (some g'.toInt) group).mode = .behind ↔
      group.desiredReplicas = group.existingReplicas ∧ g < g' := by
  show RackMode.classify _ _ group.existing.recordedGeneration _ = _ ↔ _
  rw [h]
  constructor
  · intro hmode
    have hsame := RackMode.classify_behind hmode
    rw [hsame] at hmode
    obtain ⟨_, hr, _, hc, hlt⟩ := RackMode.classify_behind_iff.mp hmode
    obtain rfl := Option.some.inj hr
    obtain rfl := Option.some.inj hc
    exact ⟨hsame, Int64.lt_iff_toInt_lt.mpr hlt⟩
  · rintro ⟨hsame, hlt⟩
    rw [hsame]
    exact RackMode.classify_behind_iff.mpr ⟨_, rfl, _, rfl, Int64.lt_iff_toInt_lt.mp hlt⟩

namespace DataCenter

/-- **A generation that was recorded is read back.** The StatefulSet of a rack, at whatever count,
records the generation of the DataCenter that it is built from, and keeps it through any changes.
So its rack is not behind at that generation, and at equal counts it is behind just the later
ones. To ask for another count is to change the count alone, and so not what is recorded. -/
theorem generation_kept {dc : DataCenter} {g : Int64} (hg : dc.metadata.generation = some g)
    (r : Rack) (n : Int32) (cs : List StatefulSet.Change) :
    ((dc.statefulSet r n).after cs).recordedGeneration = some g.toInt ∧
      (∀ (naming : Naming) (group : RackGroup), group.existing = (dc.statefulSet r n).after cs →
        (Observation.view naming (some g.toInt) group).mode ≠ .behind ∧
          ∀ g' : Int64, (Observation.view naming (some g'.toInt) group).mode = .behind ↔
            group.desiredReplicas = group.existingReplicas ∧ g < g') ∧
      (dc.statefulSet r n).replicas32 = n ∧
      ∀ (s : StatefulSet) (m : Int32),
        (s.setReplicas m).recordedGeneration = s.recordedGeneration ∧
          ∀ s', s' = s.setReplicas m ↔
            s.AlikeButCount s' ∧ ∀ spec ∈ s'.spec, spec.replicas = some m := by
  have hkept : ((dc.statefulSet r n).after cs).recordedGeneration = some g.toInt := by
    rw [StatefulSet.recordedGeneration_after, recordedGeneration_statefulSet, hg, Option.map_some]
  refine ⟨hkept, ?_, rfl, fun s m =>
    ⟨s.recordedGeneration_apply (.resized m), fun _ => StatefulSet.eq_setReplicas_iff⟩⟩
  intro naming group hgroup
  have hrecorded : group.existing.recordedGeneration = some g.toInt := by rw [hgroup, hkept]
  refine ⟨fun hmode => ?_, fun g' => Observation.behind_iff hrecorded⟩
  exact Int64.lt_irrefl (Observation.behind_iff hrecorded |>.mp hmode).2

/-- A DataCenter of the least generation there is. -/
def ofLeastGeneration : DataCenter :=
  { Fixture.dataCenter "dc1" 3 1 with metadata := { generation := some Int64.minValue } }

/-- With a tab in front of what is recorded, a wide space behind it, and a pod less. -/
theorem least_generation_kept :
    ofLeastGeneration.metadata.generation = some Int64.minValue ∧
      ((ofLeastGeneration.statefulSet (.new 0) 3).after
        [.padded ⟨"\t", by decide⟩ ⟨"\u3000", by decide⟩, .resized 2]).recordedGeneration =
          some Int64.minValue.toInt := by
  have hg : ofLeastGeneration.metadata.generation = some Int64.minValue := rfl
  exact ⟨hg, (generation_kept hg _ _ _).1⟩

end DataCenter

end RackOperator
