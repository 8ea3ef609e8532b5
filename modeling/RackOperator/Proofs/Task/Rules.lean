import RackOperator.Advance
import RackOperator.Proofs.Histories
import RackOperator.Proofs.Maps
import RackOperator.Proofs.Names

/-!
# The parts of an advance, with a rule for each

Much of what is proved of an advance is of one form: whatever the effects are answered, each of them
is as `P` says of it and of what was done before (`Work.Holds`). A rule says what this takes for one
function of an advance: what has to be known of its own effects, and what of the functions it goes
on to. Only the rules open the code for this.

A walk over the members has the rule of a loop. `holds_walk_of` asks what one visit keeps of what
holds between visits, and is the one induction over the members; that those ahead still wait is
kept by the rule itself. `holds_proceed_of` puts the parts together, and knows of the members that
they have pods of their own.
-/

namespace RackOperator

open Work

/-- Whether an effect reads or writes a task. -/
def Effect.onTask : Effect → Bool
  | .store (.getTask ..) => true
  | .store (.createTask ..) => true
  | .store (.deleteTask ..) => true
  | .store (.replaceTaskStatus ..) => true
  | _ => false

/-- An effect that touches no task and no sidecar. -/
structure Effect.Quiet (e : Effect) : Prop where
  onTask : e.onTask = false
  isSidecar : e.isSidecar = false

namespace Advance

/-- The task is read. -/
def reading (key : NamespacedName) (found : Option CassandraTask) : Answered :=
  ⟨.store (.getTask key.ns key.name), (.ok found : Except _ (Option CassandraTask))⟩

/-- A status is stored. -/
def storing (key : NamespacedName) (s : TaskStatus) : Answered :=
  ⟨.store (.replaceTaskStatus key.ns key.name s), (.ok () : Except _ Unit)⟩

/-- The DataCenter that a task names is looked up. -/
def locating (key : NamespacedName) (t : CassandraTask) (found : Option DataCenter) : Answered :=
  ⟨.store (.getDataCenter key.ns t.spec.datacenter), (.ok found : Except _ (Option DataCenter))⟩

variable {key : NamespacedName} {run : Run} {P : History → Effect → Prop}
  {Q : History → TaskStatus → Prop} {h : History} {s : TaskStatus} {m : Member}

/-- Storing a status is one effect, and what follows is only due behind one that was acknowledged.
-/
theorem holds_persist_bind {α : Type} {f : Unit → Work α} {Q : History → α → Prop}
    (hstore : P h (.store (.replaceTaskStatus key.ns key.name s)))
    (hf : (f ()).Holds P Q (h ++ [storing key s])) : (persist key s >>= f).Holds P Q h :=
  (holds_store_bind _ _).mpr ⟨hstore, fun _ => hf⟩

/-! ## One member -/

/-- A member's sidecar is got hold of and then asked. If it cannot be got hold of, that is the
outcome. -/
theorem holds_step_of {Q : History → Except OperatorError Unit → Prop} (hconnect : P h (.connect m))
    (hdeaf : ∀ e, Q (h ++ [⟨.connect m, (.error e : Except OperatorError Unit)⟩]) (.error e))
    (hask : ∀ u request,
      P (h ++ [⟨.connect m, (.ok u : Except OperatorError Unit)⟩]) (.request m request))
    (hasked : ∀ u request (reply : Except OperatorError (SidecarRequest.Reply request)),
      Q (h ++ [⟨.connect m, (.ok u : Except OperatorError Unit)⟩] ++ [⟨.request m request, reply⟩])
        (judged request m reply)) :
    (step run m).Holds P Q h := by
  refine (Program.holds_bind _ _ _).mpr ⟨hconnect, fun reply => ?_⟩
  cases reply with
  | error e => exact hdeaf e
  | ok u =>
    refine (Program.holds_bind _ _ _).mpr ⟨hask u _, fun reply => ?_⟩
    have hjudged := hasked u _ reply
    cases reply with
    | error e => exact hjudged
    | ok reply => exact hjudged

theorem find?_begin_of_ne {pod : String} (hn : m.name ≠ pod) :
    (begin s m).pods.find? pod = s.pods.find? pod := by
  show (s.pods.insert m.name .running).find? pod = _
  rw [SortedMap.find?_insert, if_neg hn]

theorem find?_record_of_ne {outcome : Except OperatorError Unit} {pod : String}
    (hn : m.name ≠ pod) : (record s m outcome).pods.find? pod = s.pods.find? pod := by
  cases outcome with
  | ok u =>
    show (s.pods.insert m.name .succeed).find? pod = _
    rw [SortedMap.find?_insert, if_neg hn]
  | error e =>
    show (s.pods.insert m.name .failed).find? pod = _
    rw [SortedMap.find?_insert, if_neg hn]

/-! ## The two ways of walking the members -/

/-- Where a walk goes from a member's outcome. -/
def onward (run : Run) (pacing : Nat) (failFast : Bool) (s : TaskStatus) (rest : List Member) :
    Except OperatorError Unit → Work TaskStatus
  | .error _ => if failFast then return s else walk run pacing failFast true s rest
  | .ok _ => walk run pacing failFast true s rest

/-- A walk from a member on, behind the pause if there is one. -/
def visit (run : Run) (pacing : Nat) (failFast : Bool) (s : TaskStatus) (m : Member)
    (rest : List Member) : Work TaskStatus := do
  persist run.key (begin s m)
  let outcome ← ofProgram (step run m)
  persist run.key (record (begin s m) m outcome)
  onward run pacing failFast (record (begin s m) m outcome) rest outcome

/-- A walk pauses before every member but the first, if there is to be a pause, and then visits the
next one. -/
theorem walk_cons {pacing : Nat} {failFast paused : Bool} {rest : List Member} :
    walk run pacing failFast paused s (m :: rest) =
      if (paused && decide (pacing ≠ 0)) = true then
        ofProgram (Work.sleep pacing) >>= fun _ => visit run pacing failFast s m rest
      else visit run pacing failFast s m rest := by
  unfold walk
  rfl

/-- The members behind one that was visited still wait, as they are other pods. -/
theorem waiting_behind {rest : List Member} (hnd : ((m :: rest).map (·.name)).Nodup)
    (hw : ∀ m' ∈ m :: rest, s.pods.find? m'.name = some .waiting)
    (outcome : Except OperatorError Unit) :
    ∀ m' ∈ rest, (record (begin s m) m outcome).pods.find? m'.name = some .waiting := by
  intro m' hm'
  rw [List.map_cons, List.nodup_cons] at hnd
  have hne : m.name ≠ m'.name := fun he => hnd.1 (List.mem_map.mpr ⟨m', hm', he.symm⟩)
  rw [find?_record_of_ne hne, find?_begin_of_ne hne]
  exact hw m' (List.mem_cons_of_mem _ hm')

/-- Members one at a time. `I` holds between visits; a walk that ends, behind all members or behind
one that failed, ends with `Q`. -/
theorem holds_walk_of {I : History → TaskStatus → Prop} {pacing : Nat} {failFast : Bool}
    {ms : List Member}
    (hpause : ∀ h s, I h s → P h (.sleep pacing) ∧ ∀ u, I (h ++ [⟨.sleep pacing, u⟩]) s)
    (hvisit : ∀ h s, I h s → ∀ m ∈ ms, s.pods.find? m.name = some .waiting →
      P h (.store (.replaceTaskStatus run.key.ns run.key.name (begin s m))) ∧
        (step run m).Holds P (fun h' outcome =>
          P h' (.store (.replaceTaskStatus run.key.ns run.key.name
            (record (begin s m) m outcome))) ∧
          ((outcome.isOk || !failFast) = true →
            I (h' ++ [storing run.key (record (begin s m) m outcome)])
              (record (begin s m) m outcome)) ∧
          (outcome.isOk = false → failFast = true →
            Q (h' ++ [storing run.key (record (begin s m) m outcome)])
              (record (begin s m) m outcome))) (h ++ [storing run.key (begin s m)]))
    (hend : ∀ h s, I h s → Q h s) (hnd : (ms.map (·.name)).Nodup)
    (hw : ∀ m ∈ ms, s.pods.find? m.name = some .waiting) (hi : I h s) (paused : Bool) :
    (walk run pacing failFast paused s ms).Holds P Q h := by
  -- The induction is on the members still to visit; the invariant carries the history so far.
  induction ms generalizing paused s h with
  | nil => exact (holds_pure _).mpr (hend h s hi)
  | cons m rest ih =>
    have hrest : ∀ (outcome : Except OperatorError Unit) (h' : History),
        I h' (record (begin s m) m outcome) →
          (walk run pacing failFast true (record (begin s m) m outcome) rest).Holds P Q h' :=
      fun outcome h' hi' => ih (fun h s hi m' hm' => hvisit h s hi m' (List.mem_cons_of_mem _ hm'))
        (List.nodup_cons.mp hnd).2 (waiting_behind hnd hw outcome) hi' true
    -- The visit of the head is the same with and without the pause in front of it.
    have hvisited : ∀ h, I h s → (visit run pacing failFast s m rest).Holds P Q h := by
      intro h hi
      obtain ⟨hbegin, hstep⟩ := hvisit h s hi m List.mem_cons_self (hw m List.mem_cons_self)
      refine holds_persist_bind hbegin ((holds_bind _ _).mpr ((holds_ofProgram _).mpr ?_))
      refine Program.Holds.mono (fun _ _ h => h) (fun h' outcome hdone => ?_) hstep
      obtain ⟨hrecord, hgo, hstop⟩ := hdone
      refine holds_persist_bind hrecord ?_
      cases outcome with
      | ok u => exact hrest (.ok u) _ (hgo rfl)
      | error e =>
        cases failFast with
        | true => exact (holds_pure _).mpr (hstop rfl rfl)
        | false => exact hrest (.error e) _ (hgo rfl)
    rw [walk_cons]
    split
    next =>
      obtain ⟨hp, hi'⟩ := hpause h s hi
      exact (holds_bind _ _).mpr ((holds_effect (.sleep pacing)).mpr
        ⟨hp, fun u => hvisited _ (hi' u)⟩)
    next => exact hvisited h hi

/-- All members at once. -/
theorem holds_sweep_of {ms : List Member} (hnone : Q h s)
    (hbegin : P h (.store (.replaceTaskStatus run.key.ns run.key.name (ms.foldl begin s))))
    (hask : ∀ request, P (h ++ [storing run.key (ms.foldl begin s)]) (.requestAll ms request))
    (hasked : ∀ request (replies : List (Except OperatorError (SidecarRequest.Reply request))),
      let h' := h ++ [storing run.key (ms.foldl begin s)] ++ [⟨.requestAll ms request, replies⟩]
      let s' := (ms.zip replies).foldl (fun s p => record s p.1 (judged request p.1 p.2))
        (ms.foldl begin s)
      P h' (.store (.replaceTaskStatus run.key.ns run.key.name s')) ∧
        Q (h' ++ [storing run.key s']) s') :
    (sweep run s ms).Holds P Q h := by
  cases ms with
  | nil => exact (holds_pure _).mpr hnone
  | cons m rest =>
    refine holds_persist_bind hbegin ((holds_bind _ _).mpr ((holds_effect _).mpr
      ⟨hask _, fun replies => ?_⟩))
    obtain ⟨hrecord, hdone⟩ := hasked _ replies
    exact holds_persist_bind hrecord ((holds_pure _).mpr hdone)

/-! ## Before the members and behind them -/

/-- The first entries of a task, all WAITING. -/
def firstEntries (run : Run) (ms : List Member) (statuses : StatusSnapshot) (s : TaskStatus)
    (t : Instant) : TaskStatus :=
  { s with
    pods := SortedMap.ofList ((run.kind.select ms statuses).map fun m => (m.name, .waiting))
    phase := .running
    startTime := some (Text.Rfc3339.precise t) }

/-- A task that has no entries is given its first ones. They are stored before anything else is
done, and an audit entry follows; a task that has entries is taken as it is. -/
theorem holds_start_of {ms : List Member} {statuses : StatusSnapshot}
    (hkept : s.pods.isEmpty = false → Q h s) (hnow : P h .now)
    (hgiven : s.pods.isEmpty = true → ∀ t,
      let h' := h ++ [⟨.now, t⟩]
      let s' := firstEntries run ms statuses s t
      P h' (.store (.replaceTaskStatus run.key.ns run.key.name s')) ∧
        ∀ entry, P (h' ++ [storing run.key s']) (.audit run.key entry) ∧
          ∀ u, Q (h' ++ [storing run.key s'] ++ [⟨.audit run.key entry, u⟩]) s') :
    (start run ms statuses s).Holds P Q h := by
  unfold start
  split
  next hempty =>
    refine (holds_bind _ _).mpr (holds_timestamp.mpr ⟨hnow, fun t => ?_⟩)
    obtain ⟨hstore, haudited⟩ := hgiven hempty t
    refine holds_persist_bind hstore ((holds_bind _ _).mpr ((holds_audit _ _).mpr ?_))
    obtain ⟨haudit, hdone⟩ := haudited (.taskStarted run.kind.name _)
    exact ⟨haudit, fun u => (holds_pure _).mpr (hdone u)⟩
  -- A task with entries was started before; it is taken up as it stands.
  next hempty => exact (holds_pure _).mpr (hkept (Bool.eq_false_iff.mpr hempty))

/-- The last status is stored, and an audit entry made. -/
theorem holds_finish_of (hstore : P h (.store (.replaceTaskStatus run.key.ns run.key.name s)))
    (haudit : ∀ entry, P (h ++ [storing run.key s]) (.audit run.key entry)) :
    (finish run s).Holds P (fun _ _ => True) h :=
  holds_persist_bind hstore ((holds_bind _ _).mpr ((holds_audit _ _).mpr
    ⟨haudit _, fun _ => (holds_pure _).mpr trivial⟩))

/-- What is left to do once the members have been called. -/
def conclude (run : Run) (st : TaskStatus) : Work Action := do
  let st := { st with phase := aggregate st.pods }
  if st.phase.isTerminal then
    let t ← timestamp
    finish run { st with finishTime := some t }
  else
    persist run.key st
    return .short

/-- The task ends, or the status is stored for the next advance. -/
theorem holds_conclude_of (hnow : P h .now)
    (hends : ∀ t, (aggregate s.pods).isTerminal = true →
      (finish run { s with
        phase := aggregate s.pods
        finishTime := some (Text.Rfc3339.precise t) }).Holds P (fun _ _ => True)
          (h ++ [⟨.now, t⟩]))
    (hgoes : (aggregate s.pods).isTerminal = false →
      P h (.store (.replaceTaskStatus run.key.ns run.key.name
        { s with phase := aggregate s.pods }))) :
    (conclude run s).Holds P (fun _ _ => True) h := by
  unfold conclude
  dsimp only
  split
  next hend => exact (holds_bind _ _).mpr (holds_timestamp.mpr ⟨hnow, fun t => hends t hend⟩)
  next hend =>
    exact holds_persist_bind (hgoes (Bool.eq_false_iff.mpr hend)) ((holds_pure _).mpr trivial)

/-! ## The whole advance -/

/-- The members of some racks, each with the count that was found. A rack whose StatefulSet is not
there is left out, so the racks with a count are some of those asked for, in their order. -/
theorem holds_members (ns : String) (naming : Naming) (racks : List Rack)
    {Q : History → List Member → Prop}
    (hP : ∀ h, ∀ r ∈ racks, P h (.store (.getStatefulSet ns (naming.statefulSetName r))))
    (hQ : ∀ h' (counts : List (Rack × Int)),
      (∀ a ∈ h', a.effect.Quiet) → List.Sublist (counts.map (·.1)) racks →
        Q (h ++ h') (counts.flatMap fun p => naming.members p.1 p.2)) :
    (members ns naming racks).Holds P Q h := by
  induction racks generalizing h Q with
  | nil =>
    have hc := hQ [] [] (by simp) (List.Sublist.refl _)
    rw [List.append_nil] at hc
    exact (holds_pure _).mpr hc
  | cons r rest ih =>
    refine (holds_store_bind _ _).mpr
      ⟨hP h r List.mem_cons_self, fun found => (holds_bind _ _).mpr ?_⟩
    refine ih (fun h r' hr' => hP h r' (List.mem_cons_of_mem _ hr')) fun h' counts hh hs => ?_
    -- One look-up more is still quiet; a rack without its StatefulSet adds no members.
    have hh' : ∀ a ∈ (⟨.store (.getStatefulSet ns (naming.statefulSetName r)), .ok found⟩ :: h' :
        History), a.effect.Quiet := by
      intro a ha
      rcases List.mem_cons.mp ha with rfl | ha
      · exact ⟨rfl, rfl⟩
      · exact hh a ha
    rw [← List.append_cons]
    cases found with
    | none => exact (holds_pure _).mpr (hQ _ counts hh' (hs.cons r))
    | some sts =>
      exact (holds_pure _).mpr (hQ _ ((r, sts.replicas) :: counts) hh' (hs.cons_cons r))

theorem nodup_pending {ms : List Member} (hnd : (ms.map (·.name)).Nodup) (s : TaskStatus) :
    ((pending s ms).map (·.name)).Nodup :=
  (List.filter_sublist.map _).nodup hnd

theorem waiting_of_pending {ms : List Member} {m : Member} (hm : m ∈ pending s ms) :
    s.pods.find? m.name = some .waiting :=
  of_decide_eq_true (List.mem_filter.mp hm).2

/-- The members are listed, the task is given its entries if it has none, and once the stale ones
have failed, which is where `I` holds, those that wait are called one at a time or all at once. -/
theorem holds_proceed_of {dc : DataCenter} {I : List Member → History → TaskStatus → Prop}
    (hlook : ∀ h, ∀ r ∈ Rack.all dc.spec.racks.toInt.toNat,
      P h (.store (.getStatefulSet run.key.ns (dc.naming.statefulSetName r))))
    (hstart : ∀ h' ms, (∀ a ∈ h', a.effect.Quiet) →
      (∀ m ∈ ms, ∃ r ∈ Rack.all dc.spec.racks.toInt.toNat, ∃ o : Nat,
        m = dc.naming.member r o) →
      P (h ++ h') (.snapshot ms) ∧ ∀ statuses,
        (start run ms statuses s).Holds P (fun h s => I ms h (failStale s ms))
          (h ++ h' ++ [⟨.snapshot ms, statuses⟩]))
    (hwalk : ∀ ms h s pacing failFast, I ms h s →
      run.kind.execution run.config = .sequential pacing failFast →
        ((pending s ms).map (·.name)).Nodup →
          (∀ m ∈ pending s ms, s.pods.find? m.name = some .waiting) →
            (walk run pacing failFast false s (pending s ms)).Holds P Q h)
    (hsweep : ∀ ms h s, I ms h s → run.kind.execution run.config = .parallel →
      ((pending s ms).map (·.name)).Nodup →
        (∀ m ∈ pending s ms, s.pods.find? m.name = some .waiting) →
          (sweep run s (pending s ms)).Holds P Q h)
    (hconclude : ∀ h s, Q h s → (conclude run s).Holds P (fun _ _ => True) h) :
    (proceed run dc s).Holds P (fun _ _ => True) h := by
  refine (holds_bind _ _).mpr (holds_members _ _ _ hlook fun h' counts hh hsub => ?_)
  generalize hms : (counts.flatMap fun p => dc.naming.members p.1 p.2) = ms
  -- No pod is named twice: the racks are distinct and each lists its ordinals once.
  have hnd : (ms.map (·.name)).Nodup := by
    rw [← hms]
    exact Naming.nodup_podNames (fun p hp => hsub.subset (List.mem_map_of_mem hp))
      (hsub.nodup (Rack.nodup_all _))
  have hmem : ∀ m ∈ ms, ∃ r ∈ Rack.all dc.spec.racks.toInt.toNat, ∃ o : Nat,
      m = dc.naming.member r o := by
    intro m hm
    rw [← hms] at hm
    obtain ⟨p, hp, hm⟩ := List.mem_flatMap.mp hm
    obtain ⟨o, -, rfl⟩ := Naming.mem_members.mp hm
    exact ⟨p.1, hsub.subset (List.mem_map_of_mem hp), o, rfl⟩
  obtain ⟨hsnap, hstarted⟩ := hstart h' ms hh hmem
  refine (holds_bind _ _).mpr ((holds_snapshot _).mpr ⟨hsnap, fun statuses => ?_⟩)
  refine (holds_bind _ _).mpr (Work.Holds.mono (fun _ _ h => h) (fun h s hi => ?_)
    (hstarted statuses))
  have hpending := nodup_pending hnd (failStale s ms)
  have hwaiting : ∀ m ∈ pending (failStale s ms) ms,
      (failStale s ms).pods.find? m.name = some .waiting := fun m hm => waiting_of_pending hm
  dsimp only
  cases hx : run.kind.execution run.config with
  | sequential pacing failFast =>
    exact (holds_bind _ _).mpr (Work.Holds.mono (fun _ _ h => h) hconclude
      (hwalk ms h _ pacing failFast hi hx hpending hwaiting))
  | parallel =>
    exact (holds_bind _ _).mpr (Work.Holds.mono (fun _ _ h => h) hconclude
      (hsweep ms h _ hi hx hpending hwaiting))

/-- An advance from the task on, which has not ended and is of a kind. -/
def engage (config : Config) (key : NamespacedName) (t : CassandraTask) (kind : TaskKind) :
    Work Action := do
  let s := t.status.getD {}
  let target := t.spec.datacenter
  let dc : Option DataCenter ← store (.getDataCenter key.ns target)
  match dc with
  | none =>
    let message := "datacenter " ++ target ++ " not found"
    if s.lastMessage ≠ some message then
      persist key { s with lastMessage := some message }
    return .medium
  | some dc =>
    let run : Run := { config, key, kind, datacenter := target }
    match kind.fault? with
    | some reason =>
      let now ← timestamp
      finish run { s with
        phase := .failed, lastMessage := some reason, finishTime := some now }
    | none => proceed run dc s

/-- Without its DataCenter the task waits, with a fault it fails, and otherwise it proceeds. A rule
over an advance is therefore given by what it says of these three. -/
theorem holds_engage_of {config : Config} {t : CassandraTask} {kind : TaskKind}
    (hlook : P h (.store (.getDataCenter key.ns t.spec.datacenter)))
    (hlost : ∀ message, P (h ++ [locating key t none])
      (.store (.replaceTaskStatus key.ns key.name
        { t.status.getD {} with lastMessage := some message })))
    (hfault : ∀ dc reason, P (h ++ [locating key t (some dc)]) .now ∧ ∀ now,
      (finish { config, key, kind, datacenter := t.spec.datacenter } { t.status.getD {} with
        phase := .failed
        lastMessage := some reason
        finishTime := some (Text.Rfc3339.precise now) }).Holds P (fun _ _ => True)
          (h ++ [locating key t (some dc)] ++ [⟨.now, now⟩]))
    (hproceed : ∀ dc, (proceed { config, key, kind, datacenter := t.spec.datacenter } dc
      (t.status.getD {})).Holds P (fun _ _ => True) (h ++ [locating key t (some dc)])) :
    (engage config key t kind).Holds P (fun _ _ => True) h := by
  refine (holds_store_bind _ _).mpr ⟨hlook, fun dc => ?_⟩
  cases dc with
  | none =>
    dsimp only
    split
    next => exact holds_persist_bind (hlost _) ((holds_pure _).mpr trivial)
    next => exact (holds_pure _).mpr trivial
  | some dc =>
    dsimp only
    split
    next reason _ =>
      obtain ⟨hnow, hfinish⟩ := hfault dc reason
      exact (holds_bind _ _).mpr (holds_timestamp.mpr ⟨hnow, hfinish⟩)
    next => exact hproceed dc

/-- Nothing more is done where there is no task, where it has ended or where it is of no kind. -/
theorem holds_run_of {config : Config} (hread : P h (.store (.getTask key.ns key.name)))
    (hengage : ∀ t kind, (t.status.getD {}).phase.isTerminal = false →
      TaskKind.ofSpec t.spec = .ok kind →
        (engage config key t kind).Holds P (fun _ _ => True) (h ++ [reading key (some t)])) :
    (Advance.run config key).Holds P (fun _ _ => True) h := by
  refine (holds_store_bind _ _).mpr ⟨hread, fun found => ?_⟩
  cases found with
  | none => exact (holds_pure _).mpr trivial
  | some t =>
    show Holds _ _ _ (if (t.status.getD {}).phase.isTerminal = true then _ else _)
    split
    next => exact (holds_pure _).mpr trivial
    next hgoes =>
      cases hkind : TaskKind.ofSpec t.spec with
      | error reason => exact holds_throw _
      | ok kind => exact hengage t kind (Bool.eq_false_iff.mpr hgoes) hkind

end Advance

end RackOperator
