import RackOperator.Proofs.Memory
import RackOperator.Proofs.Task.Stages

/-!
# The calls of an advance

An advance calls the sidecars of members one after the other, or all at once. A call is read
off the history alone (`History.calls`): it fails if the sidecar cannot be got hold of, if it
answers with an error, or, for a backup, if the status it answers is not a success.

`Walked` says what both ways of walking the members do over a store in memory: members are
called in order, up to the first failure where a kind stops there (`Ordered`), and the entry of
a pod is what its call came to, or what it was. One more call in front keeps this
(`Walked.cons`), so `on_walk` is by induction on the members still to be called, and `on_sweep`
on the replies that are entered.
-/

namespace RackOperator

open Work

/-- Whether a reply says that what was asked has succeeded: a backup names its status, ASCII case
aside. -/
def SidecarRequest.succeeds : (r : SidecarRequest) → Except OperatorError r.Reply → Bool
  | _, .error _ => false
  | .backup _, .ok (reply : BackupResponse) =>
    decide (reply.status.toList.map Char.toLower = "success".toList)
  | _, .ok _ => true

/-- A member was called, and whether the call succeeded. -/
structure Call where
  member : Member
  succeeded : Bool
deriving DecidableEq

/-- The phase of an entry once its pod was called. -/
def Call.phase (c : Call) : TaskPhase := if c.succeeded then .succeed else .failed

/-- The calls an effect makes: that of a member ends when its sidecar cannot be got hold of, or
when it has answered. -/
def Answered.calls : Answered → List Call
  | ⟨.connect m, reply⟩ =>
    match (reply : Except OperatorError Unit) with
    | .error _ => [⟨m, false⟩]
    | .ok _ => []
  | ⟨.request m r, reply⟩ => [⟨m, r.succeeds reply⟩]
  | ⟨.requestAll ms r, replies⟩ =>
    (ms.zip (replies : List (Except OperatorError r.Reply))).map fun p => ⟨p.1, r.succeeds p.2⟩
  | _ => []

/-- Of several members asked at once each has an answer. -/
def Answered.Full : Answered → Prop
  | ⟨.requestAll ms r, replies⟩ =>
    (replies : List (Except OperatorError r.Reply)).length = ms.length
  | _ => True

namespace History

/-- The calls made, oldest first. -/
def calls (h : History) : List Call := h.flatMap Answered.calls

/-- Whoever was asked at once with others has answered. -/
def Full (h : History) : Prop := ∀ a ∈ h, a.Full

theorem calls_append (h h' : History) : calls (h ++ h') = calls h ++ calls h' :=
  List.flatMap_append

/-- Where no sidecar is asked there is no call. -/
theorem calls_of_sidecars {h : History} (hh : h.sidecars = []) : h.calls = [] := by
  refine List.flatMap_eq_nil_iff.mpr fun a ha => ?_
  have hquiet := List.filter_eq_nil_iff.mp hh a.effect (List.mem_map_of_mem ha)
  obtain ⟨e, r⟩ := a
  cases e with
  | connect m => exact absurd rfl hquiet
  | request m r => exact absurd rfl hquiet
  | requestAll ms r => exact absurd rfl hquiet
  | _ => rfl

end History

theorem World.length_finishAll (script : Sidecar.Script) (r : SidecarRequest) (ms : List Member) :
    (World.finishAll script r ms).1.length = ms.length := by
  induction ms generalizing script with
  | nil => rfl
  | cons m rest ih =>
    unfold World.finishAll
    exact congrArg (· + 1) (ih _)

/-- In a world whoever is asked at once with others answers, so every history of a world is full. -/
theorem World.full_perform (w : World) (e : Effect) : Answered.Full ⟨e, (w.perform e).1⟩ := by
  cases e with
  | requestAll ms r => exact World.length_finishAll _ r ms
  | _ => trivial

/-- Nothing that is said of full histories has to be shown once an answer is missing. -/
theorem Program.on_of_not_full {α : Type} {P : History → MemoryStore → Option α → Prop}
    {h : History} (hn : ¬h.Full) (s : MemoryStore) (p : Program α) :
    p.On (fun h' s' o => h'.Full → P h' s' o) h s := by
  induction p generalizing h s with
  | done a => exact fun hf => absurd hf hn
  | crash => exact fun hf => absurd hf hn
  | perform e next ih =>
    exact fun r s' _ => ih r (fun hf => hn fun a ha => hf a (List.mem_append_left _ ha)) s'

namespace Advance

/-- What the call of a pod came to, if there was one. -/
def verdict? (calls : List Call) (pod : String) : Option TaskPhase :=
  (calls.find? fun c => c.member.name = pod).map Call.phase

/-- Members called in order: all of them, or up to the first failure if so asked. -/
inductive Ordered (failFast : Bool) : List Member → List Call → Prop
  | nil : Ordered failFast [] []
  | stop {m : Member} {rest : List Member} (hf : failFast = true) :
    Ordered failFast (m :: rest) [⟨m, false⟩]
  | go {m : Member} {rest : List Member} {succeeded : Bool} {calls : List Call}
    (hf : succeeded = true ∨ failFast = false) (hw : Ordered failFast rest calls) :
    Ordered failFast (m :: rest) (⟨m, succeeded⟩ :: calls)

variable {run : Run} {h : History} {s : MemoryStore} {st : TaskStatus} {m : Member}
  {ms rest : List Member} {calls : List Call} {pod : String} {failFast : Bool}

/-! ## The order of calls -/

namespace Ordered

/-- The members called are the first of those to be called, in their order. -/
theorem prefix_members (hw : Ordered failFast ms calls) : calls.map (·.member) <+: ms := by
  induction hw with
  | nil => exact List.prefix_rfl
  | stop _ => exact ⟨_, rfl⟩
  | go _ _ ih => exact List.cons_prefix_cons.mpr ⟨rfl, ih⟩

/-- Where it does not stop at failures, everybody is called, whatever the outcomes are. -/
theorem all (hw : Ordered false ms calls) : calls.map (·.member) = ms := by
  induction hw with
  | nil => rfl
  | stop hf => cases hf
  | go _ _ ih => rw [List.map_cons, ih]

/-- Everybody is called, or the last call failed, which is why the rest were not. -/
theorem all_or_failed (hw : Ordered failFast ms calls) :
    calls.map (·.member) = ms ∨ ∃ c, calls.getLast? = some c ∧ c.succeeded = false := by
  induction hw with
  | nil => exact .inl rfl
  | stop _ => exact .inr ⟨_, rfl, rfl⟩
  | go _ _ ih =>
    refine ih.imp (fun he => by rw [List.map_cons, he]) fun ⟨c, hc, hfail⟩ => ⟨c, ?_, hfail⟩
    rw [List.getLast?_cons, hc]
    rfl

/-- Where it stops at failures, the calls before the last one succeeded. -/
theorem succeeded_dropLast (hw : Ordered true ms calls) :
    ∀ c ∈ calls.dropLast, c.succeeded = true := by
  induction hw with
  | nil => exact fun c hc => absurd hc List.not_mem_nil
  | stop _ => exact fun c hc => absurd hc List.not_mem_nil
  | @go m rest succeeded calls hf _ ih =>
    cases calls with
    | nil => exact fun c hc => absurd hc List.not_mem_nil
    | cons c' calls =>
      rw [List.dropLast_cons_cons]
      exact List.forall_mem_cons.mpr ⟨hf.resolve_right nofun, ih⟩

theorem of_all (hc : calls.map (·.member) = ms) : Ordered false ms calls := by
  subst hc
  induction calls with
  | nil => exact .nil
  | cons c calls ih => exact .go (.inr rfl) ih

theorem mem (hw : Ordered failFast ms calls) {c : Call} (hc : c ∈ calls) : c.member ∈ ms :=
  hw.prefix_members.subset (List.mem_map_of_mem hc)

end Ordered

/-! ## Entries after a call -/

theorem verdict?_cons {c : Call} :
    verdict? (c :: calls) pod =
      if c.member.name = pod then some c.phase else verdict? calls pod := by
  unfold verdict?
  rw [List.find?_cons]
  by_cases hc : c.member.name = pod
  · rw [if_pos hc, decide_eq_true hc]
    rfl
  · rw [if_neg hc, decide_eq_false hc]

theorem verdict?_eq_none : verdict? calls pod = none ↔ ∀ c ∈ calls, c.member.name ≠ pod := by
  unfold verdict?
  rw [Option.map_eq_none_iff, List.find?_eq_none]
  simp only [decide_eq_true_eq, ne_eq]

/-- Calls of pods of their own come each to what they came to. -/
theorem verdict?_of_mem (hnd : (calls.map (·.member.name)).Nodup) {c : Call} (hc : c ∈ calls) :
    verdict? calls c.member.name = some c.phase := by
  induction calls with
  | nil => exact absurd hc List.not_mem_nil
  | cons c' calls ih =>
    rw [List.map_cons, List.nodup_cons] at hnd
    rw [verdict?_cons]
    rcases List.mem_cons.mp hc with rfl | hc
    · exact if_pos rfl
    · rw [if_neg fun he => hnd.1 (List.mem_map.mpr ⟨c, hc, he.symm⟩), ih hnd.2 hc]

/-- Once its call is entered, what a pod's entry was does not matter: a verdict takes the place of
RUNNING. -/
theorem or_begin {c : Call} (hc : c ∈ calls) (st : TaskStatus) (pod : String) :
    (verdict? calls pod).or ((begin st c.member).pods.find? pod) =
      (verdict? calls pod).or (st.pods.find? pod) := by
  by_cases he : c.member.name = pod
  · cases hv : verdict? calls pod with
    | none => exact absurd he (verdict?_eq_none.mp hv c hc)
    | some p => rfl
  · rw [find?_begin_of_ne he]

theorem or_begins (hms : ∀ m ∈ ms, ∃ c ∈ calls, c.member = m) (st : TaskStatus) (pod : String) :
    (verdict? calls pod).or ((ms.foldl begin st).pods.find? pod) =
      (verdict? calls pod).or (st.pods.find? pod) := by
  induction ms generalizing st with
  | nil => rfl
  | cons m rest ih =>
    obtain ⟨⟨c, hc, rfl⟩, hrest⟩ := List.forall_mem_cons.mp hms
    rw [List.foldl_cons, ih hrest, or_begin hc]

/-- The outcome of a call is entered for its pod, and is no verdict on another. -/
theorem or_record {outcome : Except OperatorError Unit}
    (hnot : ∀ c ∈ calls, c.member.name ≠ m.name) (st : TaskStatus) (pod : String) :
    (verdict? calls pod).or ((record st m outcome).pods.find? pod) =
      (verdict? (⟨m, outcome.isOk⟩ :: calls) pod).or (st.pods.find? pod) := by
  rw [verdict?_cons]
  by_cases he : m.name = pod
  · subst he
    rw [if_pos rfl, verdict?_eq_none.mpr hnot, Option.none_or, Option.some_or]
    cases outcome with
    | ok u => exact (SortedMap.find?_insert _ _ _ _).trans (if_pos rfl)
    | error e => exact (SortedMap.find?_insert _ _ _ _).trans (if_pos rfl)
  · rw [if_neg he, find?_record_of_ne he]

/-- A reply is judged as the call it ends, be it an error or a response that says it failed. -/
theorem isOk_judged (request : SidecarRequest) (m : Member)
    (reply : Except OperatorError request.Reply) :
    (judged request m reply).isOk = request.succeeds reply := by
  cases reply with
  | error e => cases request <;> rfl
  | ok r =>
    cases request with
    | backup args =>
      show (SidecarRequest.verdict m.name (.backup args) r).isOk = decide _
      unfold SidecarRequest.verdict BackupResponse.isSuccess
      dsimp only
      split
      next hs => exact (decide_eq_true (beq_iff_eq.mp hs)).symm
      next hs => exact (decide_eq_false fun he => hs (beq_iff_eq.mpr he)).symm
    | _ => rfl

/-- Replies entered one after the other give each pod the verdict of its own. The induction is on
the replies. -/
theorem find?_records {request : SidecarRequest}
    (replies : List (Member × Except OperatorError request.Reply))
    (hnd : (replies.map (·.1.name)).Nodup) (st : TaskStatus) (pod : String) :
    (replies.foldl (fun st p => record st p.1 (judged request p.1 p.2)) st).pods.find? pod =
      (verdict? (replies.map fun p => ⟨p.1, request.succeeds p.2⟩) pod).or
        (st.pods.find? pod) := by
  induction replies generalizing st with
  | nil => rfl
  | cons p rest ih =>
    rw [List.map_cons, List.nodup_cons] at hnd
    rw [List.foldl_cons, ih hnd.2, List.map_cons, ← isOk_judged _ p.1, or_record]
    intro c hc he
    obtain ⟨q, hq, rfl⟩ := List.mem_map.mp hc
    exact hnd.1 (List.mem_map.mpr ⟨q, hq, he⟩)

/-! ## What the two ways of walking do -/

/-- What may be asked when members are called: each on its own, or all the same at once. -/
def MayAsk (run : Run) (ms : List Member) (e : Effect) : Prop :=
  ∃ m ∈ ms, match run.kind.execution run.config with
    | .sequential .. =>
      e = .connect m ∨ e = .request m (run.kind.request run.key.name run.datacenter m)
    | .parallel => e = .requestAll ms (run.kind.request run.key.name run.datacenter m)

/-- Members were called, and the status in hand tells. -/
structure Walked (run : Run) (failFast : Bool) (ms : List Member) (st : TaskStatus)
    (done : History) (st' : TaskStatus) : Prop where
  ordered : Ordered failFast ms done.calls
  entries : ∀ pod, st'.pods.find? pod = (verdict? done.calls pod).or (st.pods.find? pod)
  asks : ∀ e ∈ done.sidecars, MayAsk run ms e

/-- The task is stored, whatever its status. -/
def Stored (key : NamespacedName) (task : CassandraTask) (s : MemoryStore) : Prop :=
  ∃ status, s.tasks.find? key = some { task with status }

theorem Walked.nil (run : Run) (failFast : Bool) (st : TaskStatus) :
    Walked run failFast [] st [] st :=
  ⟨.nil, fun _ => rfl, fun _ he => absurd he List.not_mem_nil⟩

theorem MayAsk.cons {pacing : Nat}
    (hx : run.kind.execution run.config = .sequential pacing failFast) {e : Effect}
    (he : MayAsk run rest e) : MayAsk run (m :: rest) e := by
  unfold MayAsk at he ⊢
  rw [hx] at he ⊢
  obtain ⟨m', hm', he⟩ := he
  exact ⟨m', List.mem_cons_of_mem _ hm', he⟩

/-- One more call in front, which succeeded or did not stop the walk. The entries behind it are
those of the walk that follows. -/
theorem Walked.cons {pacing : Nat} {outcome : Except OperatorError Unit} {done done' : History}
    {st' : TaskStatus} (hx : run.kind.execution run.config = .sequential pacing failFast)
    (hnd : ((m :: rest).map (·.name)).Nodup) (hf : outcome.isOk = true ∨ failFast = false)
    (hc : done.calls = [⟨m, outcome.isOk⟩]) (ha : ∀ e ∈ done.sidecars, MayAsk run (m :: rest) e)
    (hr : Walked run failFast rest (record (begin st m) m outcome) done' st') :
    Walked run failFast (m :: rest) st (done ++ done') st' where
  ordered := by
    rw [History.calls_append, hc]
    exact .go hf hr.ordered
  entries pod := by
    -- whoever is called later is another pod, so the outcome that is entered first stays
    rw [List.map_cons, List.nodup_cons] at hnd
    have hnot : ∀ c ∈ done'.calls, c.member.name ≠ m.name := fun c hcall he =>
      hnd.1 (List.mem_map.mpr ⟨c.member, hr.ordered.mem hcall, he⟩)
    rw [hr.entries, or_record hnot, History.calls_append, hc, List.singleton_append,
      or_begin List.mem_cons_self]
  asks e he := by
    rw [History.sidecars_append] at he
    exact (List.mem_append.mp he).elim (ha e) fun he => (hr.asks e he).cons hx

/-- The first call fails, and the walk stops: the members behind it keep their entries. -/
theorem Walked.stop {outcome : Except OperatorError Unit} {done : History}
    (hf : failFast = true) (ho : outcome.isOk = false) (hc : done.calls = [⟨m, outcome.isOk⟩])
    (ha : ∀ e ∈ done.sidecars, MayAsk run (m :: rest) e) :
    Walked run failFast (m :: rest) st done (record (begin st m) m outcome) where
  ordered := by
    rw [hc, ho]
    exact .stop hf
  entries pod := by
    have hone : (verdict? [] pod).or ((record (begin st m) m outcome).pods.find? pod) = _ :=
      or_record (fun c hnil => absurd hnil List.not_mem_nil) _ _
    rw [hc, ← or_begin List.mem_cons_self, ← hone]
    rfl
  asks := ha

variable {α : Type} {key : NamespacedName} {task : CassandraTask}

/-- A status is stored for a task that exists, so the write is acknowledged. -/
theorem on_persist {Q : History → MemoryStore → Option (Except OperatorError α) → Prop}
    (ht : s.tasks.find? key = some task) (st : TaskStatus) (f : Unit → Work α) :
    (persist key st >>= f).On Q h s ↔ (f ()).On Q (h ++ [storing key st])
      (s.perform (.replaceTaskStatus key.ns key.name st)).2 :=
  on_store_ok _ (MemoryStore.perform_replaceTaskStatus_ok ht st) f

theorem find?_persisted (ht : s.tasks.find? key = some task) (st : TaskStatus) :
    (s.perform (.replaceTaskStatus key.ns key.name st)).2.tasks.find? key =
      some { task with status := some st } := by
  rw [MemoryStore.find?_replaceTaskStatus, if_pos rfl, ht]
  rfl

theorem on_persist_bind {Q : History → MemoryStore → Option (Except OperatorError α) → Prop}
    (hs : Stored key task s) (st : TaskStatus) (f : Unit → Work α)
    (hf : ∀ s', s'.tasks.find? key = some { task with status := some st } →
      (f ()).On Q (h ++ [storing key st]) s') : (persist key st >>= f).On Q h s := by
  obtain ⟨status, hs⟩ := hs
  exact (on_persist hs st f).mpr (hf _ (find?_persisted hs st))

theorem sidecars_storing : History.sidecars [storing key st] = [] := rfl

/-- The sidecar of a member is got hold of, or not. -/
def connecting (m : Member) (reply : Except OperatorError Unit) : Answered := ⟨.connect m, reply⟩

/-- The sidecar of a member is asked. -/
def asking (m : Member) (request : SidecarRequest) (reply : Except OperatorError request.Reply) :
    Answered :=
  ⟨.request m request, reply⟩

/-- A member asked on its own is called once, and asked for nothing but what its kind asks. -/
theorem on_step (m : Member)
    {Q : History → MemoryStore → Option (Except OperatorError Unit) → Prop}
    (hQ : ∀ done outcome, History.calls done = [⟨m, outcome.isOk⟩] →
      (∀ e ∈ done.sidecars, e = .connect m ∨
        e = .request m (run.kind.request run.key.name run.datacenter m)) →
      Q (h ++ done) s (some outcome)) : (step run m).On Q h s := by
  let request := run.kind.request run.key.name run.datacenter m
  refine (Program.on_bind _ _ _ _).mpr fun reply s' hs => ?_
  cases hs
  cases reply with
  | error e =>
    exact hQ [connecting m (.error e)] _ rfl fun e he => .inl (List.mem_singleton.mp he)
  | ok u =>
    refine (Program.on_bind _ _ _ _).mpr ?_
    intro (reply : Except OperatorError request.Reply) s' hs
    cases hs
    -- However the reply is judged, it is the outcome of this one call.
    have hjudged : Q (h ++ [connecting m (.ok u), asking m request reply]) s
        (some (judged request m reply)) := by
      refine hQ _ _ ?_ fun e he => ?_
      · exact congrArg (fun succeeded => [Call.mk m succeeded]) (isOk_judged request m reply).symm
      · rcases List.mem_cons.mp he with rfl | he
        · exact .inl rfl
        · exact .inr (List.mem_singleton.mp he)
    rw [List.append_assoc]
    cases reply with
    | error e => exact hjudged
    | ok r => exact hjudged

/-- Members one at a time, in the order given. The induction is on the members, and each turn stores
two statuses. -/
theorem on_walk (pacing : Nat) (failFast paused : Bool) (ms : List Member)
    (hx : run.kind.execution run.config = .sequential pacing failFast)
    (hs : Stored run.key task s) (hnd : (ms.map (·.name)).Nodup)
    {Q : History → MemoryStore → Option (Except OperatorError TaskStatus) → Prop}
    (hQ : ∀ done s' st', Stored run.key task s' → Walked run failFast ms st done st' →
      Q (h ++ done) s' (some (.ok st'))) :
    (walk run pacing failFast paused st ms).On Q h s := by
  induction ms generalizing paused st h s with
  | nil =>
    have hnil := hQ [] s st hs (.nil run failFast st)
    rw [List.append_nil] at hnil
    exact hnil
  | cons m rest ih =>
    have hvisit : ∀ pause, History.sidecars pause = [] →
        (visit run pacing failFast st m rest).On Q (h ++ pause) s := by
      intro pause hpause
      refine on_persist_bind hs _ _ fun s₁ hs₁ => (on_ofProgram_bind _ _).mpr ?_
      refine on_step m fun asked outcome hc ha => ?_
      refine on_persist_bind ⟨_, hs₁⟩ _ _ fun s₂ hs₂ => ?_
      -- what has been done for this member, between the two status writes and around them
      let done := pause ++ [storing run.key (begin st m)] ++ asked ++
        [storing run.key (record (begin st m) m outcome)]
      have hcalls : History.calls done = [⟨m, outcome.isOk⟩] := by
        rw [History.calls_append, History.calls_append, History.calls_append,
          History.calls_of_sidecars hpause, hc]
        rfl
      have hasks : ∀ e ∈ History.sidecars done, MayAsk run (m :: rest) e := by
        intro e he
        rw [History.sidecars_append, History.sidecars_append, History.sidecars_append, hpause,
          sidecars_storing, sidecars_storing, List.append_nil] at he
        refine ⟨m, List.mem_cons_self, ?_⟩
        rw [hx]
        exact ha e he
      have hassoc : h ++ pause ++ [storing run.key (begin st m)] ++ asked ++
          [storing run.key (record (begin st m) m outcome)] = h ++ done := by
        simp only [done, List.append_assoc]
      rw [hassoc]
      have hgo (hf : outcome.isOk = true ∨ failFast = false) :
          (walk run pacing failFast true (record (begin st m) m outcome) rest).On Q
            (h ++ done) s₂ := by
        refine ih true ⟨_, hs₂⟩ (List.nodup_cons.mp hnd).2 fun done' s' st' hs' hr => ?_
        rw [List.append_assoc]
        exact hQ _ s' st' hs' (.cons hx hnd hf hcalls hasks hr)
      cases outcome with
      | ok u => exact hgo (.inl rfl)
      | error e =>
        show On _ _ _ (if failFast then _ else _)
        split
        next hf => exact hQ done s₂ _ ⟨_, hs₂⟩ (.stop hf rfl hcalls hasks)
        next hf => exact hgo (.inr (Bool.eq_false_iff.mpr hf))
    rw [walk_cons]
    split
    next => exact (on_effect_bind (by simp) _).mpr fun u => hvisit [⟨.sleep pacing, u⟩] rfl
    next =>
      have hnone := hvisit [] rfl
      rw [List.append_nil] at hnone
      exact hnone

/-- Several members are asked at once. -/
def askingAll (ms : List Member) (request : SidecarRequest)
    (replies : List (Except OperatorError request.Reply)) : Answered :=
  ⟨.requestAll ms request, replies⟩

/-- The status once members have begun and their replies are entered. -/
def entered (request : SidecarRequest) (ms : List Member) (st : TaskStatus)
    (replies : List (Except OperatorError request.Reply)) : TaskStatus :=
  (ms.zip replies).foldl (fun st p => record st p.1 (judged request p.1 p.2)) (ms.foldl begin st)

/-- What is done to ask members at once. -/
def sweeping (key : NamespacedName) (request : SidecarRequest) (ms : List Member) (st : TaskStatus)
    (replies : List (Except OperatorError request.Reply)) : History :=
  [storing key (ms.foldl begin st), askingAll ms request replies,
    storing key (entered request ms st replies)]

/-- The calls of a sweep are those of the members that have answered, with what they answered. -/
theorem calls_sweeping (request : SidecarRequest) (ms : List Member) (st : TaskStatus)
    (replies : List (Except OperatorError request.Reply)) :
    (sweeping key request ms st replies).calls =
      (ms.zip replies).map fun p => ⟨p.1, request.succeeds p.2⟩ :=
  List.append_nil _

/-- Members asked at once are called, each of them if all have answered. -/
theorem called_sweeping (hx : run.kind.execution run.config = .parallel) (hm : m ∈ ms)
    (hnd : (ms.map (·.name)).Nodup) {request : SidecarRequest}
    (hr : request = run.kind.request run.key.name run.datacenter m)
    (replies : List (Except OperatorError request.Reply)) (hl : replies.length = ms.length) :
    Walked run false ms st (sweeping run.key request ms st replies)
      (entered request ms st replies) := by
  -- One reply for each member, in their order.
  have hmembers : (ms.zip replies).map (·.1) = ms := List.map_fst_zip (Nat.le_of_eq hl.symm)
  refine ⟨?_, fun pod => ?_, fun e he => ⟨m, hm, ?_⟩⟩
  · rw [calls_sweeping]
    refine .of_all ?_
    rw [List.map_map]
    exact hmembers
  · have hnames : ((ms.zip replies).map (·.1.name)).Nodup := by
      rw [← hmembers, List.map_map] at hnd
      exact hnd
    unfold entered
    rw [find?_records _ hnames, calls_sweeping, or_begins]
    intro m' hm'
    rw [← hmembers] at hm'
    obtain ⟨p, hp, rfl⟩ := List.mem_map.mp hm'
    exact ⟨_, List.mem_map_of_mem hp, rfl⟩
  · rw [hx]
    rw [← hr]
    exact List.mem_singleton.mp he

/-- All members at once: one status before, the calls, one status behind. Nothing is said of the
entries in the end where a member has not been answered. -/
theorem on_sweep (ms : List Member) (hx : run.kind.execution run.config = .parallel)
    (hs : Stored run.key task s) (hnd : (ms.map (·.name)).Nodup)
    {Q : History → MemoryStore → Option (Except OperatorError TaskStatus) → Prop}
    (hQ : ∀ done s' st', Stored run.key task s' → (done.Full → Walked run false ms st done st') →
      Q (h ++ done) s' (some (.ok st'))) :
    (sweep run st ms).On Q h s := by
  -- With nobody to ask the sweep does nothing at all, not even a write.
  cases ms with
  | nil =>
    have hnil := hQ [] s st hs fun _ => .nil run false st
    rw [List.append_nil] at hnil
    exact hnil
  | cons m rest =>
    let request := run.kind.request run.key.name run.datacenter m
    refine on_persist_bind hs _ _ fun s₁ hs₁ => (on_effect_bind (by simp) _).mpr ?_
    intro (replies : List (Except OperatorError request.Reply))
    refine on_persist_bind ⟨_, hs₁⟩ _ _ fun s₂ hs₂ => ?_
    have hend := hQ (sweeping run.key request (m :: rest) st replies) s₂
      (entered request (m :: rest) st replies) ⟨_, hs₂⟩ fun hfull => ?_
    · rw [sweeping, List.append_cons, List.append_cons] at hend
      exact hend
    · refine called_sweeping hx List.mem_cons_self hnd rfl replies ?_
      exact hfull (askingAll (m :: rest) request replies)
        (List.mem_cons_of_mem _ List.mem_cons_self)

end Advance

end RackOperator
