import RackOperator.Proofs.Pass.Departure
import RackOperator.Proofs.Pass.Statuses

/-!
# The error over a run of passes

`Reporting` lists the statuses stored in a run of passes over one DataCenter, each with what its
pass had done before it (`Report`). Passes end, crash or are cut short, calls are refused or their
acknowledgements lost, sidecars answer anything, and all but the error stored may be changed from
outside at any time. A pass whose status is not stored leaves no report.

A pass keeps the error that it has read, unless it has news of it. What it has read is still stored
when it writes (`Current`), so each report does to the error stored what its news says
(`Current.acts`), and the error after a run is that of the one before with the news told in turn
(`Reporting.exists_told`). From an error-free start this is the latest failure with no convergence
since, if there is one (`News.foldl_tell_eq_some`, `News.foldl_tell_eq_none`).
-/

namespace RackOperator.Pass

/-! ## News in turn -/

namespace News

variable {ns : List News}

/-- Without convergence an error is not dropped, only replaced by a later one. -/
theorem isSome_foldl_tell (hc : .converged ∉ ns) (error : String) :
    (ns.foldl tell (some error)).isSome := by
  induction ns generalizing error with
  | nil => rfl
  | cons n rest ih =>
    obtain ⟨hne, hrest⟩ := not_or.mp (List.mem_cons.not.mp hc)
    cases n with
    | quiet => exact ih hrest error
    | failed message => exact ih hrest message
    | converged => exact absurd rfl hne

/-- The latest failure is the last of the news, or stands before it and that is quiet. News are told
from the first on, so it is at the end that they have to be taken apart. -/
theorem latest_concat {last : News} {m : String} :
    (∃ before after, ns ++ [last] = before ++ .failed m :: after ∧ ∀ n ∈ after, n = .quiet) ↔
      last = .failed m ∨ last = .quiet ∧
        ∃ before after, ns = before ++ .failed m :: after ∧ ∀ n ∈ after, n = .quiet := by
  constructor
  · rintro ⟨before, after, he, hquiet⟩
    -- The failure found is the last news itself, or all news behind it is quiet.
    rcases List.eq_nil_or_concat after with rfl | ⟨rest, n, rfl⟩
    · exact .inl (List.cons.inj (List.append_inj' he rfl).2).1
    · rw [List.concat_eq_append, ← List.cons_append, ← List.append_assoc] at he
      obtain ⟨rfl, hlast⟩ := List.append_inj' he rfl
      rw [List.concat_eq_append] at hquiet
      obtain ⟨hrest, hn⟩ := List.forall_mem_append.mp hquiet
      refine .inr ⟨?_, before, rest, rfl, hrest⟩
      rw [(List.cons.inj hlast).1]
      exact hn n (List.mem_singleton_self n)
  · rintro (rfl | ⟨rfl, before, after, rfl, hquiet⟩)
    · exact ⟨ns, [], rfl, fun n hn => absurd hn List.not_mem_nil⟩
    · refine ⟨before, after ++ [.quiet], List.append_assoc .., ?_⟩
      exact List.forall_mem_append.mpr ⟨hquiet, List.forall_mem_singleton.mpr rfl⟩

/-- There is an error in the end if the last that is not quiet is a failure, and it is this. -/
theorem foldl_tell_eq_some {m : String} : ns.foldl tell none = some m ↔
    ∃ before after, ns = before ++ .failed m :: after ∧ ∀ n ∈ after, n = .quiet := by
  induction ns using List.reverseRecOn with
  | nil => simp
  | append_singleton ns last ih =>
    rw [List.foldl_append, latest_concat]
    cases last with
    | quiet => exact ih.trans (by simp)
    | failed message => simp [tell]
    | converged => simp [tell]

/-- There is none if convergence has followed every failure. -/
theorem foldl_tell_eq_none : ns.foldl tell none = none ↔
    ∀ before m after, ns = before ++ .failed m :: after → .converged ∈ after := by
  constructor
  · rintro hnone before m after rfl
    by_contra hc
    rw [List.foldl_append, List.foldl_cons] at hnone
    have hsome := isSome_foldl_tell hc m
    exact absurd hnone (Option.isSome_iff_ne_none.mp hsome)
  · intro hall
    refine Option.eq_none_iff_forall_ne_some.mpr fun m hm => ?_
    obtain ⟨before, after, he, hquiet⟩ := foldl_tell_eq_some.mp hm
    cases hquiet _ (hall before m after he)

end News

/-! ## Runs -/

/-- A status stored, and what its pass had done before. -/
structure Report where
  history : History
  status : DataCenterStatus

/-- The error in the status stored for a DataCenter. -/
def error? (key : ClusterKey) (w : World) : Option String :=
  ((w.store.dataCenters.find? ⟨key.ns, key.name⟩).bind (·.status)).bind (·.lastErrorMessage)

/-- The status that a pass stores with an effect: it writes one, and the store has recorded it. -/
def report? (u : Course) (w w' : World) : Option Report :=
  match u.next? with
  | some (.store (.replaceDataCenterStatus _ _ status)) =>
    if w.store.journal.length < w'.store.journal.length then some ⟨u.history, status⟩ else none
  | _ => none

/-- The statuses stored in a run of passes over a DataCenter, one pass at a time, with the world and
the pass under way in the end. Whatever else goes on, passes over other DataCenters and tasks among
it, is of the outside. -/
inductive Reporting (config : Config) (key : ClusterKey) (w₀ : World) :
    World → Option Course → List Report → Prop
  | start : Reporting config key w₀ w₀ none []
  /-- A pass begins. -/
  | begin {w : World} {rs : List Report} (h : Reporting config key w₀ w none rs) :
    Reporting config key w₀ w (some (.fresh (run config key))) rs
  /-- The pass does one effect. -/
  | act {w w' : World} {u u' : Course} {rs : List Report}
    (h : Reporting config key w₀ w (some u) rs) (ha : u.Acts w u' w') :
    Reporting config key w₀ w' (some u') (rs ++ (report? u w w').toList)
  /-- The pass ends, crashes or is cut short. -/
  | leave {w : World} {u : Course} {rs : List Report}
    (h : Reporting config key w₀ w (some u) rs) : Reporting config key w₀ w none rs
  /-- The outside changes the world, but not the error. -/
  | edit {w w' : World} {pass : Option Course} {rs : List Report}
    (h : Reporting config key w₀ w pass rs) (he : error? key w' = error? key w) :
    Reporting config key w₀ w' pass rs

variable {config : Config} {key : ClusterKey} {w₀ w w' : World} {u u' : Course}
  {pass : Option Course} {rs : List Report}

theorem exists_of_writesStatus {e : Effect} (he : e.writesStatus = true) :
    ∃ ns name status, e = .store (.replaceDataCenterStatus ns name status) := by
  cases e with
  | store call =>
    cases call with
    | replaceDataCenterStatus ns name status => exact ⟨ns, name, status, rfl⟩
    | _ => cases he
  | _ => cases he

/-- The error is changed by status writes only. -/
theorem error?_of_answers {e : Effect} {r : e.Reply} (ha : Answers w e r w')
    (he : e.writesStatus = false) : error? key w' = error? key w := by
  have hdcs : w'.store.dataCenters = w.store.dataCenters := by
    cases e with
    | store call =>
      rcases ha.store_cases with ⟨hs, -⟩ | ⟨hs, -⟩
      · rw [hs]
      · rw [hs]
        refine (MemoryStore.dataCenters_perform _ ?_).1
        rintro ns name status rfl
        cases he
    | _ => rw [ha.store_eq (by simp)]
  unfold error?
  rw [hdcs]

/-- The DataCenter is read. -/
def reading (key : ClusterKey) (dc : DataCenter) : Answered :=
  ⟨.store (.getDataCenter key.ns key.name), (.ok (some dc) : Except _ (Option DataCenter))⟩

/-- The pass under way writes no status but one that tells, and until it writes one, the error it
has read is the one stored. -/
structure Current (config : Config) (key : ClusterKey) (w : World) (u : Course) : Prop where
  tells : u.Holds (Tells config key) fun _ _ => True
  error : ∀ dc, reading key dc ∈ u.history →
    (∀ a ∈ u.history, a.effect.writesStatus = false) →
      (dc.status.getD {}).lastErrorMessage = error? key w

theorem Current.fresh (config : Config) (key : ClusterKey) (w : World) :
    Current config key w (.fresh (run config key)) where
  tells := Program.Holds.mono (fun _ _ h => h) (fun _ _ _ => trivial) (holds_run_tells config key)
  error _ hread := absurd hread List.not_mem_nil

theorem Current.edit (hc : Current config key w u) (he : error? key w' = error? key w) :
    Current config key w' u :=
  ⟨hc.tells, fun dc hread hno => (hc.error dc hread hno).trans he.symm⟩

/-- An effect of another kind stores no status. -/
theorem report?_eq_none {h : History} {e : Effect} {next : e.Reply → Program _}
    (he : e.writesStatus = false) : report? ⟨h, .perform e next⟩ w w' = none := by
  cases e with
  | store call =>
    cases call with
    | replaceDataCenterStatus => cases he
    | _ => rfl
  | _ => rfl

/-- An effect that writes no status leaves the pass current. -/
theorem Current.acts_quietly {h : History} {e : Effect} {next : e.Reply → Program _} {r : e.Reply}
    (hc : Current config key w ⟨h, .perform e next⟩) (hans : Answers w e r w')
    (he : e.writesStatus = false) : Current config key w' ⟨h ++ [⟨e, r⟩], next r⟩ := by
  have herror : error? key w' = error? key w := error?_of_answers hans he
  refine ⟨hc.tells.acts (.act hans), fun dc hread hno => ?_⟩
  rw [herror]
  rcases List.mem_append.mp hread with hread | hread
  · exact hc.error dc hread fun a ha => hno a (List.mem_append_left _ ha)
  · -- the effect just done is the read itself
    cases List.mem_singleton.mp hread
    unfold error?
    rw [dataCenter_of_read hans rfl, Option.bind_some]
    cases dc.status <;> rfl

/-- A status write of the pass leaves the error as it is and stores nothing, or it stores a status
that tells, and the error is what the news of it comes to. -/
theorem Current.acts_reporting {h : History} {ns name : String} {status : DataCenterStatus}
    {next : (Effect.store (.replaceDataCenterStatus ns name status)).Reply → Program _}
    {r : (Effect.store (.replaceDataCenterStatus ns name status)).Reply}
    (hc : Current config key w ⟨h, .perform _ next⟩) (hans : Answers w _ r w') :
    report? ⟨h, .perform _ next⟩ w w' = none ∧ error? key w' = error? key w ∨
      ∃ v news, report? ⟨h, .perform _ next⟩ w w' = some ⟨h, status⟩ ∧
        Told config key h status v news ∧ error? key w' = news.tell (error? key w) := by
  obtain ⟨rfl, rfl, v, news, htold⟩ := hc.tells.1 _ _ _ rfl
  have hsame (hj : w'.store.journal = w.store.journal)
      (hd : w'.store.dataCenters = w.store.dataCenters) :
      report? ⟨h, .perform _ next⟩ w w' = none ∧ error? key w' = error? key w := by
    unfold report? error?
    rw [hj, hd]
    exact ⟨if_neg (Nat.lt_irrefl _), rfl⟩
  rcases hans.store_cases with ⟨hs, -⟩ | ⟨hs, -⟩
  · rw [hs] at hsame
    exact .inl (hsame rfl rfl)
  rcases w.store.replaceDataCenterStatus_cases key.ns key.name status
    with ⟨hok, hj⟩ | ⟨-, hj, hd⟩
  · refine .inr ⟨v, news, ?_, htold, ?_⟩
    · refine if_pos ?_
      rw [hs, hj, List.length_append]
      exact Nat.lt_succ_self _
    · -- the error read is the one stored, as no status was written since
      have hread : reading key v.dc ∈ h := by
        obtain ⟨done, rfl, -⟩ := htold.behind
        exact List.mem_append_left _ List.mem_cons_self
      rw [← hc.error v.dc hread htold.first, ← htold.error]
      unfold error?
      rw [hs, MemoryStore.status_of_acknowledged hok]
      rfl
  · rw [← hs] at hj hd
    exact .inl (hsame hj hd)

/-- Whatever effect the pass does, it stays current; and a status is stored by status writes only.
-/
theorem Current.acts (hc : Current config key w u) (ha : u.Acts w u' w') :
    Current config key w' u' ∧
      (report? u w w' = none ∧ error? key w' = error? key w ∨
        ∃ status v news, report? u w w' = some ⟨u.history, status⟩ ∧
          Told config key u.history status v news ∧
          error? key w' = news.tell (error? key w)) := by
  cases ha with
  | @act _ _ h e next r hans =>
    cases he : e.writesStatus with
    | false => exact ⟨hc.acts_quietly hans he, .inl ⟨report?_eq_none he, error?_of_answers hans he⟩⟩
    | true =>
      refine ⟨⟨hc.tells.acts (.act hans), fun dc _ hno => ?_⟩, ?_⟩
      · have hlast := hno ⟨e, r⟩ (List.mem_append_right _ List.mem_cons_self)
        cases he.symm.trans hlast
      · obtain ⟨ns, name, status, rfl⟩ := exists_of_writesStatus he
        exact (hc.acts_reporting hans).imp_right fun hnews => ⟨status, hnews⟩

/-- Each status stored tells its news, and the error is what the news comes to in turn. The
induction is on the run. -/
theorem Reporting.exists_told (hr : Reporting config key w₀ w pass rs) :
    ∃ told : List (Survey × News),
      List.Forall₂ (fun r t => Told config key r.history r.status t.1 t.2) rs told ∧
        error? key w = (told.map (·.2)).foldl News.tell (error? key w₀) ∧
        ∀ u, pass = some u → Current config key w u := by
  -- On the run. A status is stored by a step of a pass only, and the pass knows the error before
  -- it.
  induction hr with
  | start => exact ⟨[], .nil, rfl, fun u hu => by cases hu⟩
  | begin h ih =>
    obtain ⟨told, hall, herror, -⟩ := ih
    refine ⟨told, hall, herror, fun u hu => ?_⟩
    cases hu
    exact .fresh config key _
  | act h ha ih =>
    obtain ⟨told, hall, herror, hcurrent⟩ := ih
    obtain ⟨hc, ⟨hnone, hsame⟩ | ⟨status, v, news, hsome, htold, hnew⟩⟩ := (hcurrent _ rfl).acts ha
    · refine ⟨told, ?_, hsame.trans herror, fun u hu => Option.some.inj hu ▸ hc⟩
      rw [hnone, Option.toList_none, List.append_nil]
      exact hall
    · refine ⟨told ++ [(v, news)], ?_, ?_, fun u hu => Option.some.inj hu ▸ hc⟩
      · rw [hsome]
        exact List.rel_append hall (.cons htold .nil)
      · rw [hnew, herror, List.map_append, List.foldl_append]
        rfl
  | leave h ih =>
    obtain ⟨told, hall, herror, -⟩ := ih
    exact ⟨told, hall, herror, fun u hu => by cases hu⟩
  | edit h he ih =>
    obtain ⟨told, hall, herror, hcurrent⟩ := ih
    exact ⟨told, hall, he.trans herror, fun u hu => (hcurrent u hu).edit he⟩

/-- **The status record.** Every status stored in a run tells what its pass has read, as `Recorded`
has it, and would tell the same had another status been stored before; the survey and the news are
the only ones its history can be told from (`Told.unique`). And from an error-free start there is no
error in the end exactly if convergence has followed every failure, and otherwise the error is the
latest failure. -/
theorem status_recorded (hr : Reporting config key w₀ w pass rs) :
    ∃ told : List (Survey × News),
      List.Forall₂ (fun r t => Told config key r.history r.status t.1 t.2 ∧
        ∀ previous h status news,
          Told config key h status { t.1 with dc := { t.1.dc with status := previous } } news →
            status.Agrees r.status) rs told ∧
      (error? key w₀ = none →
        (error? key w = none ↔ ∀ before m after,
          told.map (·.2) = before ++ .failed m :: after → .converged ∈ after) ∧
        ∀ m, error? key w = some m ↔ ∃ before after,
          told.map (·.2) = before ++ .failed m :: after ∧ ∀ n ∈ after, n = .quiet) := by
  obtain ⟨told, hall, herror, -⟩ := hr.exists_told
  refine ⟨told, hall.imp fun r t ht =>
    ⟨ht, fun _ _ _ _ ht' => ht'.recorded.agrees ht.recorded⟩, fun hfree => ?_⟩
  rw [herror, hfree]
  exact ⟨News.foldl_tell_eq_none, fun m => News.foldl_tell_eq_some⟩

/-! ## A failure, then convergence -/

/-- The statuses stored by the next effects of a pass, if nothing else goes on. -/
def reports : Nat → World → Course → List Report
  | n + 1, w, ⟨h, .perform e next⟩ =>
    (report? ⟨h, .perform e next⟩ w (w.perform e).2).toList ++
      reports n (w.perform e).2 ⟨h ++ [⟨e, (w.perform e).1⟩], next (w.perform e).1⟩
  | _, _, _ => []

/-- A pass may go on by some effects while nothing else does, and what it reports is added. -/
theorem Reporting.forward (hr : Reporting config key w₀ w (some u) rs) (n : Nat) :
    Reporting config key w₀ (u.forward n w).1 (some (u.forward n w).2) (rs ++ reports n w u) := by
  induction n generalizing w u rs with
  | zero =>
    unfold reports
    rwa [List.append_nil]
  | succ n ih =>
    obtain ⟨h, rest⟩ := u
    cases rest with
    | perform e next =>
      have hnext := ih (hr.act (.act (.performed w e)))
      rwa [List.append_assoc] at hnext
    | _ =>
      unfold reports
      rwa [List.append_nil]

/-- The small DataCenter is to lose its one member, whose sidecar cannot be got hold of. -/
def deaf : World := { asking 0 with sidecars := { unreachable := ["c-d-rack1-0"] } }

/-- Its replica is wanted again. -/
def reconciled : World :=
  { (passed deaf).1 with store := resize smallKey 1 1 (passed deaf).1.store }

/-- A pass over the small DataCenter, from its begin until it is left. -/
theorem Reporting.passed (hr : Reporting {} smallKey w₀ w none rs) :
    Reporting {} smallKey w₀ (passed w).1 none
      (rs ++ reports 30 w (.fresh (run {} smallKey))) :=
  (hr.begin.forward 30).leave

/-- The decommission fails and is the error; the pass that finds the replica wanted again drops it.
It is not told of a success: what ends the error is that nothing is left to be asked. -/
theorem failure_dropped : ∃ w₀ w w' r r' v v' m, error? smallKey w₀ = none ∧
    Reporting {} smallKey w₀ w none [r] ∧ error? smallKey w = some m ∧
    Reporting {} smallKey w₀ w' none [r, r'] ∧ error? smallKey w' = none ∧
    Told {} smallKey r.history r.status v (.failed m) ∧
    Told {} smallKey r'.history r'.status v' .converged := by
  obtain ⟨r, hreport⟩ := List.length_eq_one_iff.mp
    (show (reports 30 deaf (.fresh (run {} smallKey))).length = 1 by decide +kernel)
  obtain ⟨r', hreport'⟩ := List.length_eq_one_iff.mp
    (show (reports 30 reconciled (.fresh (run {} smallKey))).length = 1 by decide +kernel)
  have hstart : Reporting {} smallKey deaf deaf none [] := .start
  have hr := hstart.passed
  have hedit : error? smallKey reconciled = error? smallKey (passed deaf).1 := by decide +kernel
  have hr' := (hr.edit hedit).passed
  rw [hreport, List.nil_append] at hr hr'
  rw [hreport', List.singleton_append] at hr'
  have hfree : error? smallKey deaf = none := by decide +kernel
  obtain ⟨m, hm⟩ := Option.isSome_iff_exists.mp
    (show (error? smallKey (passed deaf).1).isSome = true by decide +kernel)
  have hnone : error? smallKey (passed reconciled).1 = none := by decide +kernel
  obtain ⟨_, hall, herror⟩ := status_recorded hr
  obtain ⟨_, hall', herror'⟩ := status_recorded hr'
  obtain ⟨⟨v, news⟩, _, ⟨ht, -⟩, hrest, rfl⟩ := List.forall₂_cons_left_iff.mp hall
  obtain rfl := List.forall₂_nil_left_iff.mp hrest
  obtain ⟨⟨v₁, news₁⟩, _, ⟨ht₁, -⟩, hrest₁, rfl⟩ := List.forall₂_cons_left_iff.mp hall'
  obtain ⟨⟨v', news'⟩, _, ⟨ht', -⟩, hrest', rfl⟩ := List.forall₂_cons_left_iff.mp hrest₁
  obtain rfl := List.forall₂_nil_left_iff.mp hrest'
  -- the news of the first report is the failure, in both runs
  obtain ⟨before, after, he, -⟩ := ((herror hfree).2 m).mp hm
  change [news] = _ at he
  have hnews : .failed m ∈ [news] := he ▸ List.mem_append_right _ List.mem_cons_self
  obtain rfl := List.mem_singleton.mp hnews
  obtain rfl : news₁ = .failed m := (ht₁.unique ht).2
  have hconverged := (herror' hfree).1.mp hnone [] m [news'] rfl
  obtain rfl := List.mem_singleton.mp hconverged
  exact ⟨deaf, _, _, r, r', _, v', m, hfree, hr, hm, hr', hnone, ht, ht'⟩

end RackOperator.Pass
