import RackOperator.Proofs.Task.Lifetimes

/-!
# How long a task is kept

A task that has ended is reconciled again when it asked for it, until it is deleted.
`task_eq_ending` writes out all that one call does. A call deletes the task if it is as old as
the retention (`visit_of_old`), and otherwise asks to be made again after what is left
(`visit_of_young`); a clock that is behind the finish time makes the task no younger than new.
So a call that comes when it was asked for comes at the finish time and the retention behind
it, or, where the finish time lies ahead, one retention closer to it; `expires` goes down this
ladder by induction on how far away that instant is. A finish time may name a leap second. At the
end of a day, where such a second belongs, it counts as the second behind it (`Instant.Regular`);
one that is named elsewhere counts so or not by the time of day of the call, and may make for one
call more.

Nothing else deletes a task (`spares_task`, `spares_dataCenter`): neither a call for one that has
not ended, nor an advance or a pass. `retention` puts all this together.
-/

namespace RackOperator

namespace Instant

variable {t u : Instant}

/-- A leap second is the last of its day. -/
def Regular (t : Instant) : Prop := t.leap = true → t.secondOfDay = 86399

theorem regular_of_not_leap (h : t.leap = false) : t.Regular := fun hl => by
  rw [h] at hl
  cases hl

/-- Outside leap seconds the count is that of all seconds, so times are compared as they are stored.
-/
theorem count_of_not_leap (h : t.leap = false) : t.count = t.nanos := by
  unfold count
  rw [h]
  rfl

/-- A time in a leap second counts a second more than its stored nanoseconds, or none. -/
theorem count_cases (t : Instant) : t.count = t.nanos ∨ t.count = t.nanos + 1000000000 := by
  unfold count
  split
  · exact .inr rfl
  · exact .inl rfl

/-- The leap second of an earlier time of day is none of a regular instant. -/
theorem Regular.count_of_lt (hu : u.Regular) (h : u.secondOfDay < t.secondOfDay) :
    u.count = u.nanos := by
  cases hl : u.leap with
  | false => exact count_of_not_leap hl
  | true =>
    have hlast := hu hl
    unfold secondOfDay at h hlast
    omega

/-- Between regular instants the counts tell how far it is, leap seconds included. -/
theorem since_of_regular (ht : t.Regular) (hu : u.Regular) : t.since u = t.count - u.count := by
  unfold since
  split
  next h => rw [hu.count_of_lt h]
  next =>
    split
    next h => rw [ht.count_of_lt h]
    next => rfl

/-- In general a leap second may make it one second less than that without leap seconds. -/
theorem le_since (t u : Instant) : t.nanos - u.nanos - 1000000000 ≤ t.since u := by
  unfold since
  have ht := t.count_cases
  have hu := u.count_cases
  split
  · omega
  · split
    · omega
    · omega

/-- From any instant to one outside a leap second it is at most what the stored nanoseconds say. -/
theorem since_le (ht : t.leap = false) (u : Instant) : t.since u ≤ t.nanos - u.nanos := by
  unfold since
  rw [count_of_not_leap ht]
  have hu := u.count_cases
  split
  · omega
  · split
    · omega
    · omega

end Instant

namespace Reconcile

open Advance (Lifetime Told kept_of_lifetime)
open WorkQueue (Job)

variable {config : Config} {key : NamespacedName} {t : CassandraTask} {w : World}

/-- A task of this name that has ended and is not being deleted. -/
structure Over (key : NamespacedName) (t : CassandraTask) : Prop where
  ns : t.metadata.ns = some key.ns
  name : t.metadata.anyName = key.name
  live : t.metadata.deletionTimestamp = none
  ended : t.phase.isTerminal = true

/-- How many nanoseconds ago a task ended; none where its end lies ahead. -/
def age (finished now : Instant) : Int := max (now.since finished) 0

/-- How many nanoseconds a task is kept behind its end. -/
def window (config : Config) : Int := config.taskRetention * 1000000000

/-- No task is younger than nothing: a time ahead of the clock counts as now. -/
theorem age_nonneg (finished now : Instant) : 0 ≤ age finished now := Int.le_max_right _ _

/-- What is left of the retention is the window less the age, and nothing once the age has reached
the window. -/
theorem remaining?_eq (config : Config) (finished now : Instant) :
    remaining? config.taskRetention finished now =
      if age finished now < window config then
        some (window config - age finished now).toNat
      else none := by
  unfold remaining? age window
  dsimp only
  split_ifs
  · congr 1
    omega
  · omega
  · omega
  · rfl

/-! ## One call -/

/-- What a call does for a task that ended at a time: it looks at the clock, and waits for what is
left by then or deletes. What is left is any function here, so that nothing computes it. -/
def ending (key : NamespacedName) (left : Instant → Instant → Option Nat) :
    Option Instant → Program (Job Action)
  | none => .done (.settled (.ok .done))
  | some finished => .perform .now fun now : Instant =>
    match left finished now with
    | some nanos => .done (.settled (.ok (.requeue nanos)))
    | none => .perform (.store (.deleteTask key.ns key.name)) fun r =>
      .done (.settled (r.map fun _ => .done))

theorem settled_eq_ending (key : NamespacedName) (left : Instant → Instant → Option Nat)
    (ended : Option Instant) :
    (do
      let r ← (match ended with
        | none => return .done
        | some finished => do
          let now : Instant ← Work.ofProgram (Program.effect .now)
          match left finished now with
          | some nanos => return .requeue nanos
          | none =>
            Work.store (.deleteTask key.ns key.name)
            return .done : Work Action).run
      return .settled r : Program (Job Action)) = ending key left ended := by
  cases ended with
  | none => rfl
  | some finished =>
    refine congrArg (Program.perform .now) (funext fun now : Instant => ?_)
    -- The clock is read; what is left depends on the reading alone.
    show (match left finished now with
      | some nanos => pure (.requeue nanos)
      | none => do
        Work.store (.deleteTask key.ns key.name)
        return .done : Work Action).run.bind (fun r => .done (Job.settled r)) = _
    cases left finished now with
    | some nanos => rfl
    | none =>
      refine congrArg (Program.perform (.store (.deleteTask key.ns key.name)))
        (funext fun r => ?_)
      cases r with
      | ok u => rfl
      | error e => rfl

/-- All that a call does for a task that has ended: it reads the clock, and deletes the task or asks
to be made again. -/
theorem task_eq_ending (h : Over key t) :
    task config t = ending key (remaining? config.taskRetention) (finishedAt? t) := by
  unfold task expire
  rw [h.ns, h.live, h.ended, h.name]
  dsimp only
  rw [if_neg (by simp), if_pos rfl]
  exact settled_eq_ending key (remaining? config.taskRetention) (finishedAt? t)

/-- What a call for a task comes to in a world at an instant. -/
def visit (config : Config) (t : CassandraTask) (now : Instant) (w : World) :
    Option (Job Action) × World :=
  (task config t).run (m := StateM World) World.perform { w with clock := now }

theorem askStore_of_accepts (hw : w.storePlans = {}) (call : StoreCall) :
    w.askStore call = ((w.store.perform call).1, { w with store := (w.store.perform call).2 }) := by
  have hrefuses : w.refuses call.name = (false, w) := by
    unfold World.refuses
    rw [hw]
    rfl
  unfold World.askStore
  rw [hrefuses]
  rfl

section Run

variable {left : Instant → Instant → Option Nat} {finished : Instant}

/-- While something is left of the retention a call changes nothing but the clock it has read. -/
theorem run_ending_wait {nanos : Nat} (hl : left finished w.clock = some nanos) :
    (ending key left (some finished)).run (m := StateM World) World.perform w =
      (some (.settled (.ok (.requeue nanos))), w) := by
  show (match left finished w.clock with
    | some nanos => _
    | none => _ : Program (Job Action)).run (m := StateM World) World.perform w = _
  rw [hl]
  rfl

/-- Once nothing is left a call deletes the task and ends. The store has the task or has not; it
acknowledges the deletion in both cases. -/
theorem run_ending_delete (hl : left finished w.clock = none) (hw : w.storePlans = {}) :
    (ending key left (some finished)).run (m := StateM World) World.perform w =
      (some (.settled (.ok .done)), { w with
        store := (w.store.perform (.deleteTask key.ns key.name)).2 }) := by
  have hok : (w.store.perform (.deleteTask key.ns key.name)).1 = .ok () := by
    unfold MemoryStore.perform
    dsimp only
    split <;> rfl
  -- For whatever the store answers, so that its answer need not be computed here.
  have hrun : ∀ p : Except OperatorError Unit × World,
      w.askStore (.deleteTask key.ns key.name) = p →
      (ending key left (some finished)).run (m := StateM World) World.perform w =
        (some (.settled (p.1.map fun _ => .done)), p.2) := by
    rintro p rfl
    show (match left finished w.clock with
      | some nanos => _
      | none => _ : Program (Job Action)).run (m := StateM World) World.perform w = _
    rw [hl]
    rfl
  rw [hrun _ (askStore_of_accepts hw _), hok]
  rfl

end Run

/-- One that has no finish time that can be read stays, and no further call is asked for. -/
theorem visit_of_none (h : Over key t) (hf : finishedAt? t = none) (now : Instant) (w : World) :
    visit config t now w = (some (.settled (.ok .done)), { w with clock := now }) := by
  unfold visit
  rw [task_eq_ending h, hf]
  rfl

/-- One younger than the retention stays, and is to be called for again after what is left. -/
theorem visit_of_young (h : Over key t) {finished now : Instant}
    (hf : finishedAt? t = some finished) (ha : age finished now < window config) (w : World) :
    visit config t now w =
      (some (.settled (.ok (.requeue (window config - age finished now).toNat))),
        { w with clock := now }) := by
  unfold visit
  rw [task_eq_ending h, hf]
  refine run_ending_wait ?_
  rw [remaining?_eq, if_pos ha]

/-- One as old as the retention is deleted, and no further call is asked for. -/
theorem visit_of_old (h : Over key t) {finished now : Instant}
    (hf : finishedAt? t = some finished) (ha : window config ≤ age finished now)
    (hw : w.storePlans = {}) :
    visit config t now w = (some (.settled (.ok .done)), { w with
      clock := now, store := (w.store.perform (.deleteTask key.ns key.name)).2 }) := by
  unfold visit
  rw [task_eq_ending h, hf]
  refine run_ending_delete ?_ hw
  rw [remaining?_eq, if_neg (Int.not_lt.mpr ha)]

theorem gone_of_old (h : Over key t) {finished now : Instant}
    (hf : finishedAt? t = some finished) (ha : window config ≤ age finished now)
    (hw : w.storePlans = {}) : (visit config t now w).2.task? key = none := by
  rw [visit_of_old h hf ha hw]
  show (w.store.perform (.deleteTask key.ns key.name)).2.tasks.find? key = none
  rw [MemoryStore.find?_deleteTask, if_pos rfl]

/-! ## Calls at the times asked for -/

/-- The instant a number of nanoseconds later. -/
def later (now : Instant) (nanos : Nat) : Instant := { nanos := now.nanos + nanos }

/-- Called at an instant, and each time again after exactly what was asked for, the task stays for
a number of calls and is then deleted at another instant. -/
inductive Expires (config : Config) (key : NamespacedName) (t : CassandraTask) :
    Instant → World → Nat → Instant → Prop
  | now {now : Instant} {w w' : World}
    (h : visit config t now w = (some (.settled (.ok .done)), w'))
    (gone : w'.task? key = none) : Expires config key t now w 0 now
  | later {now instant : Instant} {w w' : World} {nanos calls : Nat}
    (h : visit config t now w = (some (.settled (.ok (.requeue nanos))), w'))
    (stays : w'.task? key = w.task? key)
    (next : Expires config key t (later now nanos) w' calls instant) :
    Expires config key t now w (calls + 1) instant

/-- When a task that is called for at one instant is deleted at another: the retention behind its
finish time, or at once if that has passed. Where the finish time is in a leap second that does not
end its day, it may be up to a second later. -/
structure Falls (config : Config) (finished now instant : Instant) : Prop where
  leap : now.leap = false → instant.leap = false
  exact : now.Regular → finished.Regular →
    instant.count = max now.count (finished.count + window config)
  near : now.leap = false → max now.nanos (finished.nanos + window config) ≤ instant.nanos ∧
    instant.nanos ≤ max now.nanos (finished.nanos + window config + 1000000000)

/-- A task is deleted when it is as old as the retention, or at once if it is older. Each call that
comes too early asks for one at the time that is then left. -/
theorem expires (h : Over key t) {finished : Instant} (hf : finishedAt? t = some finished)
    (hr : 0 < config.taskRetention) : ∀ (now : Instant) (w : World), w.storePlans = {} →
      ∃ calls instant, Expires config key t now w calls instant ∧
        Falls config finished now instant := by
  have hpos : 0 < window config := by
    unfold window
    omega
  intro now
  -- how far away the deletion is at most comes down by what is asked for
  induction hn : (finished.nanos + 1000000000 + window config - now.nanos).toNat
    using Nat.strong_induction_on generalizing now with
  | h n ih =>
    intro w hw
    by_cases ha : window config ≤ age finished now
    · have hcall := visit_of_old h hf ha hw
      have hgone := gone_of_old h hf ha hw
      rw [hcall] at hgone
      refine ⟨0, now, .now hcall hgone, id, fun hnow hfinished => ?_, fun hnow => ?_⟩
      · unfold age at ha
        rw [Instant.since_of_regular hnow hfinished] at ha
        omega
      · have hsince := Instant.since_le hnow finished
        unfold age at ha
        omega
    · have hyoung : age finished now < window config := Int.not_le.mp ha
      let next := later now (window config - age finished now).toNat
      have hnext : next.nanos = now.nanos + (window config - age finished now) := by
        show now.nanos + ((window config - age finished now).toNat : Int) = _
        omega
      have hcloser := now.le_since finished
      have hcount := now.count_cases
      unfold age at hyoung hnext
      obtain ⟨calls, instant, hexpires, hfalls⟩ :=
        ih _ (by omega) next rfl { w with clock := now } hw
      refine ⟨calls + 1, instant, .later (visit_of_young h hf hyoung w) rfl hexpires,
        fun _ => hfalls.leap rfl, fun hnow hfinished => ?_, fun hnow => ?_⟩
      · rw [Instant.since_of_regular hnow hfinished] at hyoung hnext
        have hend := hfalls.exact (Instant.regular_of_not_leap rfl) hfinished
        rw [Instant.count_of_not_leap (t := next) rfl] at hend
        omega
      · have hend := hfalls.near rfl
        omega

/-! ## What deletes no task -/

/-- An effect that deletes no task. -/
def Spares (_ : History) (e : Effect) : Prop := ∀ ns name, e ≠ .store (.deleteTask ns name)

/-- A unit of work that deletes no task is all that is put in line. -/
def QueuesSparing (_ : History) (job : Job Action) : Prop :=
  ∀ u, job = .queued u → u.work.Holds Spares (fun _ _ => True) []

theorem spares_advance (config : Config) (key : NamespacedName) :
    (Advance.run config key).run.Holds Spares (fun _ _ => True) [] := by
  refine Program.Holds.mono (fun h e hd ns name he => ?_) (fun _ _ _ => trivial)
    (Advance.holds_run config key)
  subst he
  have hd : Advance.Due key h (.store (.deleteTask ns name)) := hd
  cases hd with
  | act he => cases he

/-- Passes delete none either; all they do to tasks is to create cleanups. -/
theorem spares_pass (config : Config) (key : ClusterKey) :
    (Pass.run config key).run.Holds Spares (fun _ _ => True) [] := by
  refine Program.Holds.mono (fun h e hd ns name he => ?_) (fun _ _ _ => trivial)
    (Pass.holds_run config key)
  subst he
  have hd : Pass.Due config key h (.store (.deleteTask ns name)) := hd
  cases hd

theorem spares_reject (ns : String) (t : CassandraTask) (reason : String) :
    (reject ns t reason).Holds Spares (fun _ _ => True) [] := by
  unfold reject
  dsimp only
  split
  next =>
    refine (Work.holds_store_bind _ _).mpr ⟨fun ns' name he => ?_, fun u => ?_⟩
    · cases he
    · exact (Work.holds_pure _).mpr trivial
  next => exact (Work.holds_pure _).mpr trivial

/-- A call for a task that has not ended deletes no task, and neither does what it puts in line.
Only the branch of ended tasks deletes, and neither advances nor passes do. -/
theorem spares_task (config : Config) (hp : t.phase.isTerminal = false) :
    (task config t).Holds Spares QueuesSparing [] := by
  unfold task
  cases t.metadata.ns with
  | none => exact fun u hu => by cases hu
  | some ns =>
    dsimp only
    split
    next => exact fun u hu => by cases hu
    next =>
      rw [if_neg (by rw [hp]; exact Bool.false_ne_true)]
      cases TaskKind.ofSpec t.spec with
      | error reason =>
        exact (Program.holds_bind _ _ _).mpr (Program.Holds.mono (fun _ _ h => h)
          (fun _ _ _ u hu => by cases hu) (spares_reject ns t reason))
      | ok kind =>
        intro u hu
        cases hu
        exact spares_advance config _

/-- A call for a DataCenter deletes no task, and neither does what it puts in line, a cleanup task
being only created. -/
theorem spares_dataCenter (config : Config) (dc : DataCenter) :
    (dataCenter config dc).Holds Spares QueuesSparing [] := by
  unfold dataCenter
  cases dc.metadata.ns with
  | none => exact fun u hu => by cases hu
  | some ns =>
    dsimp only
    split
    next =>
      refine ⟨fun ns' name he => ?_, fun r u hu => ?_⟩
      · cases he
      · cases hu
    next =>
      intro u hu
      cases hu
      exact spares_pass config _

/-! ## Retention -/

/-- What a call at an instant, and those it asks for, come to for a task that has ended. -/
structure Retained (config : Config) (key : NamespacedName) (t : CassandraTask) (now : Instant)
    (w : World) : Prop where
  /-- It goes just if its finish time can be read and is as long ago as the retention. -/
  deleted : (visit config t now w).2.task? key = none ↔
    ∃ finished, finishedAt? t = some finished ∧ window config ≤ age finished now
  /-- If the finish time can be read and the task stays, what is left of the retention is asked
  for, which is neither zero nor more than all of it. -/
  asked : ∀ finished, finishedAt? t = some finished →
    (visit config t now w).2.task? key ≠ none →
    ∃ nanos : Nat, (visit config t now w).1 = some (.settled (.ok (.requeue nanos))) ∧
      (nanos : Int) = window config - age finished now ∧ 0 < nanos ∧ nanos ≤ window config
  /-- Called for whenever it asked to be, it is deleted the retention behind its finish time, or
  at once if that has passed. -/
  expires : ∀ finished, finishedAt? t = some finished → 0 < config.taskRetention →
    ∃ calls instant, Expires config key t now w calls instant ∧
      Falls config finished now instant

/-- A task that has ended is kept for its retention, whatever its finish time says. One that lies in
the future counts as just now, so a task may be kept longer but never shorter. -/
theorem retained_of_over (h : Over key t) (now : Instant) (hw : w.storePlans = {})
    (ht : (w.task? key).isSome = true) : Retained config key t now w := by
  have hstays : ({ w with clock := now } : World).task? key ≠ none :=
    Option.isSome_iff_ne_none.mp ht
  refine ⟨?_, fun finished hf hstay => ?_, fun finished hf hr => expires h hf hr now w hw⟩
  · cases hf : finishedAt? t with
    | none =>
      rw [visit_of_none h hf]
      exact ⟨fun hgone => absurd hgone hstays, nofun⟩
    | some finished =>
      -- The one comparison that decides: the age against the window.
      by_cases ha : window config ≤ age finished now
      · exact ⟨fun _ => ⟨finished, rfl, ha⟩, fun _ => gone_of_old h hf ha hw⟩
      · rw [visit_of_young h hf (Int.not_le.mp ha)]
        refine ⟨fun hgone => absurd hgone hstays, fun ⟨finished', he, ha'⟩ => ?_⟩
        cases he
        exact absurd ha' ha
  · have ha : age finished now < window config :=
      Int.not_le.mp fun ha => hstay (gone_of_old h hf ha hw)
    have hage := age_nonneg finished now
    refine ⟨(window config - age finished now).toNat, ?_, by omega, by omega, by omega⟩
    rw [visit_of_young h hf ha]

/-- **Retention.** A call for a task that has ended deletes it just if its finish time can be read
and is as long ago as the retention, a time ahead counting as now; otherwise, if it can be read,
the call asks to be made again after what is left of the retention. Called for at the times it
asked for, such a task is deleted after finitely many calls, at the instant that lies the retention
behind its finish time, or at once if that has passed (`Retained`, `Falls`). No call for another
task or for a DataCenter deletes a task, nor does any work it puts in line; and while calls may know
any of its versions, no task is deleted before it has ended. -/
theorem retention (config : Config) (key : NamespacedName) :
    (∀ t, Over key t → ∀ (now : Instant) (w : World), w.storePlans = {} →
      (w.task? key).isSome = true → Retained config key t now w) ∧
    (∀ t, t.phase.isTerminal = false → (task config t).Holds Spares QueuesSparing []) ∧
    (∀ dc, (dataCenter config dc).Holds Spares QueuesSparing []) ∧
    ∀ spec s vs s', Lifetime config key spec s vs → Told config key spec vs s s' →
      ∀ t, s.world.task? key = some t → s'.world.task? key = none →
        t.phase.isTerminal = true := by
  refine ⟨fun t h now w hw ht => retained_of_over h now hw ht, fun t => spares_task config,
    spares_dataCenter config, fun spec s vs s' hl htold t ht hgone => ?_⟩
  have hi := kept_of_lifetime hl
  have hthere : (s.world.task? key).isSome = true := by rw [ht]; rfl
  obtain ⟨u, -, ⟨v, hv, hterm, -⟩, -⟩ := hi.expired htold hthere hgone
  have hstatus := hi.versions.ended v hv hterm t ht
  unfold CassandraTask.phase at hterm ⊢
  rw [hstatus]
  exact hterm

/-- A task that ended a minute into 1970. -/
def ended : CassandraTask :=
  { Advance.tidy with
    status := some { phase := .succeed, finishTime := some "1970-01-01T00:01:00Z" } }

/-- A world that stores it. -/
def endedWorld : World := { store := { tasks := SortedMap.insert {} Advance.tidyKey ended } }

/-- Kept for a minute and first called for a minute early, it stays then, and is deleted two minutes
into 1970. -/
theorem retention_of_ended : Over Advance.tidyKey ended ∧ endedWorld.storePlans = {} ∧
    (endedWorld.task? Advance.tidyKey).isSome = true ∧
    (visit { taskRetention := 60 } ended (.ofSeconds 0) endedWorld).2.task? Advance.tidyKey ≠ none ∧
    ∃ calls instant, Expires { taskRetention := 60 } Advance.tidyKey ended (.ofSeconds 0)
      endedWorld calls instant ∧ instant = .ofSeconds 120 := by
  have hover : Over Advance.tidyKey ended := ⟨rfl, rfl, rfl, rfl⟩
  have ht : (endedWorld.task? Advance.tidyKey).isSome = true := by decide
  have hf : finishedAt? ended = some (.ofSeconds 60) := by decide +kernel
  obtain ⟨hdeleted, -, hexpires⟩ := (retention { taskRetention := 60 } Advance.tidyKey).1
    ended hover (.ofSeconds 0) endedWorld rfl ht
  refine ⟨hover, rfl, ht, fun hgone => ?_, ?_⟩
  · obtain ⟨finished, he, ha⟩ := hdeleted.mp hgone
    cases hf.symm.trans he
    exact absurd ha (by decide)
  · obtain ⟨calls, ⟨nanos, leap⟩, h, hfalls⟩ := hexpires _ hf (by decide)
    obtain rfl : leap = false := hfalls.leap rfl
    have hcount := hfalls.exact (Instant.regular_of_not_leap rfl) (Instant.regular_of_not_leap rfl)
    obtain rfl : nanos = 120000000000 := hcount.trans (by decide)
    exact ⟨calls, _, h, rfl⟩

end Reconcile

end RackOperator
