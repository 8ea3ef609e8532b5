import RackOperator.Proofs.Maps
import RackOperator.WorkQueue.Protocol
import Mathlib.Data.List.Nodup

/-!
# The drainers of a queue

A step of the queue changes one drainer: it puts another in its place (`State.put`), takes
it away (`State.without`) or adds one (`State.join`). Here is what each of the three does to
the queue as a whole.

`State.Orderly` ties the pieces of a queue together. The registration of a key names the
one live drainer that serves it; the drainers in line are those that wait; and the permits
that are free and those held add up to the size of the pool. Whoever waits does so because
no permit is free (`State.Busy`).

The units of a key that have not started are those its drainer has in its hands and in its
channel, in that order (`State.pending`).
-/

namespace RackOperator.WorkQueue

/-- The unit a drainer has in its hands before it starts. -/
def Stage.unstarted? : Stage → Option Ticket
  | .holding t => some t
  | .waiting t => some t
  | .permitted t => some t
  | _ => none

/-- The unit a drainer runs. -/
def Stage.running? : Stage → Option Ticket
  | .running t => some t
  | _ => none

/-- The ticket that a stage runs is read off the one stage that runs any. -/
theorem Stage.running?_eq_some {stage : Stage} {t : Ticket} :
    stage.running? = some t ↔ stage = .running t := by
  cases stage <;> simp [Stage.running?]

/-- Whether a drainer is in line for a permit. -/
def Stage.isWaiting : Stage → Bool
  | .waiting _ => true
  | _ => false

/-- Whether a drainer has a permit. -/
def Stage.hasPermit : Stage → Bool
  | .permitted _ => true
  | .running _ => true
  | .ended _ => true
  | _ => false

/-- The units of a drainer that have not started, in the order in which they will. -/
def Drainer.pending (d : Drainer) : List Ticket := d.stage.unstarted?.toList ++ d.channel

/-- The units of a drainer that have not ended. -/
def Drainer.load (d : Drainer) : List Ticket := d.stage.running?.toList ++ d.pending

namespace State

/-- The drainer registered under a key. -/
def serving (q : State) (key : ClusterKey) : Option Drainer :=
  (q.registered.find? key).bind q.drainer?

/-- The units of a key that have not started. -/
def pending (q : State) (key : ClusterKey) : List Ticket :=
  ((q.serving key).map Drainer.pending).getD []

/-- The unit of a key that runs. -/
def running? (q : State) (key : ClusterKey) : Option Ticket :=
  (q.serving key).bind (·.stage.running?)

/-- A drainer in place of the one of its number. -/
def put (q : State) (d : Drainer) : State := q.update d.id fun _ => d

/-- Without a drainer and its registration. -/
def without (q : State) (d : Drainer) : State :=
  { q with
    drainers := q.drainers.filter fun a => a.id ≠ d.id
    registered := q.registered.erase d.key }

/-- Registrations, line and permits are those of the drainers. -/
structure Orderly (p : Nat) (q : State) : Prop where
  ids : (q.drainers.map (·.id)).Nodup
  below : ∀ d ∈ q.drainers, d.id < q.spawned
  registered : ∀ key id, q.registered.find? key = some id ↔
    ∃ d, q.drainer? id = some d ∧ d.key = key
  inLine : q.line.Nodup
  line : ∀ id, id ∈ q.line ↔ ∃ d, q.drainer? id = some d ∧ d.stage.isWaiting = true
  permits : q.free + q.drainers.countP (·.stage.hasPermit) = max p 1

/-- A drainer waits only while no permit is free. -/
def Busy (q : State) : Prop := q.line ≠ [] → q.free = 0

/-- No unit is submitted, started or ended. -/
structure Keeps (q q' : State) : Prop where
  pending : ∀ key, q'.pending key = q.pending key
  running : ∀ key, q'.running? key = q.running? key

variable {p : Nat} {q : State} {id : Nat} {d d' : Drainer}

/-! ## One drainer in place of another -/

theorem drainer?_id (hd : q.drainer? id = some d) : d.id = id := by
  have h := List.find?_some hd
  exact of_decide_eq_true h

theorem mem_of_drainer? (hd : q.drainer? id = some d) : d ∈ q.drainers :=
  List.mem_of_find?_eq_some hd

theorem drainer?_of_mem (hids : (q.drainers.map (·.id)).Nodup) (hd : d ∈ q.drainers) :
    q.drainer? d.id = some d := by
  have hsome : (q.drainer? d.id).isSome :=
    List.find?_isSome.mpr ⟨d, hd, decide_eq_true rfl⟩
  obtain ⟨a, ha⟩ := Option.isSome_iff_exists.mp hsome
  rw [ha, List.inj_on_of_nodup_map hids (mem_of_drainer? ha) hd (drainer?_id ha)]

/-- Changing a drainer puts the changed one in its place. The steps change drainers by number; the
invariant is easier to follow where one drainer replaces another. -/
theorem update_eq_put (hids : (q.drainers.map (·.id)).Nodup) (hd : q.drainer? id = some d)
    {f : Drainer → Drainer} (hf : (f d).id = id) : q.update id f = q.put (f d) := by
  refine congrArg (fun l => { q with drainers := l }) (List.map_congr_left fun a ha => ?_)
  rw [hf]
  by_cases he : a.id = id
  · rw [if_pos he, if_pos he,
      List.inj_on_of_nodup_map hids ha (mem_of_drainer? hd) (he.trans (drainer?_id hd).symm)]
  · rw [if_neg he, if_neg he]

/-- A change that changes no drainer changes nothing, so a step that has nothing to do may be left
out. -/
theorem update_eq_self {f : Drainer → Drainer} (hf : ∀ d, q.drainer? id = some d → f d = d)
    (hids : (q.drainers.map (·.id)).Nodup) : q.update id f = q := by
  refine congrArg (fun l => { q with drainers := l }) ?_
  refine (List.map_congr_left fun a ha => ?_).trans (List.map_id _)
  by_cases he : a.id = id
  · rw [if_pos he, hf a (he ▸ drainer?_of_mem hids ha)]
    rfl
  · rw [if_neg he]
    rfl

/-- The drainer put in is found by its number, and all others by theirs. -/
theorem drainer?_put (hd : q.drainer? d.id = some d) (d' : Drainer) (hid : d'.id = d.id) (j : Nat) :
    (q.put d').drainer? j = if j = d.id then some d' else q.drainer? j := by
  -- Putting keeps ids, so the drainer found is the same one, or the one put in its stead.
  have hfind : (q.put d').drainer? j =
      (q.drainer? j).map fun a => if a.id = d'.id then d' else a := by
    refine (List.find?_map ..).trans (congrArg (Option.map _) (congrFun (congrArg List.find? ?_) _))
    funext a
    show decide ((if a.id = d'.id then d' else a).id = j) = decide (a.id = j)
    by_cases he : a.id = d'.id
    · rw [if_pos he, he]
    · rw [if_neg he]
  rw [hfind, hid]
  by_cases hj : j = d.id
  · rw [if_pos hj, hj, hd, Option.map_some, if_pos rfl]
  · rw [if_neg hj]
    cases ha : q.drainer? j with
    | none => rfl
    | some a => rw [Option.map_some, drainer?_id ha, if_neg hj]

/-- Putting a drainer in the place of another of its number gives no number anew. -/
theorem ids_put (q : State) (d' : Drainer) :
    (q.put d').drainers.map (·.id) = q.drainers.map (·.id) := by
  show (q.drainers.map _).map _ = _
  rw [List.map_map]
  refine List.map_congr_left fun a _ => ?_
  show (if a.id = d'.id then d' else a).id = a.id
  by_cases he : a.id = d'.id
  · rw [if_pos he, he]
  · rw [if_neg he]

/-- One drainer takes the place of another, and the others stay. All counts and look-ups after a
step are read off this split. -/
theorem exists_split (hids : (q.drainers.map (·.id)).Nodup) (hd : q.drainer? d.id = some d)
    (hid : d'.id = d.id) :
    ∃ l₁ l₂, q.drainers = l₁ ++ d :: l₂ ∧ (q.put d').drainers = l₁ ++ d' :: l₂ ∧
      (q.without d).drainers = l₁ ++ l₂ := by
  obtain ⟨l₁, l₂, hsplit⟩ := List.append_of_mem (mem_of_drainer? hd)
  -- the others have other numbers
  rw [hsplit, List.map_append, List.map_cons, List.nodup_append] at hids
  obtain ⟨-, hnd, hdisj⟩ := hids
  have h₁ : ∀ a ∈ l₁, a.id ≠ d.id := fun a ha =>
    hdisj a.id (List.mem_map_of_mem ha) d.id List.mem_cons_self
  have h₂ : ∀ a ∈ l₂, a.id ≠ d.id := fun a ha he =>
    (List.nodup_cons.mp hnd).1 (List.mem_map.mpr ⟨a, ha, he⟩)
  refine ⟨l₁, l₂, hsplit, ?_, ?_⟩
  · show q.drainers.map _ = _
    have hkeep : ∀ l : List Drainer, (∀ a ∈ l, a.id ≠ d.id) →
        l.map (fun a => if a.id = d'.id then d' else a) = l := by
      intro l hl
      refine (List.map_congr_left fun a ha => ?_).trans (List.map_id l)
      rw [hid, if_neg (hl a ha)]
      rfl
    rw [hsplit, List.map_append, List.map_cons, if_pos hid.symm, hkeep l₁ h₁, hkeep l₂ h₂]
  · show q.drainers.filter _ = _
    have hkeep : ∀ l : List Drainer, (∀ a ∈ l, a.id ≠ d.id) →
        l.filter (fun a => a.id ≠ d.id) = l :=
      fun l hl => List.filter_eq_self.mpr fun a ha => decide_eq_true (hl a ha)
    rw [hsplit, List.filter_append, List.filter_cons_of_neg (by simp), hkeep l₁ h₁, hkeep l₂ h₂]

/-- Of the drainers only the one put in changes a count. The equation is written without
subtraction, so permits can be reckoned up with it directly. -/
theorem countP_put (hids : (q.drainers.map (·.id)).Nodup) (hd : q.drainer? d.id = some d)
    (hid : d'.id = d.id) (P : Drainer → Bool) :
    (q.put d').drainers.countP P + (if P d then 1 else 0) =
      q.drainers.countP P + (if P d' then 1 else 0) := by
  obtain ⟨l₁, l₂, hsplit, hput, -⟩ := exists_split hids hd hid
  rw [hput, hsplit, List.countP_append, List.countP_append, List.countP_cons, List.countP_cons]
  omega

/-- In an orderly queue whoever is among the drainers is the one that serves its key. -/
theorem serving_of_drainer? (hq : q.Orderly p) (hd : q.drainer? d.id = some d) :
    q.serving d.key = some d := by
  unfold serving
  rw [(hq.registered d.key d.id).mpr ⟨d, hd, rfl⟩]
  exact hd

/-- A drainer is registered under no key but its own, so what is done to it concerns one key. -/
theorem key_of_registered (hq : q.Orderly p) (hd : q.drainer? d.id = some d) {key : ClusterKey}
    (hr : q.registered.find? key = some d.id) : key = d.key := by
  obtain ⟨a, ha, hkey⟩ := (hq.registered key d.id).mp hr
  cases hd.symm.trans ha
  exact hkey.symm

/-- The one that serves a key is found by its number, and it is of that key. -/
theorem drainer?_of_serving (hq : q.Orderly p) {key : ClusterKey} (hs : q.serving key = some d) :
    q.drainer? d.id = some d ∧ d.key = key := by
  obtain ⟨id, hr, hd⟩ := Option.bind_eq_some_iff.mp hs
  obtain ⟨d₁, hd₁, hkey⟩ := (hq.registered key id).mp hr
  rw [hd] at hd₁
  cases hd₁
  rw [drainer?_id hd]
  exact ⟨hd, hkey⟩

/-- What waits for a key is what waits with the one drainer that serves it. -/
theorem pending_of_drainer? (hq : q.Orderly p) (hd : q.drainer? d.id = some d) :
    q.pending d.key = d.pending := by
  unfold pending
  rw [serving_of_drainer? hq hd]
  rfl

/-- A drainer may be put in place of one of the same number and key, if the permits and the line
follow. Every step but those that begin or end a drainer is of this form. -/
theorem Orderly.put (hq : q.Orderly p) (hd : q.drainer? d.id = some d) (d' : Drainer)
    (hid : d'.id = d.id) (hkey : d'.key = d.key) {free : Nat} {line : List Nat}
    (hfree : free + (if d'.stage.hasPermit then 1 else 0) =
      q.free + (if d.stage.hasPermit then 1 else 0))
    (hnd : line.Nodup)
    (hline : ∀ j, j ∈ line ↔ if j = d.id then d'.stage.isWaiting = true else j ∈ q.line) :
    Orderly p { q.put d' with free, line } where
  ids := by
    show ((q.put d').drainers.map _).Nodup
    rw [ids_put]
    exact hq.ids
  below a ha := by
    obtain ⟨b, hb, he⟩ := List.mem_map.mp ha
    have hab : a.id = b.id := by
      rw [← he]
      by_cases hbd : b.id = d'.id
      · rw [if_pos hbd, hbd]
      · rw [if_neg hbd]
    rw [hab]
    exact hq.below b hb
  registered key j := by
    show q.registered.find? key = some j ↔ ∃ a, (q.put d').drainer? j = some a ∧ a.key = key
    rw [hq.registered, drainer?_put hd d' hid]
    by_cases hj : j = d.id
    · rw [if_pos hj, hj, hd]
      constructor
      · rintro ⟨a, ha, hk⟩
        cases ha
        exact ⟨d', rfl, hkey.trans hk⟩
      · rintro ⟨a, ha, hk⟩
        cases ha
        exact ⟨d, rfl, hkey.symm.trans hk⟩
    · rw [if_neg hj]
  inLine := hnd
  line j := by
    show j ∈ line ↔ ∃ a, (q.put d').drainer? j = some a ∧ a.stage.isWaiting = true
    rw [hline, drainer?_put hd d' hid]
    by_cases hj : j = d.id
    · rw [if_pos hj, if_pos hj]
      exact ⟨fun hw => ⟨d', rfl, hw⟩, fun ⟨a, ha, hw⟩ => by cases ha; exact hw⟩
    · rw [if_neg hj, if_neg hj, hq.line]
  permits := by
    -- Of those that hold a permit only the one put in may have changed.
    have hcount := countP_put hq.ids hd hid (·.stage.hasPermit)
    have hsum := hq.permits
    show free + (q.put d').drainers.countP _ = _
    omega

/-- Only the key of the drainer put in is served by another one than before. -/
theorem serving_put (hq : q.Orderly p) (hd : q.drainer? d.id = some d) (d' : Drainer)
    (hid : d'.id = d.id)
    (free : Nat) (line : List Nat) (key : ClusterKey) :
    serving { q.put d' with free, line } key = if key = d.key then some d' else q.serving key := by
  show (q.registered.find? key).bind (q.put d').drainer? = _
  have hreg := (hq.registered d.key d.id).mpr ⟨d, hd, rfl⟩
  by_cases hk : key = d.key
  · rw [if_pos hk, hk, hreg, Option.bind_some, drainer?_put hd d' hid, if_pos rfl]
  · rw [if_neg hk]
    unfold serving
    cases hr : q.registered.find? key with
    | none => rfl
    | some j =>
      rw [Option.bind_some, Option.bind_some, drainer?_put hd d' hid, if_neg]
      rintro rfl
      exact hk (key_of_registered hq hd hr)

theorem pending_put (hq : q.Orderly p) (hd : q.drainer? d.id = some d) (d' : Drainer)
    (hid : d'.id = d.id)
    (free : Nat) (line : List Nat) (key : ClusterKey) :
    pending { q.put d' with free, line } key =
      if key = d.key then d'.pending else q.pending key := by
  unfold pending
  rw [serving_put hq hd d' hid]
  by_cases hk : key = d.key
  · rw [if_pos hk, if_pos hk]
    rfl
  · rw [if_neg hk, if_neg hk]

/-- Nothing starts and nothing is submitted: the drainer put in has what the other had, so what
waits for each key stays. -/
theorem pending_put_same (hq : q.Orderly p) (hd : q.drainer? d.id = some d) (d' : Drainer)
    (hid : d'.id = d.id)
    (hp : d'.pending = d.pending) (free : Nat) (line : List Nat) (key : ClusterKey) :
    pending { q.put d' with free, line } key = q.pending key := by
  rw [pending_put hq hd d' hid]
  by_cases hk : key = d.key
  · rw [if_pos hk, hk, pending_of_drainer? hq hd, hp]
  · rw [if_neg hk]

/-- Only for the key of the drainer put in does something else run. -/
theorem running?_put (hq : q.Orderly p) (hd : q.drainer? d.id = some d) (d' : Drainer)
    (hid : d'.id = d.id)
    (free : Nat) (line : List Nat) (key : ClusterKey) :
    running? { q.put d' with free, line } key =
      if key = d.key then d'.stage.running? else q.running? key := by
  unfold running?
  rw [serving_put hq hd d' hid]
  by_cases hk : key = d.key
  · rw [if_pos hk, if_pos hk]
    rfl
  · rw [if_neg hk, if_neg hk]

theorem running?_of_drainer? (hq : q.Orderly p) (hd : q.drainer? d.id = some d) :
    q.running? d.key = d.stage.running? := by
  unfold running?
  rw [serving_of_drainer? hq hd]
  rfl

theorem Keeps.refl (q : State) : q.Keeps q := ⟨fun _ => rfl, fun _ => rfl⟩

theorem Keeps.trans {q₁ q₂ q₃ : State} (h : q₁.Keeps q₂) (h' : q₂.Keeps q₃) : q₁.Keeps q₃ :=
  ⟨fun key => (h'.pending key).trans (h.pending key),
    fun key => (h'.running key).trans (h.running key)⟩

/-- A drainer that goes on with the same tickets, waiting and running, keeps what there is for every
key. -/
theorem keeps_put (hq : q.Orderly p) (hd : q.drainer? d.id = some d) (d' : Drainer)
    (hid : d'.id = d.id) (hp : d'.pending = d.pending)
    (hr : d'.stage.running? = d.stage.running?) (free : Nat) (line : List Nat) :
    q.Keeps { q.put d' with free, line } := by
  refine ⟨pending_put_same hq hd d' hid hp free line, fun key => ?_⟩
  rw [running?_put hq hd d' hid]
  by_cases hk : key = d.key
  · rw [if_pos hk, hk, running?_of_drainer? hq hd, hr]
  · rw [if_neg hk]

/-- The line stays as it is while nobody begins or ceases to wait. Who stands in it follows from the
stages alone. -/
theorem mem_line_put (hq : q.Orderly p) (hd : q.drainer? d.id = some d) (d' : Drainer)
    (hw : d'.stage.isWaiting = d.stage.isWaiting) (j : Nat) :
    j ∈ q.line ↔ if j = d.id then d'.stage.isWaiting = true else j ∈ q.line := by
  by_cases hj : j = d.id
  · rw [if_pos hj, hj, hq.line, hw]
    refine ⟨fun ⟨a, ha, hwait⟩ => ?_, fun hwait => ⟨d, hd, hwait⟩⟩
    rw [hd] at ha
    cases ha
    exact hwait
  · rw [if_neg hj]

/-! ## A drainer less, a drainer more -/

/-- Of a drainer that has gone nothing is found, and the others are found as before. -/
theorem drainer?_without (q : State) (d : Drainer) (j : Nat) :
    (q.without d).drainer? j = if j = d.id then none else q.drainer? j := by
  refine List.find?_filter.trans ?_
  by_cases hj : j = d.id
  · rw [if_pos hj, List.find?_eq_none]
    intro a _ ha
    simp only [hj, decide_eq_true_eq] at ha
    exact ha.1 ha.2
  · rw [if_neg hj]
    refine congrFun (congrArg List.find? (funext fun a => ?_)) _
    have hiff : (a.id ≠ d.id ∧ a.id = j) ↔ a.id = j :=
      ⟨And.right, fun he => ⟨fun hd => hj (he.symm.trans hd), he⟩⟩
    simpa using hiff

/-- Its key is served by nobody then. -/
theorem serving_without (hq : q.Orderly p) (hd : q.drainer? d.id = some d) (key : ClusterKey) :
    (q.without d).serving key = if key = d.key then none else q.serving key := by
  show ((q.registered.erase d.key).find? key).bind (q.without d).drainer? = _
  rw [SortedMap.find?_erase]
  by_cases hk : key = d.key
  · rw [if_pos hk, if_pos hk]
    rfl
  · rw [if_neg hk, if_neg hk]
    unfold serving
    cases hr : q.registered.find? key with
    | none => rfl
    | some j =>
      rw [Option.bind_some, Option.bind_some, drainer?_without, if_neg]
      rintro rfl
      exact hk (key_of_registered hq hd hr)

/-- A drainer that stops with empty hands holds no permit and stands in no line, so the queue stays
orderly without it. -/
theorem Orderly.without (hq : q.Orderly p) (hd : q.drainer? d.id = some d)
    (hs : d.stage = .emptyHanded) : (q.without d).Orderly p where
  ids := (List.filter_sublist.map _).nodup hq.ids
  below a ha := hq.below a (List.mem_of_mem_filter ha)
  registered key j := by
    show (q.registered.erase d.key).find? key = some j ↔ _
    rw [SortedMap.find?_erase, drainer?_without]
    constructor
    · intro hr
      split at hr
      next => cases hr
      next hk =>
        obtain ⟨a, ha, hak⟩ := (hq.registered key j).mp hr
        refine ⟨a, ?_, hak⟩
        rw [if_neg]
        · exact ha
        · rintro rfl
          exact hk (key_of_registered hq hd hr)
    · rintro ⟨a, ha, hak⟩
      split at ha
      next => cases ha
      next hj =>
        have hr := (hq.registered key j).mpr ⟨a, ha, hak⟩
        rw [if_neg]
        · exact hr
        · rintro rfl
          rw [(hq.registered d.key d.id).mpr ⟨d, hd, rfl⟩] at hr
          exact hj (Option.some.inj hr).symm
  inLine := hq.inLine
  line j := by
    show j ∈ q.line ↔ _
    rw [drainer?_without]
    by_cases hj : j = d.id
    · rw [if_pos hj, hj, hq.line]
      constructor
      · rintro ⟨a, ha, hw⟩
        rw [hd] at ha
        cases ha
        rw [hs] at hw
        cases hw
      · rintro ⟨a, ha, -⟩
        cases ha
    · rw [if_neg hj, hq.line]
  permits := by
    rw [← hq.permits]
    obtain ⟨l₁, l₂, hsplit, -, hwithout⟩ := exists_split hq.ids hd (rfl : d.id = d.id)
    -- the one that goes has no permit
    have hp : ¬ d.stage.hasPermit = true := by rw [hs]; exact Bool.false_ne_true
    refine congrArg (q.free + ·) ?_
    rw [hwithout, hsplit, List.countP_append, List.countP_append, List.countP_cons, if_neg hp,
      Nat.add_zero]

/-- A drainer that goes has nothing left, neither in its hands nor in its channel, so no ticket goes
with it. -/
theorem keeps_without (hq : q.Orderly p) (hd : q.drainer? d.id = some d)
    (hs : d.stage = .emptyHanded) (hc : d.channel = []) : q.Keeps (q.without d) where
  pending key := by
    unfold pending
    rw [serving_without hq hd]
    by_cases hk : key = d.key
    · rw [if_pos hk, hk, serving_of_drainer? hq hd]
      show [] = d.pending
      unfold Drainer.pending
      rw [hs, hc]
      rfl
    · rw [if_neg hk]
  running key := by
    unfold running?
    rw [serving_without hq hd]
    by_cases hk : key = d.key
    · rw [if_pos hk, hk, serving_of_drainer? hq hd, Option.bind_some, hs]
      rfl
    · rw [if_neg hk]

/-- With a new drainer registered under a key. -/
def join (q : State) (key : ClusterKey) (t : Ticket) : State :=
  { q with
    drainers := q.drainers ++ [{ id := q.spawned, key, channel := [t], stage := .idle }]
    registered := q.registered.insert key q.spawned
    spawned := q.spawned + 1 }

/-- The next number is not taken: numbers are given in turn, and those given are below it. -/
theorem drainer?_spawned (hq : q.Orderly p) : q.drainer? q.spawned = none := by
  cases hd : q.drainer? q.spawned with
  | none => rfl
  | some d =>
    have hlt := hq.below d (mem_of_drainer? hd)
    rw [drainer?_id hd] at hlt
    exact absurd hlt (Nat.lt_irrefl _)

/-- No key is registered under a number that is still to be given. -/
theorem not_registered_spawned (hq : q.Orderly p) (key : ClusterKey) :
    q.registered.find? key ≠ some q.spawned := by
  intro hr
  obtain ⟨a, ha, -⟩ := (hq.registered key _).mp hr
  rw [drainer?_spawned hq] at ha
  cases ha

/-- A new drainer is found by its number and all others by theirs. -/
theorem drainer?_join (hq : q.Orderly p) (key : ClusterKey) (t : Ticket) (j : Nat) :
    (q.join key t).drainer? j =
      if j = q.spawned then some { id := q.spawned, key, channel := [t], stage := .idle }
      else q.drainer? j := by
  refine List.find?_append.trans ?_
  by_cases hj : j = q.spawned
  · have hnone := drainer?_spawned hq
    unfold drainer? at hnone
    rw [if_pos hj, hj, hnone, Option.none_or, List.find?_cons, decide_eq_true rfl]
  · rw [if_neg hj, List.find?_cons, decide_eq_false fun h => hj h.symm]
    exact Option.or_none

/-- A new drainer serves the key of the ticket it begins with. -/
theorem serving_join (hq : q.Orderly p) (key : ClusterKey) (t : Ticket) (key' : ClusterKey) :
    (q.join key t).serving key' =
      if key' = key then some { id := q.spawned, key, channel := [t], stage := .idle }
      else q.serving key' := by
  show ((q.registered.insert key q.spawned).find? key').bind (q.join key t).drainer? = _
  rw [SortedMap.find?_insert]
  by_cases hk : key' = key
  · rw [if_pos hk.symm, if_pos hk, Option.bind_some, drainer?_join hq, if_pos rfl]
  · rw [if_neg fun h => hk h.symm, if_neg hk]
    unfold serving
    cases hr' : q.registered.find? key' with
    | none => rfl
    | some j =>
      rw [Option.bind_some, Option.bind_some, drainer?_join hq, if_neg]
      rintro rfl
      exact not_registered_spawned hq key' hr'

/-- A key that nobody serves may be given a new drainer. It begins without a permit and outside the
line. -/
theorem Orderly.join (hq : q.Orderly p) {key : ClusterKey} (hr : q.registered.find? key = none)
    (t : Ticket) : (q.join key t).Orderly p where
  ids := by
    show ((q.drainers ++ [_]).map _).Nodup
    rw [List.map_append]
    refine List.nodup_append'.mpr ⟨hq.ids, List.nodup_singleton _, ?_⟩
    refine List.disjoint_singleton.mpr fun hmem => ?_
    obtain ⟨d, hd, he⟩ := List.mem_map.mp hmem
    have hlt := hq.below d hd
    have he : d.id = q.spawned := he
    omega
  below d hd := by
    show d.id < q.spawned + 1
    rcases List.mem_append.mp hd with hd | hd
    · have hlt := hq.below d hd
      omega
    · rw [List.mem_singleton.mp hd]
      exact Nat.lt_succ_self _
  registered key' j := by
    show (q.registered.insert key q.spawned).find? key' = some j ↔ _
    rw [SortedMap.find?_insert, drainer?_join hq]
    by_cases hj : j = q.spawned
    · rw [if_pos hj, hj]
      constructor
      · intro h
        split at h
        next hk => exact ⟨_, rfl, hk⟩
        next => exact absurd h (not_registered_spawned hq key')
      · rintro ⟨a, ha, hk⟩
        cases ha
        rw [if_pos hk]
    · rw [if_neg hj]
      -- The key had nobody registered, so no old drainer loses its place.
      by_cases hk : key = key'
      · rw [if_pos hk]
        refine ⟨fun h => absurd (Option.some.inj h).symm hj, fun h => ?_⟩
        rw [← (hq.registered key' j), ← hk, hr] at h
        cases h
      · rw [if_neg hk]
        exact hq.registered key' j
  inLine := hq.inLine
  line j := by
    show j ∈ q.line ↔ _
    rw [hq.line, drainer?_join hq]
    by_cases hj : j = q.spawned
    · rw [if_pos hj, hj]
      rw [drainer?_spawned hq]
      constructor
      · rintro ⟨a, ha, -⟩
        cases ha
      · rintro ⟨a, ha, hw⟩
        cases ha
        cases hw
    · rw [if_neg hj]
  permits := by
    rw [← hq.permits]
    exact congrArg (q.free + ·) (List.countP_append.trans rfl)

end State

end RackOperator.WorkQueue
