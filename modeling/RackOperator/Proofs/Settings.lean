import RackOperator.Proofs.Numerals

/-!
# What the settings come to

A variable is free text, and a field is a number within a range or a name. `Reads` says what is
found in a variable: the number that it says if that is in range, and nothing otherwise. Every field
is what is found in its variable, or else its default (`Reflects`).

Two ranges are wider than what comes of them. A retention is checked in hours and kept in seconds,
so hours that can be read may have no seconds, and then there are no settings at all
(`ofLookup?_eq_none_iff`). And a pause between two rounds of probes may be none, where attempts and
workers start at one. Other than that the settings can be worked with (`settings_of_lookup`).
-/

namespace RackOperator

open Text

namespace Config

/-- What is found in a variable that is to hold a number. -/
inductive Reads (inRange : Nat → Prop) (given : Option String) : Option Nat → Prop
  | said {s : String} {n : Nat} (hs : s ∈ given) (hn : Denotes s n) (hrange : inRange n) :
      Reads inRange given (some n)
  | unsaid (h : ∀ s ∈ given, ∀ n, Denotes s n → ¬inRange n) : Reads inRange given none

namespace Reads

variable {inRange inRange' : Nat → Prop} {given : Option String} {read : String → Option Nat}

/-- What a reader of the range makes of the variable: the number it says, if there is one in the
range, and nothing otherwise. -/
theorem bind (hread : ∀ s n, read s = some n ↔ Denotes s n ∧ inRange n) (given : Option String) :
    Reads inRange given (given.bind read) := by
  cases hgiven : given.bind read with
  | none =>
    refine .unsaid fun s hs n hn hrange => ?_
    obtain rfl := Option.mem_def.mp hs
    rw [Option.bind_some, (hread s n).mpr ⟨hn, hrange⟩] at hgiven
    cases hgiven
  | some n =>
    obtain ⟨s, hs, hn⟩ := Option.bind_eq_some_iff.mp hgiven
    exact .said hs ((hread s n).mp hn).1 ((hread s n).mp hn).2

theorem inRange_of_some {n : Nat} (h : Reads inRange given (some n)) : inRange n := by
  cases h with
  | said _ _ hrange => exact hrange

/-- Where nothing is in a range, nothing is in a narrower one. -/
theorem narrow (h : Reads inRange given none) (hsub : ∀ n, inRange' n → inRange n) :
    Reads inRange' given none := by
  cases h with
  | unsaid hnone => exact .unsaid fun s hs n hn hrange => hnone s hs n hn (hsub n hrange)

/-- A number is read of a variable exactly if the variable says it and it is in range. -/
theorem some_iff {n : Nat} {r : Option Nat} (h : Reads inRange given r) :
    r = some n ↔ ∃ s ∈ given, Denotes s n ∧ inRange n := by
  constructor
  · rintro rfl
    cases h with
    | said hs hn hrange => exact ⟨_, hs, hn, hrange⟩
  · rintro ⟨s, hs, hn, hrange⟩
    cases h with
    | said hs' hn' _ =>
      obtain rfl := Option.mem_unique hs hs'
      rw [hn'.unique hn]
    | unsaid hnone => exact absurd hrange (hnone s hs n hn)

end Reads

variable {lookup : String → Option String} {c : Config}

/-! ## Fields -/

/-- A field that takes a number as it stands in a variable, and the reader that takes it. -/
structure Setting where
  key : String
  inRange : Nat → Prop
  read : String → Option Nat
  /-- The reader takes the numbers of the range. -/
  reads : ∀ s n, read s = some n ↔ Denotes s n ∧ inRange n
  field : Config → Nat

namespace Setting

/-- A length of time, none included. -/
def seconds (key : String) (field : Config → Nat) : Setting where
  key
  inRange n := n ≤ greatest64
  read := number? greatest64
  reads _ _ := number?_eq_some_iff
  field

/-- A number of things, of which there has to be one at least. -/
def count (greatest : Nat) (key : String) (field : Config → Nat) : Setting where
  key
  inRange n := n ≤ greatest ∧ 1 ≤ n
  read := positive? greatest
  reads _ _ := positive?_eq_some_iff
  field

/-- What the field is: the number read, or else the default. -/
def value (x : Setting) (lookup : String → Option String) : Nat :=
  ((lookup x.key).bind x.read).getD (x.field {})

/-- The field holds what its variable says if that is in range, and its default otherwise. -/
def Holds (x : Setting) (lookup : String → Option String) (c : Config) : Prop :=
  ∃ r, Reads x.inRange (lookup x.key) r ∧ x.field c = r.getD (x.field {})

theorem holds_of_eq {x : Setting} (h : x.field c = x.value lookup) : x.Holds lookup c :=
  ⟨_, .bind x.reads (lookup x.key), h⟩

/-- A default in range keeps the field in range, whatever the variable says. -/
theorem Holds.inRange {x : Setting} (h : x.Holds lookup c) (hdefault : x.inRange (x.field {})) :
    x.inRange (x.field c) := by
  obtain ⟨r, hr, hfield⟩ := h
  rw [hfield]
  cases r with
  | none => exact hdefault
  | some n => exact hr.inRange_of_some

end Setting

/-- The pause between two rounds of probes. -/
def polling : Setting := .seconds "OPERATOR_NODE_STATUS_POLL_SECS" (·.pollInterval)

/-- How often a decommission is asked for. -/
def attempts : Setting :=
  .count 4294967295 "OPERATOR_DECOMMISSION_MAX_ATTEMPTS" (·.decommissionMaxAttempts)

/-- How many units of work may be under way. -/
def workers : Setting := .count greatest64 "OPERATOR_WORKER_POOL_SIZE" (·.workerPoolSize)

/-- The fields that take a number. -/
def settings : List Setting :=
  [polling, attempts, workers,
    .seconds "OPERATOR_SIDECAR_TIMEOUT_SECS" (·.sidecarTimeout),
    .seconds "OPERATOR_DECOMMISSION_RETRY_DELAY_SECS" (·.decommissionRetryDelay),
    .seconds "OPERATOR_CLEANUP_PACING_SECS" (·.cleanupPacing),
    .seconds "OPERATOR_REQUEUE_SECS" (·.requeueInterval)]

/-- The hours whose seconds can be kept. -/
def inHours (n : Nat) : Prop := n * 3600 ≤ greatest64

/-- Every field is what its variable says if that is in range, and its default otherwise. -/
structure Reflects (c : Config) (lookup : String → Option String) : Prop where
  numbers : ∀ x ∈ settings, x.Holds lookup c
  retention : ∃ r, Reads inHours (lookup "OPERATOR_TASK_RETENTION_HOURS") r ∧
    c.taskRetention = (r.map (· * 3600)).getD ({} : Config).taskRetention
  watched : ∀ t, c.watched = some t ↔ t ≠ "" ∧ ∃ s ∈ lookup "OPERATOR_NAMESPACE", Trims s t

/-! ## Settings -/

/-- There are no settings if the hours that are read are too many, and otherwise each field is what
is read into it. -/
theorem ofLookup?_cases (lookup : String → Option String) :
    (ofLookup? lookup = none ∧ ∃ n,
        (lookup "OPERATOR_TASK_RETENTION_HOURS").bind (number? greatest64) = some n ∧
          ¬inHours n) ∨
      ∃ c, ofLookup? lookup = some c ∧ (∀ x ∈ settings, x.field c = x.value lookup) ∧
        c.watched = ((lookup "OPERATOR_NAMESPACE").map trim).filter (fun s => s ≠ "") ∧
          ∃ r, (lookup "OPERATOR_TASK_RETENTION_HOURS").bind (number? greatest64) = r ∧
            (∀ n ∈ r, inHours n) ∧
              c.taskRetention = (r.map (· * 3600)).getD ({} : Config).taskRetention := by
  unfold ofLookup?
  cases (lookup "OPERATOR_TASK_RETENTION_HOURS").bind (number? greatest64) with
  | none =>
    refine .inr ⟨_, rfl, ?_, rfl, none, rfl, fun _ h => (nomatch h), rfl⟩
    simp only [settings, List.forall_mem_cons]
    exact ⟨rfl, rfl, rfl, rfl, rfl, rfl, rfl, fun _ h => nomatch h⟩
  | some hours =>
    -- The seconds of the hours are the one number that is computed and not read.
    by_cases hfits : hours * 3600 ≤ greatest64
    · simp only [if_pos hfits]
      refine .inr ⟨_, rfl, ?_, rfl, some hours, rfl, ?_, rfl⟩
      · simp only [settings, List.forall_mem_cons]
        exact ⟨rfl, rfl, rfl, rfl, rfl, rfl, rfl, fun _ h => nomatch h⟩
      · rintro n hn
        obtain rfl := Option.some.inj hn
        exact hfits
    · simp only [if_neg hfits]
      exact .inl ⟨rfl, hours, rfl, hfits⟩

/-- Hours that can be kept can be read, so the two bounds do not get in each other's way. -/
theorem le_greatest64_of_inHours {n : Nat} (h : inHours n) : n ≤ greatest64 :=
  (Nat.le_mul_of_pos_right n (by decide)).trans h

theorem reads_hours (lookup : String → Option String) :
    Reads (· ≤ greatest64) (lookup "OPERATOR_TASK_RETENTION_HOURS")
      ((lookup "OPERATOR_TASK_RETENTION_HOURS").bind (number? greatest64)) :=
  .bind (fun _ _ => number?_eq_some_iff) _

/-- Making the settings fails exactly on hours that can be read and whose seconds are too many. -/
theorem ofLookup?_eq_none_iff :
    ofLookup? lookup = none ↔ ∃ s ∈ lookup "OPERATOR_TASK_RETENTION_HOURS", ∃ n,
      Denotes s n ∧ n ≤ greatest64 ∧ greatest64 < n * 3600 := by
  constructor
  · intro h
    rcases ofLookup?_cases lookup with ⟨-, n, hn, hlost⟩ | ⟨c, hc, -⟩
    · obtain ⟨s, hs, hsays, hrange⟩ := (reads_hours lookup).some_iff.mp hn
      exact ⟨s, hs, n, hsays, hrange, Nat.lt_of_not_le hlost⟩
    · rw [h] at hc
      cases hc
  · rintro ⟨s, hs, n, hsays, hrange, hlost⟩
    have hn := (reads_hours lookup).some_iff.mpr ⟨s, hs, hsays, hrange⟩
    rcases ofLookup?_cases lookup with ⟨hnone, -⟩ | ⟨c, -, -, -, r, hr, hfits, -⟩
    · exact hnone
    · exact absurd (hfits n (hr.symm.trans hn)) (Nat.not_le_of_lt hlost)

/-- Settings that are made say what the variables say, field by field. -/
theorem reflects_of_ofLookup? (h : ofLookup? lookup = some c) : c.Reflects lookup := by
  rcases ofLookup?_cases lookup with ⟨hnone, -⟩ | ⟨c', hc, hnumbers, hwatched, r, hr, hfits, hkept⟩
  · rw [h] at hnone
    cases hnone
  · obtain rfl := Option.some.inj (hc.symm.trans h)
    refine ⟨fun x hx => x.holds_of_eq (hnumbers x hx), ⟨r, ?_, hkept⟩, fun t => ?_⟩
    · have hread := reads_hours lookup
      rw [hr] at hread
      cases hread with
      | said hs hn _ => exact .said hs hn (hfits _ rfl)
      | unsaid hnone => exact (Reads.unsaid hnone).narrow fun _ => le_greatest64_of_inHours
    · rw [hwatched, Option.filter_eq_some_iff, Option.map_eq_some_iff, decide_eq_true_iff, and_comm]
      simp only [trim_eq_iff, Option.mem_def]

/-- Settings that can be worked with: a decommission is asked for, work is done, and there is a
pause between two rounds of probes. -/
structure Usable (c : Config) : Prop where
  attempts : 1 ≤ c.decommissionMaxAttempts
  workers : 1 ≤ c.workerPoolSize
  polling : 0 < c.pollInterval

/-- There is always an attempt to have a member leave, as its number is read as a positive one. -/
theorem Reflects.attempts_pos (h : c.Reflects lookup) : 1 ≤ c.decommissionMaxAttempts :=
  ((h.numbers attempts (by simp [settings])).inRange ⟨by decide, by decide⟩).2

theorem Reflects.workers_pos (h : c.Reflects lookup) : 1 ≤ c.workerPoolSize :=
  ((h.numbers workers (by simp [settings])).inRange ⟨by decide, by decide⟩).2

/-- There is no pause between two rounds of probes just where none is asked for. -/
theorem Reflects.pollInterval_eq_zero_iff (h : c.Reflects lookup) :
    c.pollInterval = 0 ↔ ∃ s ∈ lookup "OPERATOR_NODE_STATUS_POLL_SECS", Denotes s 0 := by
  obtain ⟨r, hr, hfield⟩ := h.numbers polling (by simp [settings])
  change c.pollInterval = r.getD 10 at hfield
  constructor
  · intro hzero
    have hsome : r = some 0 := by
      cases r with
      | none => exact absurd (hfield.symm.trans hzero) (by decide)
      | some n => rw [← hzero, hfield]; rfl
    obtain ⟨s, hs, hn, -⟩ := hr.some_iff.mp hsome
    exact ⟨s, hs, hn⟩
  · rintro ⟨s, hs, hn⟩
    rw [hfield, hr.some_iff.mpr ⟨s, hs, hn, Nat.zero_le _⟩]
    rfl

/-- The policy made of the settings allows the attempts that they say, with the pause in
milliseconds. -/
theorem Reflects.decommissionRetry_eq (h : c.Reflects lookup) :
    c.decommissionRetry = ⟨c.decommissionMaxAttempts, c.decommissionRetryDelay * 1000⟩ := by
  show RetryPolicy.mk (max _ 1) _ = _
  rw [Nat.max_eq_left h.attempts_pos]

/-- Settings can be worked with unless the pause between rounds is said to be none. -/
theorem Reflects.usable_iff (h : c.Reflects lookup) :
    c.Usable ↔ ∀ s ∈ lookup "OPERATOR_NODE_STATUS_POLL_SECS", ¬Denotes s 0 := by
  have hzero := h.pollInterval_eq_zero_iff
  constructor
  · intro husable s hs hn
    exact Nat.ne_of_gt husable.polling (hzero.mpr ⟨s, hs, hn⟩)
  · intro hnever
    refine ⟨h.attempts_pos, h.workers_pos, Nat.pos_of_ne_zero fun h0 => ?_⟩
    obtain ⟨s, hs, hn⟩ := hzero.mp h0
    exact hnever s hs hn

/-- **What any variables come to.** There are no settings exactly if the hours of retention fit, and
their seconds do not. Settings that are made hold in every field what its variable says, or the
default, and allow an attempt and a worker; they can be worked with unless the pause between rounds
of probes is said to be none. -/
theorem settings_of_lookup (lookup : String → Option String) :
    (ofLookup? lookup = none ↔ ∃ s ∈ lookup "OPERATOR_TASK_RETENTION_HOURS", ∃ n,
        Denotes s n ∧ n ≤ greatest64 ∧ greatest64 < n * 3600) ∧
      ∀ c, ofLookup? lookup = some c →
        c.Reflects lookup ∧ 1 ≤ c.decommissionMaxAttempts ∧ 1 ≤ c.workerPoolSize ∧
          c.decommissionRetry = ⟨c.decommissionMaxAttempts, c.decommissionRetryDelay * 1000⟩ ∧
            (c.Usable ↔ ∀ s ∈ lookup "OPERATOR_NODE_STATUS_POLL_SECS", ¬Denotes s 0) := by
  refine ⟨ofLookup?_eq_none_iff, fun c h => ?_⟩
  have hc := reflects_of_ofLookup? h
  exact ⟨hc, hc.attempts_pos, hc.workers_pos, hc.decommissionRetry_eq, hc.usable_iff⟩

/-- One variable with a value, and no others. -/
def alone (key value : String) : String → Option String := fun k =>
  if k = key then some value else none

/-- Hours whose seconds are just too many leave no settings, and no pause is taken as it is said. -/
theorem not_always_usable :
    ofLookup? (alone "OPERATOR_TASK_RETENTION_HOURS" "5124095576030432") = none ∧
      ∃ c, ofLookup? (alone "OPERATOR_NODE_STATUS_POLL_SECS" "0") = some c ∧ ¬c.Usable :=
  ⟨by decide +kernel, { pollInterval := 0 }, by decide +kernel,
    fun h => absurd h.polling (by decide)⟩

end Config

end RackOperator
