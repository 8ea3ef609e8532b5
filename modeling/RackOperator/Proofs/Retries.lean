import RackOperator.Retry
import Mathlib.Algebra.Group.Nat.Defs
import Mathlib.Control.Lawful
import Mathlib.Order.Bounds.Defs
import Mathlib.Data.Set.Insert

/-!
# When retrying stops

`RetryPolicy.attempts` counts the attempts that are left. The loop it stands for counts the
attempts made, in 32 bits, and compares the count with the bound after each failure; written
so it is `RetryPolicy.counted`, which has no result once the count does not fit. The two
come to the same in every monad (`counted_eq_attempts`): the count is stopped by a bound
that fits, so it does too.

What is done is read off a journal (`Event`) against outcomes that are given in advance
(`answered`). `attempts_journal` follows the attempts by induction on how many are left,
and `run_stops` says where they stop: at the first success or at the bound, whichever is
first, with one pause between each attempt and the next.
-/

namespace RackOperator

namespace RetryPolicy

/-- The number after one that has room for it. -/
theorem toNat_succ {made : UInt32} (room : made.toNat + 1 < 2 ^ 32) :
    (made + 1).toNat = made.toNat + 1 := by
  rw [UInt32.toNat_add, UInt32.toNat_one, Nat.mod_eq_of_lt room]

theorem toNat_max (a b : UInt32) : (max a b).toNat = max a.toNat b.toNat := by
  rw [show max a b = if a ≤ b then b else a from rfl, Nat.max_def]
  simp only [UInt32.le_iff_toNat_le]
  split <;> rfl

section Counted

variable {m : Type → Type} [Monad m] {ε α : Type}

/-- The retry loop with the attempts made counted in 32 bits: nothing once the number of the
next one does not fit, and after a failure an end as soon as the count is at the bound. -/
def counted (bound : UInt32) (pause : m Unit) (attempt : m (Except ε α)) (made : UInt32) :
    m (Option (Except ε α)) :=
  if _room : made.toNat + 1 < 2 ^ 32 then do
    match ← attempt with
    | .ok a => return some (.ok a)
    | .error e =>
      if bound ≤ made + 1 then
        return some (.error e)
      else
        pause
        counted bound pause attempt (made + 1)
  else
    return none
termination_by 2 ^ 32 - made.toNat
decreasing_by
  rw [toNat_succ _room]
  omega

/-- A loop short of its bound makes the attempts left up to it, and never runs out of numbers. The
counter is of 32 bits and so is the bound, which is what keeps the counter from overflowing. -/
theorem counted_eq_attempts [LawfulMonad m] (bound : UInt32) (pause : m Unit)
    (attempt : m (Except ε α)) (more : Nat) :
    ∀ made : UInt32, made.toNat + more + 1 = bound.toNat →
      counted bound pause attempt made = some <$> attempts pause attempt more := by
  induction more with
  | zero =>
    intro made hmade
    have room : made.toNat + 1 < 2 ^ 32 := by have := bound.toNat_lt; omega
    -- The counter reaches the bound with this attempt, and has room for that.
    have hlast : bound ≤ made + 1 := by
      rw [UInt32.le_iff_toNat_le, toNat_succ room]
      omega
    rw [counted, dif_pos room, attempts, map_eq_pure_bind]
    refine bind_congr fun outcome => ?_
    cases outcome with
    | ok a => rfl
    | error e => exact if_pos hlast
  | succ more ih =>
    intro made hmade
    have room : made.toNat + 1 < 2 ^ 32 := by have := bound.toNat_lt; omega
    have hmore : ¬ bound ≤ made + 1 := by
      rw [UInt32.le_iff_toNat_le, toNat_succ room]
      omega
    have hnext : (made + 1).toNat + more + 1 = bound.toNat := by
      rw [toNat_succ room]
      omega
    rw [counted, dif_pos room, attempts, map_bind]
    refine bind_congr fun outcome => ?_
    cases outcome with
    | ok a => exact (map_pure some (Except.ok a)).symm
    | error e => simp only [if_neg hmore, ih (made + 1) hnext, map_bind]

/-- The loop under a policy of 32 bits, from no attempt made, is `run`. -/
theorem counted_eq_run [LawfulMonad m] (bound : UInt32) (delay : Nat) (sleep : Nat → m Unit)
    (attempt : m (Except ε α)) :
    counted (max bound 1) (sleep delay) attempt 0 =
      some <$> run ⟨bound.toNat, delay⟩ sleep attempt := by
  refine counted_eq_attempts _ _ _ _ 0 ?_
  simp only [toNat_max, UInt32.toNat_zero, UInt32.toNat_one]
  omega

/-- A policy made with its bound put up to one runs as one built with the bound itself. -/
theorem run_new (maxAttempts delay : Nat) (sleep : Nat → m Unit) (attempt : m (Except ε α)) :
    run (.new maxAttempts delay) sleep attempt = run ⟨maxAttempts, delay⟩ sleep attempt := by
  simp only [run, new, Nat.max_assoc, Nat.max_self]

end Counted

/-! ## A journal of attempts and pauses -/

/-- What is done in the course of a run. -/
inductive Event where
  | tried
  /-- Waited for a number of milliseconds. -/
  | slept (ms : Nat)
deriving DecidableEq, Repr

/-- Put an event on the journal. -/
def note (e : Event) : StateM (List Event) Unit := modify (· ++ [e])

variable {ε α : Type}

/-- An attempt that answers as laid down for its number, and is noted. -/
def answered (outcomes : Nat → Except ε α) : StateM (List Event) (Except ε α) := do
  let made := (← get).count .tried
  note .tried
  return outcomes made

/-- Attempts one after the other, a number of them behind the first, each behind a pause. -/
def paced (delay : Nat) (more : Nat) : List Event :=
  .tried :: (List.replicate more [Event.slept delay, .tried]).flatten

/-- One attempt on the journal: a success ends the run, a failure leads on behind a pause. -/
theorem attempts_succ_journal (delay more : Nat) (outcomes : Nat → Except ε α)
    (journal : List Event) :
    (attempts (note (.slept delay)) (answered outcomes) (more + 1)).run journal =
      match outcomes (journal.count .tried) with
      | .ok a => (.ok a, journal ++ [.tried])
      | .error _ =>
        (attempts (note (.slept delay)) (answered outcomes) more).run
          (journal ++ [.tried, .slept delay]) := by
  cases h : outcomes (journal.count .tried) with
  | ok a =>
    simp [attempts, answered, note, h]
    rfl
  | error e => simp [attempts, answered, note, h]

theorem paced_succ (delay more : Nat) :
    paced delay (more + 1) = [.tried, .slept delay] ++ paced delay more := by
  simp [paced, List.replicate_succ]

/-- One pause fewer than attempts. -/
theorem count_paced (delay more : Nat) :
    (paced delay more).count .tried = more + 1 ∧
      (paced delay more).count (.slept delay) = more := by
  induction more with
  | zero => simp [paced]
  | succ more ih => simp [paced_succ, ih]

/-- Attempts stop at one of the next outcomes: none before it is a success, and it is one
itself unless it belongs to the last attempt allowed. -/
theorem attempts_journal (delay : Nat) (outcomes : Nat → Except ε α) (more : Nat) :
    ∀ journal : List Event, ∃ n ≤ more,
      (attempts (note (.slept delay)) (answered outcomes) more).run journal =
        (outcomes (journal.count .tried + n), journal ++ paced delay n) ∧
      (∀ i < n, ¬ (outcomes (journal.count .tried + i)).isOk) ∧
      ((outcomes (journal.count .tried + n)).isOk ∨ n = more) := by
  -- On the attempts that are left, from any journal: how many were made before is counted off it.
  induction more with
  | zero =>
    intro journal
    exact ⟨0, le_refl 0, rfl, fun i hi => absurd hi (Nat.not_lt_zero i), .inr rfl⟩
  | succ more ih =>
    intro journal
    cases hfirst : outcomes (journal.count .tried) with
    | ok a =>
      refine ⟨0, Nat.zero_le _, ?_, fun i hi => absurd hi (Nat.not_lt_zero i), .inl ?_⟩
      · rw [attempts_succ_journal, Nat.add_zero, hfirst]
        rfl
      · rw [Nat.add_zero, hfirst]
        rfl
    | error e =>
      obtain ⟨n, hn, hrun, hbefore, hstop⟩ := ih (journal ++ [.tried, .slept delay])
      have hcount : (journal ++ [Event.tried, .slept delay]).count .tried =
          journal.count .tried + 1 := by
        simp [List.count_append]
      -- The first outcome has been a failure, so the next ones are counted from there.
      have hshift : ∀ i, journal.count .tried + 1 + i = journal.count .tried + (i + 1) := by omega
      simp only [hcount, hshift] at hrun hbefore hstop
      refine ⟨n + 1, Nat.succ_le_succ hn, ?_, fun i hi => ?_, hstop.imp_right (congrArg (· + 1))⟩
      · rw [attempts_succ_journal, hfirst, paced_succ, ← List.append_assoc]
        exact hrun
      · cases i with
        | zero =>
          rw [Nat.add_zero, hfirst]
          exact Bool.false_ne_true
        | succ i => exact hbefore i (Nat.lt_of_succ_lt_succ hi)

/-- **Where retrying stops.** Whatever the attempts answer, under any bound of 32 bits, 0
and the largest among them, a run makes a number of attempts that is the least of the bound
(put up to one) and the number of the first success. It answers what the last attempt
answered, its journal is an attempt and then, for each one more, a pause of the delay and
the attempt (so one pause fewer than attempts), and a count of the attempts in 32 bits never
overflows on the way. -/
theorem run_stops (bound : UInt32) (delay : Nat) (outcomes : Nat → Except ε α) :
    ∃ k, IsLeast (insert (max bound.toNat 1) {k | ∃ i, k = i + 1 ∧ (outcomes i).isOk}) k ∧
      (∀ p ∈ [⟨bound.toNat, delay⟩, RetryPolicy.new bound.toNat delay],
        (p.run (note ∘ .slept) (answered outcomes)).run [] =
          (outcomes (k - 1), paced delay (k - 1))) ∧
      (counted (max bound 1) (note (.slept delay)) (answered outcomes) 0).run [] =
        (some (outcomes (k - 1)), paced delay (k - 1)) ∧
      (paced delay (k - 1)).count .tried = k ∧
      (paced delay (k - 1)).count (.slept delay) = k - 1 := by
  obtain ⟨n, hn, hrun, hbefore, hstop⟩ :=
    attempts_journal delay outcomes (max bound.toNat 1 - 1) []
  simp only [List.count_nil, Nat.zero_add, List.nil_append] at hrun hbefore hstop
  have hbuilt : (run ⟨bound.toNat, delay⟩ (note ∘ .slept) (answered outcomes)).run [] =
      (outcomes n, paced delay n) := hrun
  -- `n` counts the attempts before the last one, `n + 1` the attempts.
  refine ⟨n + 1, ⟨?_, ?_⟩, ?_, ?_, count_paced delay n⟩
  · refine hstop.elim (fun hok => .inr ⟨n, rfl, hok⟩) fun hlast => .inl ?_
    omega
  · rintro k (rfl | ⟨i, rfl, hok⟩)
    · omega
    · exact Nat.succ_le_succ (Nat.le_of_not_lt fun hlt => hbefore i hlt hok)
  · simpa [run_new] using hbuilt
  · have hcounted := counted_eq_run bound delay (note ∘ .slept) (answered outcomes)
    rw [Function.comp_apply] at hcounted
    rw [hcounted, StateT.run_map, hbuilt]
    rfl

end RetryPolicy

end RackOperator
