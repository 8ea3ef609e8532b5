/-!
# Bounded retries

A `RetryPolicy` allows a number of attempts, at least one, with a fixed delay
between two of them. `RetryPolicy.run` makes attempts until one succeeds or they
are used up, and answers what the last one made answered.
-/

namespace RackOperator

/-- How often to try, and how long to wait between two attempts (in milliseconds). -/
structure RetryPolicy where
  maxAttempts : Nat
  delay : Nat
deriving DecidableEq, Repr

namespace RetryPolicy

/-- A policy of at least one attempt. -/
def new (maxAttempts delay : Nat) : RetryPolicy := ⟨max maxAttempts 1, delay⟩

/-- Five attempts, two seconds apart. -/
def standard : RetryPolicy := ⟨5, 2000⟩

/-- Try once, and again after each failure, a number of times more. -/
def attempts {m : Type → Type} [Monad m] {ε α : Type} (pause : m Unit) (attempt : m (Except ε α)) :
    Nat → m (Except ε α)
  | 0 => attempt
  | more + 1 => do
    match ← attempt with
    | .ok a => return .ok a
    | .error _ =>
      pause
      attempts pause attempt more

/-- Try until an attempt succeeds or all are used up. -/
def run {m : Type → Type} [Monad m] {ε α : Type} (p : RetryPolicy) (sleep : Nat → m Unit)
    (attempt : m (Except ε α)) : m (Except ε α) :=
  attempts (sleep p.delay) attempt (max p.maxAttempts 1 - 1)

end RetryPolicy

end RackOperator
