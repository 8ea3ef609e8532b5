import RackOperator.Naming

/-!
# Spreading replicas over racks

A DataCenter asks for a total. `initialDistribution` spreads it when no rack
exists yet; `planned?` afterwards moves at most one rack by one step toward the
target: up where the fewest replicas are (lowest index on ties), down where the
most are (highest index on ties). Sums are of signed 32-bit numbers; `planned?`
has no answer when one of the partial sums leaves that range.
-/

namespace RackOperator.Layout

/-- Whether a number fits 32 bits with a sign. -/
def fits (i : Int) : Bool := -2147483648 ≤ i && i ≤ 2147483647

/-- A sum on top of a start, if every partial sum fits. -/
def sumFrom? (start : Int) : List Int → Option Int
  | [] => some start
  | i :: rest => if fits (start + i) then sumFrom? (start + i) rest else none

/-- A sum, if every partial sum fits. -/
def sum? (is : List Int) : Option Int := sumFrom? 0 is

/-- Spread replicas over racks; the remainder goes to the first racks. -/
def initialDistribution (replicas : Int) (racks : Nat) : List Int :=
  let total := replicas.toNat
  (List.range racks).map fun i =>
    if i < total % racks then (total / racks : Nat) + 1 else (total / racks : Nat)

/-- As `initialDistribution`; a count of racks that is a positive multiple of 2^32 divides by
zero and has no answer. -/
def initialDistribution? (replicas : Int) (racks : Nat) : Option (List Int) :=
  if racks ≠ 0 ∧ racks % 4294967296 = 0 then none else some (initialDistribution replicas racks)

/-- Whether a rack is to be grown before another. -/
def growsBefore (a b : Rack × Int) : Bool :=
  a.2 < b.2 || (a.2 == b.2 && a.1.index < b.1.index)

/-- The rack to grow: fewest replicas, lowest index on ties, and the first of equals. -/
def rackToGrow? (candidates : List (Rack × Int)) : Option (Rack × Int) :=
  candidates.foldl (fun best c => match best with
    | none => some c
    | some b => if growsBefore c b then some c else some b) none

/-- The rack to shrink: most replicas, highest index on ties, and the last of equals. -/
def rackToShrink? (candidates : List (Rack × Int)) : Option (Rack × Int) :=
  candidates.foldl (fun best c => match best with
    | none => some c
    | some b => if growsBefore c b then some b else some c) none

/-- Replica counts by rack. -/
abbrev Counts := SortedMap Rack Int

/-- The counts wanted next when the existing ones have a given sum. -/
def step (existing : Counts) (total target : Int) : Counts :=
  let wanted := max target 0
  if total < wanted then
    match rackToGrow? existing.entries with
    | some (r, n) => existing.insert r (n + 1)
    | none => existing
  else if wanted < total then
    match rackToShrink? (existing.entries.filter fun p => 0 < p.2) with
    | some (r, n) => existing.insert r (n - 1)
    | none => existing
  else existing

/-- The counts wanted next: the existing ones, one rack moved one step toward the target. -/
def planned? (existing : Counts) (target : Int) : Option Counts :=
  (sum? existing.values).map fun total => step existing total target

end RackOperator.Layout
