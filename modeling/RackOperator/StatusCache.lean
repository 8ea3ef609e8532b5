import RackOperator.Resource.DataCenter

/-!
# Node statuses and registered members

The cache holds the last status each member's sidecar reported; only the poller
and the outside write it. A pass works on a `StatusSnapshot` copied when it
starts, so that it never mixes older and newer observations. The registry says
which members the poller asks, by DataCenter.
-/

namespace RackOperator

/-- The last known status of each member. -/
abbrev StatusCache := SortedMap MemberKey NodeStatus

/-- The statuses one pass works with, by pod name. -/
structure StatusSnapshot where
  statuses : SortedMap String NodeStatus
deriving DecidableEq

namespace StatusSnapshot

/-- A snapshot of given statuses. -/
def ofList (pairs : List (String × NodeStatus)) : StatusSnapshot := ⟨SortedMap.ofList pairs⟩

/-- A pod's status, UNKNOWN when it was never observed. -/
def statusOf (s : StatusSnapshot) (pod : String) : NodeStatus :=
  (s.statuses.find? pod).getD .unknown

end StatusSnapshot

namespace StatusCache

/-- The statuses of some members, those never observed left out. -/
def snapshot (c : StatusCache) (members : List Member) : StatusSnapshot :=
  .ofList (members.filterMap fun m => (c.find? m.key).map fun s => (m.name, s))

/-- Forget every member but the given ones. -/
def retain (c : StatusCache) (keep : List MemberKey) : StatusCache :=
  c.filterKeys fun k => keep.contains k

end StatusCache

/-- The members of each DataCenter that are polled. -/
abbrev Registry := SortedMap ClusterKey (List Member)

namespace Registry

/-- The members registered under a key. -/
def membersOf (r : Registry) (k : ClusterKey) : List Member := (r.find? k).getD []

/-- Every registered member with the key it is registered under. -/
def pairs (r : Registry) : List (ClusterKey × Member) :=
  r.entries.flatMap fun p => p.2.map fun m => (p.1, m)

/-- The keys of all registered members. -/
def memberKeys (r : Registry) : List MemberKey := r.pairs.map fun p => p.2.key

end Registry

end RackOperator
