import RackOperator.Manifest
import RackOperator.StatusCache

/-!
# What a pass observes

A `RackGroup` pairs a rack's StatefulSet with the one wanted. An `Observation`
is a DataCenter's groups in rack order, each with its mode, its readiness and its
members, and the members' statuses; everything a decision looks at is in it.
-/

namespace RackOperator

/-- A rack's mode, from the counts wanted and existing, the generation its StatefulSet was built
from and the present one; without a recorded generation a rack is never behind. -/
def RackMode.classify (desired existing : Int) (recorded current : Option Int) : RackMode :=
  if existing < desired then .scaleUp
  else if desired < existing then .scaleDown
  else match recorded, current with
    | some r, some c => if r < c then .behind else .normal
    | _, _ => .normal

/-- A rack, its StatefulSet and the one wanted. -/
structure RackGroup where
  rack : Rack
  existing : StatefulSet
  desired : StatefulSet

namespace RackGroup

/-- Replicas the present StatefulSet asks for. -/
def existingReplicas (g : RackGroup) : Int := g.existing.replicas

/-- Replicas wanted. -/
def desiredReplicas (g : RackGroup) : Int := g.desired.replicas

/-- Replicas the present StatefulSet reports. -/
def statusReplicas (g : RackGroup) : Int :=
  (g.existing.status.map fun s => s.replicas.toInt).getD 0

/-- Ready replicas the present StatefulSet reports. -/
def readyReplicas (g : RackGroup) : Int :=
  ((g.existing.status.bind (·.readyReplicas)).map Int32.toInt).getD 0

end RackGroup

/-- One rack as a pass sees it. -/
structure RackView where
  group : RackGroup
  mode : RackMode
  ready : Bool
  members : List Member

/-- A DataCenter as a pass sees it. -/
structure Observation where
  racks : List RackView
  statuses : StatusSnapshot

namespace Observation

/-- Look at one group. -/
def view (naming : Naming) (generation : Option Int) (g : RackGroup) : RackView :=
  { group := g
    mode := .classify g.desiredReplicas g.existingReplicas g.existing.recordedGeneration generation
    ready := g.existing.isReady
    members := naming.members g.rack g.existingReplicas }

/-- Look at every group, in rack order. -/
def ofGroups (naming : Naming) (generation : Option Int) (groups : List RackGroup)
    (statuses : StatusSnapshot) : Observation :=
  { racks := (groups.mergeSort fun a b => decide (¬b.rack < a.rack)).map (view naming generation)
    statuses }

/-- The groups in rack order. -/
def groups (o : Observation) : List RackGroup := o.racks.map (·.group)

/-- The view of a rack. -/
def find? (o : Observation) (r : Rack) : Option RackView := o.racks.find? fun v => v.group.rack = r

/-- The group of a rack. -/
def group? (o : Observation) (r : Rack) : Option RackGroup := (o.find? r).map (·.group)

/-- The mode of a rack. -/
def modeOf? (o : Observation) (r : Rack) : Option RackMode := (o.find? r).map (·.mode)

/-- The racks in a mode, in rack order. -/
def racksIn (o : Observation) (m : RackMode) : List Rack :=
  (o.racks.filter fun v => v.mode = m).map fun v => v.group.rack

/-- The racks of each mode that some rack is in. -/
def racksByMode (o : Observation) : SortedMap RackMode (List Rack) :=
  .grouped (·.mode) (·.group.rack) o.racks

/-- The racks by readiness; a side without racks is left out. -/
def readinessByRack (o : Observation) : SortedMap Bool (List Rack) :=
  .grouped (·.ready) (·.group.rack) o.racks

/-- The racks that are ready, or those that are not, in rack order. -/
def racksReady (o : Observation) (ready : Bool) : List Rack :=
  (o.readinessByRack.find? ready).getD []

/-- Whether a rack has converged. -/
def isReady (o : Observation) (r : Rack) : Bool :=
  o.racks.any fun v => decide (v.group.rack = r) && v.ready

/-- Every member, by rack and then ordinal. -/
def members (o : Observation) : List Member := o.racks.flatMap (·.members)

/-- The members of a rack by ordinal. -/
def membersOf (o : Observation) (r : Rack) : List Member := ((o.find? r).map (·.members)).getD []

/-- A member's status when the pass began. -/
def statusOf (o : Observation) (m : Member) : NodeStatus := o.statuses.statusOf m.name

/-- The names of the members of each status that some member has. -/
def membersByStatus (o : Observation) : SortedMap NodeStatus (List String) :=
  .grouped o.statusOf (·.name) o.members

/-- The members whose status blocks changes of the topology. -/
def movingMembers (o : Observation) : List Member :=
  o.members.filter fun m => (o.statusOf m).isMoving

end Observation

end RackOperator
