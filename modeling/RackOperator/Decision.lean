import RackOperator.Layout
import RackOperator.Observation

/-!
# Deciding the step of a pass

`Decision.decide` picks at most one change. In this order: racks scaling in both
directions, or more than one in a direction, are inconsistent; racks that have
not converged are waited for; members in a moving status are waited for; then a
rack that is behind is rolled, a rack is grown by one, a rack is shrunk by one
once its last member is decommissioned, or everything has converged.
-/

namespace RackOperator

/-- The one step chosen for a pass. -/
inductive Decision where
  | inconsistent (reason : String)
  | waitForRacks (racks : List Rack)
  | waitForMembers (members : List String)
  | updateRack (rack : Rack)
  | scaleUp (rack : Rack) (replicas : Int)
  | decommission (rack : Rack) (member : Member)
  | scaleDown (rack : Rack) (replicas : Int) (member : Member)
  | waitForDecommission (rack : Rack) (member : Member) (status : NodeStatus)
  | converged (triggerCleanup : Bool)
deriving DecidableEq

namespace Decision

/-- The phase a DataCenter is in after the decision; waiting keeps the previous one. -/
def phase (d : Decision) (previous : DataCenterPhase) : DataCenterPhase :=
  match d with
  | inconsistent _ => .error
  | waitForRacks _ => previous
  | waitForMembers _ => previous
  | updateRack _ => .updating
  | scaleUp .. => .scalingUp
  | decommission .. => .scalingDown
  | scaleDown .. => .scalingDown
  | waitForDecommission .. => .scalingDown
  | converged _ => .running

/-- Whether the decision writes a StatefulSet. -/
def writesStatefulSet : Decision → Bool
  | updateRack _ => true
  | scaleUp .. => true
  | scaleDown .. => true
  | _ => false

/-- Rack names with commas between them. -/
def listed (racks : List Rack) : String := String.intercalate ", " (racks.map (·.name))

/-- Whether a cleanup is due when everything has converged: after shrinking always, after growing
unless one node is all that is wanted. -/
def cleanupDue (previous : DataCenterPhase) (desiredSize : Int) : Bool :=
  match previous with
  | .scalingDown => true
  | .scalingUp => decide (1 < desiredSize)
  | _ => false

/-- Racks with the counts their StatefulSets ask for. -/
def candidates (o : Observation) (racks : List Rack) : List (Rack × Int) :=
  racks.filterMap fun r => (o.group? r).map fun g => (r, g.existingReplicas)

/-- Shrink a rack: its last member leaves the ring first. -/
def shrink (o : Observation) (r : Rack) (existing : Int) : Decision :=
  let replicas := max (existing - 1) 0
  match (o.membersOf r).find? fun m => m.ordinal = replicas with
  | none =>
    .inconsistent ("rack " ++ r.name ++ " has no member with ordinal "
      ++ Text.Decimal.text replicas)
  | some m =>
    match o.statusOf m with
    | .normal => .decommission r m
    | .decommissioned => .scaleDown r replicas m
    | status => .waitForDecommission r m status

/-- The step when nothing is inconsistent or to be waited for. -/
def proceed (o : Observation) (up down : List Rack) (previous : DataCenterPhase)
    (desiredSize : Int) : Decision :=
  match o.racksIn .behind with
  | r :: _ => .updateRack r
  | [] =>
    match Layout.rackToGrow? (candidates o up) with
    | some (r, n) => .scaleUp r (n + 1)
    | none =>
      match Layout.rackToShrink? (candidates o down) with
      | some (r, n) => shrink o r n
      | none => .converged (cleanupDue previous desiredSize)

/-- The step of a pass, given the phase stored last and the total wanted. -/
def decide (o : Observation) (previous : DataCenterPhase) (desiredSize : Int) : Decision :=
  let up := o.racksIn .scaleUp
  let down := o.racksIn .scaleDown
  if !up.isEmpty && !down.isEmpty then
    .inconsistent ("racks " ++ listed up ++ " scale up while racks " ++ listed down
      ++ " scale down")
  else if 1 < up.length then .inconsistent ("more than one rack scales up: " ++ listed up)
  else if 1 < down.length then .inconsistent ("more than one rack scales down: " ++ listed down)
  else
    let unready := o.racksReady false
    if !unready.isEmpty then .waitForRacks unready
    else
      let moving := o.movingMembers
      if !moving.isEmpty then .waitForMembers (moving.map (·.name))
      else proceed o up down previous desiredSize

end Decision

end RackOperator
