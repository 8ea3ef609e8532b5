import RackOperator.Decision

/-!
# The status a pass stores

A pass starts from the status stored before it, recomputes what it observed
(`observed?`), sets the phase and records or drops an error, and stores the
result once. Sums are of signed 32-bit numbers; `observed?` has no answer when a
partial sum leaves that range.
-/

namespace RackOperator.DataCenterStatus

/-- What a status says of a rack. -/
def rackEntry (o : Observation) (g : RackGroup) : RackStatus :=
  { name := g.rack.name, ready := o.isReady g.rack, mode := (o.modeOf? g.rack).getD .unknown,
    replicas := g.existing.replicas32 }

/-- What a status says of a member. -/
def podEntry (o : Observation) (m : Member) : PodStatus :=
  { podName := m.name, mode := o.statusOf m }

/-- The status with everything observed in place of what it said before; phase and error stay. -/
def observed? (s : DataCenterStatus) (o : Observation) (generation : Option Int64) :
    Option DataCenterStatus := do
  let replicas ← Layout.sum? (o.groups.map (·.statusReplicas))
  let ready ← Layout.sum? (o.groups.map (·.readyReplicas))
  let pods := o.members.map (podEntry o)
  let joined := (pods.filter fun p => p.mode = .normal).length
  return { s with
    replicas := Int32.ofInt replicas
    readyReplicas := Int32.ofInt ready
    joinedReplicas := Int32.ofNat joined
    rackStatuses := o.groups.map (rackEntry o)
    podStatuses := pods
    observedGeneration := generation }

end RackOperator.DataCenterStatus
