import RackOperator.Program

/-!
# Units of work and jobs

A `WorkUnit` is work that has to wait its turn under a key. A `Job` is what a
request for work comes to: it is settled at once, or a unit is to be queued.
-/

namespace RackOperator.WorkQueue

/-- Work that waits its turn under a key. -/
structure WorkUnit (α : Type) where
  key : ClusterKey
  description : String
  work : Program (Except OperatorError α)

/-- What a request for work comes to. -/
inductive Job (α : Type) where
  | settled (result : Except OperatorError α)
  | queued (unit : WorkUnit α)

end RackOperator.WorkQueue
