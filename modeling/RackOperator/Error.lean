/-!
# What can go wrong

An `OperatorError` names the cause; `OperatorError.message` words it.
-/

namespace RackOperator

/-- An error the cluster's API answered with. -/
structure ApiError where
  status : String := "Failure"
  code : Nat
  reason : String
  message : String
deriving DecidableEq, Repr

/-- Why an operation failed. -/
inductive OperatorError where
  /-- The cluster's API answered with an error. -/
  | api (error : ApiError)
  /-- The cluster's API could not be asked or its answer not be read. -/
  | transport (cause : String)
  | notFound (kind name ns : String)
  | alreadyExists (kind name : String)
  | invalidConfig (text : String)
  | invalidTask (name reason : String)
  | inconsistentState (datacenter reason : String)
  | sidecar (pod operation cause : String)
  | serialization (text : String)
  | unit (key description cause : String)
deriving DecidableEq, Repr

namespace OperatorError

/-- The error in words. -/
def message : OperatorError → String
  | api e => "Kubernetes API error: ApiError: " ++ e.message ++ ": " ++ e.reason
  | transport cause => "Kubernetes API error: " ++ cause
  | notFound kind name ns =>
    "Resource not found: " ++ kind ++ "/" ++ name ++ " in namespace " ++ ns
  | alreadyExists kind name => "Resource already exists: " ++ kind ++ "/" ++ name
  | invalidConfig text => "Invalid configuration: " ++ text
  | invalidTask name reason => "Invalid task " ++ name ++ ": " ++ reason
  | inconsistentState datacenter reason =>
    "Inconsistent state for datacenter " ++ datacenter ++ ": " ++ reason
  | sidecar pod operation cause =>
    "Sidecar call " ++ operation ++ " on " ++ pod ++ " failed: " ++ cause
  | serialization text => "Serialization error: " ++ text
  | unit key description cause =>
    "Work unit " ++ description ++ " for " ++ key ++ " aborted: " ++ cause

/-- Whether what was asked for does not exist. -/
def isNotFound : OperatorError → Bool
  | notFound .. => true
  | api e => e.code == 404
  | _ => false

/-- Whether what was to be created exists already. -/
def isAlreadyExists : OperatorError → Bool
  | alreadyExists .. => true
  | api e => e.code == 409
  | _ => false

end OperatorError

end RackOperator
