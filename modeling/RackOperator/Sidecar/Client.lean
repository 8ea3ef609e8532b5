import RackOperator.Error
import RackOperator.Naming

/-!
# Sidecar clients and their cache

A `Client` talks to one pod's sidecar at a base URL. `ClientCache.clientFor`
hands out the client kept for a member's host, or builds and keeps one.
-/

namespace RackOperator.Sidecar

/-- A way to talk to the sidecar of a pod. -/
structure Client where
  pod : String
  baseUrl : String
deriving DecidableEq, Repr

namespace Client

/-- A client for a pod at a base URL, which has to name a scheme it can speak. -/
def new (pod baseUrl : String) : Except OperatorError Client :=
  if baseUrl.startsWith "http://" || baseUrl.startsWith "https://" then .ok ⟨pod, baseUrl⟩
  else .error (.invalidConfig
    ("Sidecar URL must start with http:// or https://, got: " ++ baseUrl))

/-- A client for a member at its host and port. -/
def forMember (m : Member) : Except OperatorError Client :=
  new m.name ("http://" ++ m.host ++ ":" ++ Text.Decimal.text m.sidecarPort)

end Client

/-- Clients by host. -/
abbrev ClientCache := SortedMap String Client

namespace ClientCache

/-- The client kept for a member's host, or a new one that is kept from now on. -/
def clientFor (c : ClientCache) (m : Member) : Except OperatorError Client × ClientCache :=
  match c.find? m.host with
  | some client => (.ok client, c)
  | none =>
    match Client.forMember m with
    | .ok client => (.ok client, c.insert m.host client)
    | .error e => (.error e, c)

/-- Drop the client kept for a member's host. -/
def invalidate (c : ClientCache) (m : Member) : ClientCache := c.erase m.host

end ClientCache

end RackOperator.Sidecar
